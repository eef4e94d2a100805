/-
# Composed characters

A letter with marks can be written as one character or as a letter and its marks.
A text is composed when no two of its characters could be written as one. To
compose a text, every character is taken apart, the marks behind each letter are
put into the order of their classes, and then each mark that can be joined to the
letter before it is. Syllables of Hangul are composed of their letters by
arithmetic.

Only pairs that are joined again after they have been taken apart are listed.
-/

import Quiesce.Text.Marks

namespace Quiesce.Text

/-- Characters composed with the same last part: what each of them is composed of
besides, and the characters in the same order. -/
structure Joining where
  part : Nat
  bases : String
  composed : String

/-- The composed characters by their last parts. -/
def joinings : List Joining :=
  [⟨0x300, "AEIOUaeiouÜüNnЕИеиĒēŌōWwÂâĂăÊêÔôƠơƯưYyἀ", "ÀÈÌÒÙàèìòùǛǜǸǹЀЍѐѝḔḕṐṑẀẁẦầẰằỀềỒồỜờỪừỲỳἂ"⟩,
   ⟨0x300, "ἁἈἉἐἑἘἙἠἡἨἩἰἱἸἹὀὁὈὉὐὑὙὠὡὨὩαεηιουωΑΕΗ᾿ϊΙ", "ἃἊἋἒἓἚἛἢἣἪἫἲἳἺἻὂὃὊὋὒὓὛὢὣὪὫὰὲὴὶὸὺὼᾺῈῊ῍ῒῚ"⟩,
   ⟨0x300, "῾ϋΥ¨ΟΩ", "῝ῢῪ῭ῸῺ"⟩,
   ⟨0x301, "AEIOUYaeiouyCcLlNnRrSsZzÜüGgÅåÆæØø¨ΑΕΗΙ", "ÁÉÍÓÚÝáéíóúýĆćĹĺŃńŔŕŚśŹźǗǘǴǵǺǻǼǽǾǿ΅ΆΈΉΊ"⟩,
   ⟨0x301, "ΟΥΩϊαεηιϋουωϒГКгкÇçĒēÏïKkMmÕõŌōPpŨũWwÂâ", "ΌΎΏΐάέήίΰόύώϓЃЌѓќḈḉḖḗḮḯḰḱḾḿṌṍṒṓṔṕṸṹẂẃẤấ"⟩,
   ⟨0x301, "ĂăÊêÔôƠơƯưἀἁἈἉἐἑἘἙἠἡἨἩἰἱἸἹὀὁὈὉὐὑὙὠὡὨὩ᾿῾", "ẮắẾếỐốỚớỨứἄἅἌἍἔἕἜἝἤἥἬἭἴἵἼἽὄὅὌὍὔὕὝὤὥὬὭ῎῞"⟩,
   ⟨0x302, "AEIOUaeiouCcGgHhJjSsWwYyZzẠạẸẹỌọ", "ÂÊÎÔÛâêîôûĈĉĜĝĤĥĴĵŜŝŴŵŶŷẐẑẬậỆệỘộ"⟩,
   ⟨0x303, "ANOanoIiUuVvÂâĂăEeÊêÔôƠơƯưYy", "ÃÑÕãñõĨĩŨũṼṽẪẫẴẵẼẽỄễỖỗỠỡỮữỸỹ"⟩,
   ⟨0x304, "AaEeIiOoUuÜüÄäȦȧÆæǪǫÖöÕõȮȯYyИиУуGgḶḷṚṛα", "ĀāĒēĪīŌōŪūǕǖǞǟǠǡǢǣǬǭȪȫȬȭȰȱȲȳӢӣӮӯḠḡḸḹṜṝᾱ"⟩,
   ⟨0x304, "ΑιΙυΥ", "ᾹῑῙῡῩ"⟩,
   ⟨0x306, "AaEeGgIiOoUuУИиуЖжАаЕеȨȩẠạαΑιΙυΥ", "ĂăĔĕĞğĬĭŎŏŬŭЎЙйўӁӂӐӑӖӗḜḝẶặᾰᾸῐῘῠῨ"⟩,
   ⟨0x307, "CcEeGgIZzAaOoBbDdFfHhMmNnPpRrSsŚśŠšṢṣTt", "ĊċĖėĠġİŻżȦȧȮȯḂḃḊḋḞḟḢḣṀṁṄṅṖṗṘṙṠṡṤṥṦṧṨṩṪṫ"⟩,
   ⟨0x307, "WwXxYyſ𐗒𐗚", "ẆẇẊẋẎẏẛ𐗉𐗤"⟩,
   ⟨0x308, "AEIOUaeiouyYΙΥιυϒЕІеіАаӘәЖжЗзИиОоӨөЭэУу", "ÄËÏÖÜäëïöüÿŸΪΫϊϋϔЁЇёїӒӓӚӛӜӝӞӟӤӥӦӧӪӫӬӭӰӱ"⟩,
   ⟨0x308, "ЧчЫыHhÕõŪūWwXxt", "ӴӵӸӹḦḧṎṏṺṻẄẅẌẍẗ"⟩,
   ⟨0x309, "AaÂâĂăEeÊêIiOoÔôƠơUuƯưYy", "ẢảẨẩẲẳẺẻỂểỈỉỎỏỔổỞởỦủỬửỶỷ"⟩,
   ⟨0x30A, "AaUuwy", "ÅåŮůẘẙ"⟩,
   ⟨0x30B, "OoUuУу", "ŐőŰűӲӳ"⟩,
   ⟨0x30C, "CcDdEeLlNnRrSsTtZzAaIiOoUuÜüGgKkƷʒjHh", "ČčĎďĚěĽľŇňŘřŠšŤťŽžǍǎǏǐǑǒǓǔǙǚǦǧǨǩǮǯǰȞȟ"⟩,
   ⟨0x30F, "AaEeIiOoRrUuѴѵ", "ȀȁȄȅȈȉȌȍȐȑȔȕѶѷ"⟩,
   ⟨0x311, "AaEeIiOoRrUu", "ȂȃȆȇȊȋȎȏȒȓȖȗ"⟩,
   ⟨0x313, "αΑεΕηΗιΙοΟυωΩρ", "ἀἈἐἘἠἨἰἸὀὈὐὠὨῤ"⟩,
   ⟨0x314, "αΑεΕηΗιΙοΟυΥωΩρΡ", "ἁἉἑἙἡἩἱἹὁὉὑὙὡὩῥῬ"⟩,
   ⟨0x31B, "OoUu", "ƠơƯư"⟩,
   ⟨0x323, "BbDdHhKkLlMmNnRrSsTtVvWwZzAaEeIiOoƠơUuƯ", "ḄḅḌḍḤḥḲḳḶḷṂṃṆṇṚṛṢṣṬṭṾṿẈẉẒẓẠạẸẹỊịỌọỢợỤụỰ"⟩,
   ⟨0x323, "ưYy", "ựỴỵ"⟩,
   ⟨0x324, "Uu", "Ṳṳ"⟩,
   ⟨0x325, "Aa", "Ḁḁ"⟩,
   ⟨0x326, "SsTt", "ȘșȚț"⟩,
   ⟨0x327, "CcGgKkLlNnRrSsTtEeDdHh", "ÇçĢģĶķĻļŅņŖŗŞşŢţȨȩḐḑḨḩ"⟩,
   ⟨0x328, "AaEeIiUuOo", "ĄąĘęĮįŲųǪǫ"⟩,
   ⟨0x32D, "DdEeLlNnTtUu", "ḒḓḘḙḼḽṊṋṰṱṶṷ"⟩,
   ⟨0x32E, "Hh", "Ḫḫ"⟩,
   ⟨0x330, "EeIiUu", "ḚḛḬḭṴṵ"⟩,
   ⟨0x331, "BbDdKkLlNnRrTtZzh", "ḆḇḎḏḴḵḺḻṈṉṞṟṮṯẔẕẖ"⟩,
   ⟨0x338, "←→↔⇐⇔⇒∃∈∋∣∥∼≃≅≈=≡≍<>≤≥≲≳≶≷≺≻⊂⊃⊆⊇⊢⊨⊩⊫≼≽⊑", "↚↛↮⇍⇎⇏∄∉∌∤∦≁≄≇≉≠≢≭≮≯≰≱≴≵≸≹⊀⊁⊄⊅⊈⊉⊬⊭⊮⊯⋠⋡⋢"⟩,
   ⟨0x338, "⊒⊲⊳⊴⊵", "⋣⋪⋫⋬⋭"⟩,
   ⟨0x342, "ἀἁἈἉἠἡἨἩἰἱἸἹὐὑὙὠὡὨὩα¨η᾿ιϊ῾υϋω", "ἆἇἎἏἦἧἮἯἶἷἾἿὖὗὟὦὧὮὯᾶ῁ῆ῏ῖῗ῟ῦῧῶ"⟩,
   ⟨0x345, "ἀἁἂἃἄἅἆἇἈἉἊἋἌἍἎἏἠἡἢἣἤἥἦἧἨἩἪἫἬἭἮἯὠὡὢὣὤὥὦ", "ᾀᾁᾂᾃᾄᾅᾆᾇᾈᾉᾊᾋᾌᾍᾎᾏᾐᾑᾒᾓᾔᾕᾖᾗᾘᾙᾚᾛᾜᾝᾞᾟᾠᾡᾢᾣᾤᾥᾦ"⟩,
   ⟨0x345, "ὧὨὩὪὫὬὭὮὯὰαάᾶΑὴηήῆΗὼωώῶΩ", "ᾧᾨᾩᾪᾫᾬᾭᾮᾯᾲᾳᾴᾷᾼῂῃῄῇῌῲῳῴῷῼ"⟩,
   ⟨0x653, "\u0627", "\u0622"⟩,
   ⟨0x654, "\u0627\u0648\u064A\u06D5\u06C1\u06D2", "\u0623\u0624\u0626\u06C0\u06C2\u06D3"⟩,
   ⟨0x655, "\u0627", "\u0625"⟩,
   ⟨0x93C, "नरळ", "ऩऱऴ"⟩,
   ⟨0x9BE, "\u09C7", "\u09CB"⟩,
   ⟨0x9D7, "\u09C7", "\u09CC"⟩,
   ⟨0xB3E, "\u0B47", "\u0B4B"⟩,
   ⟨0xB56, "\u0B47", "\u0B48"⟩,
   ⟨0xB57, "\u0B47", "\u0B4C"⟩,
   ⟨0xBBE, "\u0BC6\u0BC7", "\u0BCA\u0BCB"⟩,
   ⟨0xBD7, "ஒ\u0BC6", "ஔ\u0BCC"⟩,
   ⟨0xC56, "\u0C46", "\u0C48"⟩,
   ⟨0xCC2, "\u0CC6", "\u0CCA"⟩,
   ⟨0xCD5, "\u0CBF\u0CC6\u0CCA", "\u0CC0\u0CC7\u0CCB"⟩,
   ⟨0xCD6, "\u0CC6", "\u0CC8"⟩,
   ⟨0xD3E, "\u0D46\u0D47", "\u0D4A\u0D4B"⟩,
   ⟨0xD57, "\u0D46", "\u0D4C"⟩,
   ⟨0xDCA, "\u0DD9\u0DDC", "\u0DDA\u0DDD"⟩,
   ⟨0xDCF, "\u0DD9", "\u0DDC"⟩,
   ⟨0xDDF, "\u0DD9", "\u0DDE"⟩,
   ⟨0x102E, "ဥ", "ဦ"⟩,
   ⟨0x1B35, "ᬅᬇᬉᬋᬍᬑ\u1B3A\u1B3C\u1B3E\u1B3F\u1B42", "ᬆᬈᬊᬌᬎᬒ\u1B3B\u1B3D\u1B40\u1B41\u1B43"⟩,
   ⟨0x3099, "かきくけこさしすせそたちつてとはひふへほうゝカキクケコサシスセソタチツテトハヒ", "がぎぐげござじずぜぞだぢづでどばびぶべぼゔゞガギグゲゴザジズゼゾダヂヅデドバビ"⟩,
   ⟨0x3099, "フヘホウワヰヱヲヽ", "ブベボヴヷヸヹヺヾ"⟩,
   ⟨0x309A, "はひふへほハヒフヘホ", "ぱぴぷぺぽパピプペポ"⟩,
   ⟨0x110BA, "𑂙𑂛𑂥", "𑂚𑂜𑂫"⟩,
   ⟨0x11127, "𑄱𑄲", "𑄮𑄯"⟩,
   ⟨0x1133E, "𑍇", "𑍋"⟩,
   ⟨0x11357, "𑍇", "𑍌"⟩,
   ⟨0x113B8, "𑏂", "𑏇"⟩,
   ⟨0x113BB, "𑎄", "𑎅"⟩,
   ⟨0x113C2, "𑎎", "𑎎𑏅"⟩,
   ⟨0x113C9, "𑎂𑎐𑏂", "𑎃𑎑𑏈"⟩,
   ⟨0x114B0, "𑒹", "𑒼"⟩,
   ⟨0x114BA, "𑒹", "𑒻"⟩,
   ⟨0x114BD, "𑒹", "𑒾"⟩,
   ⟨0x115AF, "𑖸𑖹", "𑖺𑖻"⟩,
   ⟨0x11930, "𑤵", "𑤸"⟩,
   ⟨0x1611E, "𖄞", "𖄡"⟩,
   ⟨0x1611F, "𖄢𖄡𖄢", "𖄣𖄤𖄦𖄧"⟩,
   ⟨0x16120, "𖄡𖄞", "𖄥𖄨"⟩,
   ⟨0x16129, "𖄞", "𖄢"⟩,
   ⟨0x16D67, "𖵧𖵣𖵩", "𖵨𖵩𖵪"⟩]

/-- The composed characters: for each last part, the first parts with what they
become. -/
def compositions : List (Nat × List (Char × Char)) :=
  joinings.map fun joining => (joining.part, joining.bases.toList.zip joining.composed.toList)

namespace Hangul

/-- The first syllable. -/
def syllables : Nat := 0xAC00

/-- The first leading consonant. -/
def leads : Nat := 0x1100

/-- The first vowel. -/
def vowels : Nat := 0x1161

/-- The code point before the first trailing consonant. -/
def trails : Nat := 0x11A7

/-- The parts of a syllable: a leading consonant, a vowel, and perhaps a trailing
consonant. -/
def parts? (c : Char) : Option (List Char) :=
  let index := c.toNat - syllables
  if syllables ≤ c.toNat ∧ index < 11172 then
    let lead := Char.ofNat (leads + index / 588)
    let vowel := Char.ofNat (vowels + index % 588 / 28)
    if index % 28 = 0 then some [lead, vowel]
    else some [lead, vowel, Char.ofNat (trails + index % 28)]
  else none

/-- The syllable that two parts make. -/
def join? (first second : Char) : Option Char :=
  let lead := first.toNat - leads
  let vowel := second.toNat - vowels
  let index := first.toNat - syllables
  let trail := second.toNat - trails
  if leads ≤ first.toNat ∧ lead < 19 ∧ vowels ≤ second.toNat ∧ vowel < 21 then
    some (Char.ofNat (syllables + (lead * 21 + vowel) * 28))
  else if syllables ≤ first.toNat ∧ index < 11172 ∧ index % 28 = 0 ∧
      trails < second.toNat ∧ trail < 28 then
    some (Char.ofNat (first.toNat + trail))
  else none

end Hangul

/-- The parts of a character that is composed in one step; any other stands for
itself. -/
def takeApart (c : Char) : List Char :=
  if c.toNat < 0x80 then [c]
  else
    let found := compositions.findSome? fun (part, pairs) =>
      (pairs.find? (·.2 = c)).map fun pair => [pair.1, Char.ofNat part]
    match found with
    | some parts => parts
    | none => (Hangul.parts? c).getD [c]

/-- A text with every character taken apart. No character is composed in more than
three steps. -/
def decomposed (text : List Char) : List Char :=
  ((text.flatMap takeApart).flatMap takeApart).flatMap takeApart

/-- Put a character in front of a text in order, behind the marks of lower classes. -/
def settleMark (c : Char) : List Char → List Char
  | [] => [c]
  | next :: rest =>
    if 0 < combiningClass next ∧ combiningClass next < combiningClass c then
      next :: settleMark c rest
    else c :: next :: rest

/-- A text with the marks behind each letter in the order of their classes. -/
def ordered (text : List Char) : List Char :=
  text.foldr settleMark []

/-- The character that two characters make. -/
def join? (first second : Char) : Option Char :=
  let listed := compositions.findSome? fun (part, pairs) =>
    if part = second.toNat then pairs.lookup first else none
  match listed with
  | some whole => some whole
  | none => Hangul.join? first second

/-- A text while it is composed: what is finished and the marks that could not be
joined to the letter at hand, both in reverse. -/
structure Composer where
  finished : List Char
  letter : Char
  kept : List Char

namespace Composer

/-- All characters taken so far, in reverse. -/
def taken (composer : Composer) : List Char :=
  composer.kept ++ composer.letter :: composer.finished

/-- Whether the letter can be reached by a character behind it: a mark is cut off by
another of its class or of a higher one. -/
def reaches (composer : Composer) (next : Char) : Bool :=
  match composer.kept with
  | [] => true
  | last :: _ => combiningClass last < combiningClass next

/-- Take the next character. -/
def take (composer : Composer) (next : Char) : Composer :=
  match if composer.reaches next then join? composer.letter next else none with
  | some whole => { composer with letter := whole }
  | none =>
    if combiningClass next = 0 then ⟨composer.taken, next, []⟩
    else { composer with kept := next :: composer.kept }

end Composer

/-- A text in its composed form. -/
def composed (text : List Char) : List Char :=
  match ordered (decomposed text) with
  | [] => []
  | first :: rest => (rest.foldl Composer.take ⟨[], first, []⟩).taken.reverse

end Quiesce.Text
