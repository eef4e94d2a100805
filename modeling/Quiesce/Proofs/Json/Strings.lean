/-
# Strings are read as they are spelled

A string is read from its bytes piece by piece, and each spelling of a part gives the
pieces of the part, whatever follows it. Conversely, whatever is read up to the closing
quote was spelled part by part. What the pieces denote is what the parts denote: a text
only if no surrogate stands alone.
-/

import Quiesce.Proofs.Json.Grammar
import Quiesce.Proofs.Text.Utf8

namespace Quiesce.Json

/-! ## The bytes of characters -/

/-- The bytes of characters. -/
def octets (text : List Char) : List UInt8 :=
  text.flatMap String.utf8EncodeChar

@[simp] theorem octets_nil : octets [] = [] := rfl

@[simp] theorem octets_cons (c : Char) (text : List Char) :
    octets (c :: text) = String.utf8EncodeChar c ++ octets text := rfl

@[simp] theorem octets_append (first second : List Char) :
    octets (first ++ second) = octets first ++ octets second :=
  List.flatMap_append

theorem encode_eq_octets (text : String) : Utf8.encode text = octets text.toList := rfl

/-- An ASCII character is one byte. -/
theorem utf8EncodeChar_of_ascii {c : Char} (ascii : c.toNat < 0x80) :
    String.utf8EncodeChar c = [UInt8.ofNat c.toNat] := by
  have most : c.val.toNat ≤ 0x7F := Nat.le_of_lt_succ ascii
  rw [String.utf8EncodeChar]
  exact if_pos most

/-- Every other character has several, all of them beyond ASCII. -/
theorem utf8EncodeChar_of_not_ascii {c : Char} (beyond : 0x80 ≤ c.toNat) :
    ∃ lead more, String.utf8EncodeChar c = lead :: more ∧ 0x80 ≤ lead.toNat ∧
      ∀ byte ∈ more, 0x80 ≤ byte.toNat := by
  have beyond : ¬ c.val.toNat ≤ 0x7F := Nat.not_le_of_lt beyond
  have carried (n : Nat) : (UInt8.ofNat n).toNat = n % 256 := UInt8.toNat_ofNat'
  rw [String.utf8EncodeChar]
  generalize c.val.toNat = n at *
  simp only [if_neg beyond]
  repeat' split
  all_goals
    refine ⟨_, _, rfl, ?_, ?_⟩
    · rw [carried]
      omega
    · simp only [List.mem_cons, List.not_mem_nil, or_false, forall_eq_or_imp, forall_eq, carried]
      omega

/-- Bytes that begin with those of ASCII characters are the bytes of a text that begins with
these characters. -/
theorem exists_of_octets_eq_append {text chars : List Char} {rest : List UInt8}
    (ascii : ∀ c ∈ text, c.toNat < 0x80) (bytes : octets chars = octets text ++ rest) :
    ∃ more, chars = text ++ more ∧ rest = octets more := by
  induction text generalizing chars with
  | nil => exact ⟨chars, rfl, bytes.symm⟩
  | cons c text ih =>
    obtain ⟨first, others⟩ := List.forall_mem_cons.mp ascii
    rw [octets_cons, utf8EncodeChar_of_ascii first, List.cons_append, List.nil_append,
      List.cons_append] at bytes
    have carried {d : Char} (small : d.toNat < 0x80) : (UInt8.ofNat d.toNat).toNat = d.toNat := by
      rw [UInt8.toNat_ofNat', Nat.mod_eq_of_lt (by omega)]
    cases chars with
    | nil => cases bytes
    | cons d chars =>
      rcases Nat.lt_or_ge d.toNat 0x80 with small | beyond
      · rw [octets_cons, utf8EncodeChar_of_ascii small, List.cons_append, List.nil_append] at bytes
        obtain ⟨same, later⟩ := List.cons.inj bytes
        have same := congrArg UInt8.toNat same
        rw [carried small, carried first] at same
        obtain rfl := Char.toNat_inj.mp same
        obtain ⟨more, rfl, rest⟩ := ih others later
        exact ⟨more, rfl, rest⟩
      · obtain ⟨lead, later, encoded, large, -⟩ := utf8EncodeChar_of_not_ascii beyond
        rw [octets_cons, encoded, List.cons_append] at bytes
        obtain ⟨rfl, -⟩ := List.cons.inj bytes
        rw [carried first] at large
        omega

/-! ## Digits of code units -/

/-- A hexadecimal digit is one byte, which is read as the digit's value. -/
private theorem exists_byte_of_isHexDigit {c : Char} {value : Nat} (digit : IsHexDigit c value) :
    ∃ byte, String.utf8EncodeChar c = [byte] ∧ Hex.value? byte = some value := by
  let carries (c : Char) (value : Nat) := String.utf8EncodeChar c = [UInt8.ofNat c.toNat] ∧
    Hex.value? (UInt8.ofNat c.toNat) = some value
  have all : ∀ value < 16, carries (Hex.lower value) value ∧ carries (Hex.upper value) value := by
    decide
  obtain ⟨small, written⟩ := digit
  obtain rfl | rfl := written
  · exact ⟨_, (all value small).1⟩
  · exact ⟨_, (all value small).2⟩

/-- A byte that is read as a value is a hexadecimal digit of that value. -/
private theorem exists_isHexDigit_of_value? {byte : UInt8} {value : Nat}
    (read : Hex.value? byte = some value) :
    ∃ c, IsHexDigit c value ∧ c.toNat < 0x80 ∧ String.utf8EncodeChar c = [byte] := by
  have all : ∀ n < 0x80, ∀ value ∈ Hex.value? (UInt8.ofNat n),
      value < 16 ∧ Char.ofNat n ∈ [Hex.lower value, Hex.upper value] ∧
        (Char.ofNat n).toNat = n := by
    decide
  have small : byte.toNat < 0x80 := by
    simp only [Hex.value?, UInt8.le_iff_toNat_le, UInt8.toNat_ofNat] at read
    grind
  have listed := all byte.toNat small value (by rw [UInt8.ofNat_toNat, read]; rfl)
  obtain ⟨bounded, listed, carried⟩ := listed
  have ascii : (Char.ofNat byte.toNat).toNat < 0x80 := by omega
  refine ⟨Char.ofNat byte.toNat, ⟨bounded, by simpa using listed⟩, ascii, ?_⟩
  rw [utf8EncodeChar_of_ascii ascii, carried, UInt8.ofNat_toNat]

/-! ## Reading a literal -/

/-- The pieces as which a part is read: a character by its bytes, and a code unit as such. -/
def Part.pieces : Part → List Piece
  | .char c => (String.utf8EncodeChar c).map .byte
  | .unit value => [.unit value]

namespace Token

section

variable (seen : List Piece) (rest : List UInt8)

/-- A byte that is no control, quote or backslash stands for itself. -/
private theorem literal?_byte {byte : UInt8} (printable : 0x20 ≤ byte.toNat)
    (noQuote : byte.toNat ≠ 0x22) (noBackslash : byte.toNat ≠ 0x5C) :
    literal? seen (byte :: rest) = literal? (.byte byte :: seen) rest := by
  have noBackslash : byte ≠ 0x5C := by
    rintro rfl
    exact noBackslash rfl
  have noQuote : byte ≠ 0x22 := by
    rintro rfl
    exact noQuote rfl
  have printable : ¬ byte < 0x20 := by
    rw [UInt8.lt_iff_toNat_lt]
    exact Nat.not_lt_of_le printable
  rw [literal?]
  · rw [if_neg (by simp [printable, noBackslash])]
  · exact noQuote
  · exact fun _ _ _ _ _ escape => absurd escape noBackslash
  · exact fun _ _ escape => absurd escape noBackslash

/-- A control has to be escaped. -/
private theorem literal?_control {byte : UInt8} (control : byte.toNat < 0x20) :
    literal? seen (byte :: rest) = none := by
  have noQuote : byte ≠ 0x22 := by
    rintro rfl
    exact absurd control (by decide)
  have noBackslash : byte ≠ 0x5C := by
    rintro rfl
    exact absurd control (by decide)
  have control : byte < 0x20 := control
  rw [literal?]
  · exact if_pos (.inl control)
  · exact noQuote
  · exact fun _ _ _ _ _ escape => absurd escape noBackslash
  · exact fun _ _ escape => absurd escape noBackslash

private theorem literal?_bytes {bytes : List UInt8}
    (plain : ∀ byte ∈ bytes, 0x20 ≤ byte.toNat ∧ byte.toNat ≠ 0x22 ∧ byte.toNat ≠ 0x5C) :
    literal? seen (bytes ++ rest) = literal? ((bytes.map .byte).reverse ++ seen) rest := by
  induction bytes generalizing seen with
  | nil => rfl
  | cons byte bytes ih =>
    obtain ⟨⟨printable, noQuote, noBackslash⟩, plain⟩ := List.forall_mem_cons.mp plain
    rw [List.cons_append, literal?_byte seen _ printable noQuote noBackslash, ih _ plain]
    simp

/-- The bytes of a character are plain when the character is: those of a longer encoding are
all beyond ASCII. -/
private theorem plain_utf8EncodeChar {c : Char} (printable : 0x20 ≤ c.toNat) (noQuote : c ≠ '"')
    (noBackslash : c ≠ '\\') :
    ∀ byte ∈ String.utf8EncodeChar c,
      0x20 ≤ byte.toNat ∧ byte.toNat ≠ 0x22 ∧ byte.toNat ≠ 0x5C := by
  have noQuote : c.toNat ≠ 0x22 := fun same => noQuote (Char.toNat_inj.mp same)
  have noBackslash : c.toNat ≠ 0x5C := fun same => noBackslash (Char.toNat_inj.mp same)
  rcases Nat.lt_or_ge c.toNat 0x80 with ascii | beyond
  · have carried : (UInt8.ofNat c.toNat).toNat = c.toNat := by
      rw [UInt8.toNat_ofNat', Nat.mod_eq_of_lt (by omega)]
    rw [utf8EncodeChar_of_ascii ascii]
    simp only [List.mem_singleton, forall_eq, carried]
    exact ⟨printable, noQuote, noBackslash⟩
  · obtain ⟨lead, more, encoded, large, larger⟩ := utf8EncodeChar_of_not_ascii beyond
    rw [encoded]
    intro byte listed
    have large : 0x80 ≤ byte.toNat := by
      rcases List.mem_cons.mp listed with rfl | listed
      · exact large
      · exact larger byte listed
    omega

/-- A plain character is read as its bytes. -/
private theorem literal?_plain {c : Char} (printable : 0x20 ≤ c.toNat) (noQuote : c ≠ '"')
    (noBackslash : c ≠ '\\') :
    literal? seen (String.utf8EncodeChar c ++ rest) =
      literal? ((Part.char c).pieces.reverse ++ seen) rest :=
  literal?_bytes seen rest (plain_utf8EncodeChar printable noQuote noBackslash)

/-- Every spelling of a part is read as the pieces of the part. -/
private theorem literal?_part {part : Part} {text : List Char} (spelled : part.Spelled text) :
    literal? seen (octets text ++ rest) = literal? (part.pieces.reverse ++ seen) rest := by
  cases spelled with
  | plain printable noQuote noBackslash =>
    rw [octets_cons, octets_nil, List.append_nil]
    exact literal?_plain seen rest printable noQuote noBackslash
  | letter listed =>
    simp only [escapeLetters, List.mem_cons, Prod.mk.injEq, List.not_mem_nil, or_false] at listed
    rcases listed with ⟨rfl, rfl⟩ | ⟨rfl, rfl⟩ | ⟨rfl, rfl⟩ | ⟨rfl, rfl⟩ | ⟨rfl, rfl⟩ |
      ⟨rfl, rfl⟩ | ⟨rfl, rfl⟩ | ⟨rfl, rfl⟩ <;> rfl
  | @unit first second third fourth a b c d isFirst isSecond isThird isFourth =>
    obtain ⟨firstByte, firstEncoded, firstRead⟩ := exists_byte_of_isHexDigit isFirst
    obtain ⟨secondByte, secondEncoded, secondRead⟩ := exists_byte_of_isHexDigit isSecond
    obtain ⟨thirdByte, thirdEncoded, thirdRead⟩ := exists_byte_of_isHexDigit isThird
    obtain ⟨fourthByte, fourthEncoded, fourthRead⟩ := exists_byte_of_isHexDigit isFourth
    have unit : unit? firstByte secondByte thirdByte fourthByte =
        some (((a * 16 + b) * 16 + c) * 16 + d) := by
      simp [unit?, firstRead, secondRead, thirdRead, fourthRead]
    have bytes : octets ['\\', 'u', first, second, third, fourth] ++ rest =
        0x5C :: 0x75 :: firstByte :: secondByte :: thirdByte :: fourthByte :: rest := by
      simp only [octets_cons, octets_nil, firstEncoded, secondEncoded, thirdEncoded, fourthEncoded]
      rfl
    rw [bytes, literal?, unit]
    rfl

end

/-- A spelled literal is read to its closing quote, as the pieces of its parts. -/
theorem literal?_of_literal {text : List Char} {parts : List Part} (literal : Literal text parts)
    (seen : List Piece) (rest : List UInt8) :
    literal? seen (octets text ++ 0x22 :: rest) =
      some (seen.reverse ++ parts.flatMap Part.pieces, rest) := by
  induction literal generalizing seen with
  | nil => simp [literal?]
  | cons spelled _ ih =>
    rw [octets_append, List.append_assoc, literal?_part seen _ spelled, ih]
    simp

/-- A letter after a backslash that is read as a byte is one of those that give a character. -/
private theorem exists_letter_of_escaped? {letter byte : UInt8}
    (read : escaped? letter = some byte) :
    ∃ entry ∈ escapeLetters, octets [entry.1] = [letter] ∧ entry.1.toNat < 0x80 ∧
      String.utf8EncodeChar entry.2 = [byte] := by
  unfold escaped? at read
  split at read
  all_goals cases read
  all_goals decide

/-- Four bytes that are read as a code unit are the digits of that unit. -/
private theorem exists_digits_of_unit? {a b c d : UInt8} {unit : Nat}
    (read : unit? a b c d = some unit) :
    ∃ digits, Part.Spelled (.unit unit) ('\\' :: 'u' :: digits) ∧ octets digits = [a, b, c, d] ∧
      ∀ digit ∈ digits, digit.toNat < 0x80 := by
  simp only [unit?, Option.bind_eq_bind, Option.bind_eq_some_iff, Option.pure_def,
    Option.some.injEq] at read
  obtain ⟨p, first, q, second, r, third, s, fourth, rfl⟩ := read
  obtain ⟨_, isFirst, firstAscii, firstEncoded⟩ := exists_isHexDigit_of_value? first
  obtain ⟨_, isSecond, secondAscii, secondEncoded⟩ := exists_isHexDigit_of_value? second
  obtain ⟨_, isThird, thirdAscii, thirdEncoded⟩ := exists_isHexDigit_of_value? third
  obtain ⟨_, isFourth, fourthAscii, fourthEncoded⟩ := exists_isHexDigit_of_value? fourth
  refine ⟨_, .unit isFirst isSecond isThird isFourth, ?_, ?_⟩
  · simp only [octets_cons, octets_nil, firstEncoded, secondEncoded, thirdEncoded, fourthEncoded]
    rfl
  · simp [firstAscii, secondAscii, thirdAscii, fourthAscii]

/-- What is read after a backslash is one spelled part. -/
private theorem exists_part_of_escape (seen : List Piece) {chars : List Char}
    {result : List Piece × List UInt8} (read : literal? seen (0x5C :: octets chars) = some result) :
    ∃ part text more, Part.Spelled part ('\\' :: text) ∧ chars = text ++ more ∧
      literal? (part.pieces.reverse ++ seen) (octets more) = some result := by
  rcases bytes : octets chars with _ | ⟨letter, rest⟩
  · simp [bytes, literal?] at read
  rw [bytes] at read
  by_cases coded : letter = 0x75
  case neg =>
    simp only [literal?, coded, false_imp_iff, implies_true] at read
    split at read
    case h_2 => cases read
    next byte escaped =>
      obtain ⟨⟨letterChar, c⟩, listed, encoded, ascii, given⟩ := exists_letter_of_escaped? escaped
      have begins : octets chars = octets [letterChar] ++ rest := by rw [encoded, bytes]; rfl
      obtain ⟨more, rfl, rfl⟩ := exists_of_octets_eq_append (by simpa using ascii) begins
      refine ⟨.char c, [letterChar], more, .letter listed, rfl, ?_⟩
      rw [Part.pieces, given]
      exact read
  subst coded
  match rest with
  | a :: b :: c :: d :: rest =>
    rw [literal?] at read
    split at read
    case h_2 => cases read
    next unit coded =>
      obtain ⟨digits, spelled, encoded, ascii⟩ := exists_digits_of_unit? coded
      have begins : octets chars = octets ('u' :: digits) ++ rest := by
        rw [octets_cons, encoded, bytes]
        rfl
      have small : ∀ c ∈ 'u' :: digits, c.toNat < 0x80 :=
        List.forall_mem_cons.mpr ⟨by decide, ascii⟩
      obtain ⟨more, rfl, rfl⟩ := exists_of_octets_eq_append small begins
      exact ⟨.unit unit, 'u' :: digits, more, spelled, rfl, read⟩
  | [] | [_] | [_, _] | [_, _, _] => simp [literal?, escaped?] at read

/-- What is read of a text within a literal is the closing quote, or one spelled part. -/
private theorem exists_part_of_literal? (seen : List Piece) {chars : List Char}
    {result : List Piece × List UInt8} (read : literal? seen (octets chars) = some result) :
    (∃ more, chars = '"' :: more ∧ result = (seen.reverse, octets more)) ∨
      ∃ part text more, Part.Spelled part text ∧ chars = text ++ more ∧
        literal? (part.pieces.reverse ++ seen) (octets more) = some result := by
  cases chars with
  | nil => simp [literal?] at read
  | cons c chars =>
    by_cases quote : c = '"'
    · subst quote
      have ended : literal? seen (octets ('"' :: chars)) = some (seen.reverse, octets chars) := rfl
      rw [ended] at read
      exact .inl ⟨chars, rfl, (Option.some.inj read).symm⟩
    right
    by_cases backslash : c = '\\'
    · subst backslash
      obtain ⟨part, text, more, spelled, rfl, later⟩ := exists_part_of_escape seen read
      exact ⟨part, _, more, spelled, rfl, later⟩
    rcases Nat.lt_or_ge c.toNat 0x20 with control | printable
    · have carried : (UInt8.ofNat c.toNat).toNat < 0x20 := by
        rw [UInt8.toNat_ofNat', Nat.mod_eq_of_lt (by omega)]
        exact control
      have ascii : c.toNat < 0x80 := by omega
      rw [octets_cons, utf8EncodeChar_of_ascii ascii, List.singleton_append,
        literal?_control seen _ carried] at read
      cases read
    · refine ⟨.char c, [c], chars, .plain printable quote backslash, rfl, ?_⟩
      rw [octets_cons, literal?_plain seen _ printable quote backslash] at read
      exact read

/-- What is read of a text up to a closing quote is a spelled literal, as the pieces of its
parts. -/
theorem exists_literal_of_literal? (seen : List Piece) {chars : List Char} {pieces : List Piece}
    {rest : List UInt8} (read : literal? seen (octets chars) = some (pieces, rest)) :
    ∃ text parts more, Literal text parts ∧ chars = text ++ '"' :: more ∧ rest = octets more ∧
      pieces = seen.reverse ++ parts.flatMap Part.pieces := by
  -- By induction on the length: a part may have several characters.
  induction bound : chars.length using Nat.strongRecOn generalizing seen chars with
  | ind n ih =>
    rcases exists_part_of_literal? seen read with ⟨more, rfl, ended⟩ |
      ⟨part, text, more, spelled, rfl, goesOn⟩
    · obtain ⟨rfl, rfl⟩ := Prod.mk.inj ended
      exact ⟨[], [], more, .nil, rfl, rfl, by simp⟩
    · have nonempty : 0 < text.length := by cases spelled <;> simp
      rw [List.length_append] at bound
      obtain ⟨later, parts, last, literal, rfl, rfl, rfl⟩ :=
        ih more.length (by omega) (part.pieces.reverse ++ seen) goesOn rfl
      exact ⟨text ++ later, part :: parts, last, .cons spelled literal, by simp, rfl, by simp⟩

end Token

/-! ## What a literal denotes -/

namespace Piece

private theorem bytes?_bytes (seen bytes : List UInt8) (rest : List Piece) :
    bytes? seen (bytes.map .byte ++ rest) = bytes? (bytes.reverse ++ seen) rest := by
  induction bytes generalizing seen with
  | nil => rfl
  | cons byte bytes ih => simp [bytes?, ih]

/-- A code unit that is no surrogate denotes its character, whatever follows it. -/
private theorem bytes?_unit (seen : List UInt8) {value : Nat}
    (single : value < 0xD800 ∨ 0xDFFF < value) (rest : List Piece) :
    bytes? seen (.unit value :: rest) = bytes? ((ofCodePoint value).reverse ++ seen) rest := by
  have noHigh : ¬ (0xD800 ≤ value ∧ value ≤ 0xDBFF) := by omega
  have noLow : ¬ (0xDC00 ≤ value ∧ value ≤ 0xDFFF) := by omega
  have noSurrogate : ¬ (0xD800 ≤ value ∧ value ≤ 0xDFFF) := by omega
  match rest with
  | [] => simp [bytes?, noSurrogate]
  | .byte _ :: _ => simp [bytes?, noSurrogate]
  | .unit _ :: _ => simp [bytes?, noHigh, noLow]

/-- The pieces of parts denote the bytes of the characters that the parts denote. -/
private theorem bytes?_of_denotes {parts : List Part} {text : List Char}
    (denotes : Denotes parts text) (seen : List UInt8) :
    bytes? seen (parts.flatMap Part.pieces) = some (seen.reverse ++ octets text) := by
  induction denotes generalizing seen with
  | nil => simp [bytes?]
  | char c _ ih =>
    rw [List.flatMap_cons, Part.pieces, bytes?_bytes, ih]
    simp
  | unit single _ ih =>
    rw [List.flatMap_cons, Part.pieces, List.singleton_append, bytes?_unit seen single, ih]
    simp [ofCodePoint]
  | @pair high low isHigh isLow parts text _ ih =>
    have paired : bytes? seen (.unit high :: .unit low :: parts.flatMap Part.pieces) =
        bytes? ((ofCodePoint ((high - 0xD800) * 0x400 + (low - 0xDC00) + 0x10000)).reverse ++ seen)
          (parts.flatMap Part.pieces) := by
      rw [bytes?, if_pos isHigh, if_pos isLow]
    exact paired.trans (by rw [ih]; simp [ofCodePoint])

/-- Parts whose pieces denote bytes denote characters: no surrogate among them is alone. -/
private theorem exists_denotes_of_bytes? (parts : List Part) {seen bytes : List UInt8}
    (read : bytes? seen (parts.flatMap Part.pieces) = some bytes) :
    ∃ text, Denotes parts text := by
  induction bound : parts.length using Nat.strongRecOn generalizing parts seen with
  | ind n ih =>
    match parts with
    | [] => exact ⟨[], .nil⟩
    | .char c :: parts =>
      rw [List.flatMap_cons, Part.pieces, bytes?_bytes] at read
      obtain ⟨text, denotes⟩ := ih parts.length (by simp [← bound]) parts read rfl
      exact ⟨c :: text, .char c denotes⟩
    | .unit value :: parts =>
      by_cases single : value < 0xD800 ∨ 0xDFFF < value
      · rw [List.flatMap_cons, Part.pieces, List.singleton_append, bytes?_unit _ single] at read
        obtain ⟨text, denotes⟩ := ih parts.length (by simp [← bound]) parts read rfl
        exact ⟨_, .unit single denotes⟩
      -- A surrogate is read only as the high one of a pair.
      have surrogate : 0xD800 ≤ value ∧ value ≤ 0xDFFF := by omega
      match parts with
      | [] => simp [Part.pieces, bytes?, surrogate] at read
      | .char c :: parts =>
        obtain ⟨lead, more, encoded, -⟩ := Utf8.chunk_utf8EncodeChar c []
        simp [Part.pieces, encoded, bytes?, surrogate] at read
      | .unit low :: parts =>
        simp only [List.flatMap_cons, Part.pieces, List.singleton_append, bytes?] at read
        split at read
        case isFalse noHigh =>
          have isLow : 0xDC00 ≤ value ∧ value ≤ 0xDFFF := by omega
          rw [if_pos isLow] at read
          cases read
        next isHigh =>
          split at read
          case isFalse => cases read
          next isLow =>
            have shorter : parts.length < n := by
              simp only [List.length_cons] at bound
              omega
            obtain ⟨text, denotes⟩ := ih parts.length shorter parts read rfl
            exact ⟨_, .pair isHigh isLow denotes⟩

/-- The pieces of parts denote the text that the parts denote, if they denote one. -/
theorem text?_eq_some_iff (parts : List Part) (content : String) :
    text? (parts.flatMap Part.pieces) = some content ↔ Denotes parts content.toList := by
  have denoted {text : List Char} (denotes : Denotes parts text) :
      text? (parts.flatMap Part.pieces) = some (String.ofList text) := by
    have bytes : octets text = Utf8.encode (String.ofList text) := by
      rw [encode_eq_octets, String.toList_ofList]
    rw [text?, bytes?_of_denotes denotes, List.reverse_nil, List.nil_append, Option.bind_some,
      bytes, Utf8.decode?_encode]
  constructor
  · intro read
    obtain ⟨bytes, given, -⟩ := Option.bind_eq_some_iff.mp read
    obtain ⟨text, denotes⟩ := exists_denotes_of_bytes? parts given
    obtain rfl := Option.some.inj ((denoted denotes).symm.trans read)
    rw [String.toList_ofList]
    exact denotes
  · intro denotes
    rw [denoted denotes, String.ofList_toList]

end Piece

end Quiesce.Json
