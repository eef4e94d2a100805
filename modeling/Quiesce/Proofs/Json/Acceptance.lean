/-
# Which texts are accepted as events

A text in the form of an object is read as an event exactly when it is JSON and its members
give the event. Blanks, escapes and the spelling of numerals do not matter beyond that, nor
does the order of the members, nor what stands in members that are no fields, however deep.
In particular there is no event without an occupancy that was given, once and as a number:
nothing else is taken for zero players.
-/

import Quiesce.Proofs.Json.Records

namespace Quiesce

namespace Json

/-! ## The form of an object -/

/-- The first character of a text that is no blank. -/
def lead? (text : List Char) : Option Char :=
  (text.dropWhile (· ∈ blanks)).head?

/-- A text that begins as an object. -/
def InObjectForm (text : String) : Prop :=
  lead? text.toList = some '\x7b'

instance (text : String) : Decidable (InObjectForm text) :=
  inferInstanceAs (Decidable (_ = _))

/-- A row of tokens begins with the first of them. -/
private theorem Lexed.lead?_eq {token : Token} {tokens : List Token} {c : Char} {chars : List Char}
    (single : ∀ text, token.Spelled text → text = [c]) (noBlank : c ∉ blanks)
    (lexed : Lexed chars (token :: tokens)) : lead? chars = some c := by
  generalize row : token :: tokens = all at lexed
  induction lexed with
  | nil => nomatch row
  | @blank blank text _ isBlank _ ih =>
    have skipped : lead? (blank :: text) = lead? text := by simp [lead?, isBlank]
    rw [skipped, ih row]
  | token spelled _ _ =>
    obtain ⟨rfl, rfl⟩ := List.cons.inj row
    obtain rfl := single _ spelled
    simp [lead?, noBlank]

/-- What is spelled by a text in the form of an object is no array. -/
private theorem InObjectForm.not_spelledBy_array {text : String} (form : InObjectForm text)
    {items : List Draft} {closed : Bool} : ¬ (Draft.array items closed).SpelledBy text := by
  rintro ⟨-, lexed⟩
  rw [Draft.tokens] at lexed
  have bracket : lead? text.toList = some '[' :=
    lexed.lead?_eq (fun _ spelled => by cases spelled; rfl) (by decide)
  rw [form] at bracket
  exact absurd (Option.some.inj bracket) (by decide)

/-- Every text that spells an object is in object form. -/
theorem inObjectForm_of_spelledBy {text : String} {members : List (String × Draft)}
    (spelled : (Draft.ofNamed members).SpelledBy text) : InObjectForm text := by
  obtain ⟨-, lexed⟩ := spelled
  rw [Draft.ofNamed, Draft.tokens] at lexed
  exact lexed.lead?_eq (fun _ spelled => by cases spelled; rfl) (by decide)

/-! ## Exact reading -/

/-- A value is read off a text when it is read off its draft and nothing is left over. -/
theorem readText_eq_ok_iff {α : Type} {read : Draft → Except Fault α} {text : String} {value : α} :
    readText read text = .ok value ↔
      ∃ draft, Draft.readWhole (Utf8.encode text) = (draft, true) ∧ read draft = .ok value := by
  rw [readText]
  rcases Draft.readWhole (Utf8.encode text) with ⟨draft, clean⟩
  simp only [bind_eq_ok_iff, Prod.mk.injEq]
  cases clean with
  | false =>
    refine ⟨?_, fun ⟨_, ⟨_, unclean⟩, _⟩ => nomatch unclean⟩
    rintro ⟨_, -, ended⟩
    nomatch ended
  | true =>
    constructor
    · rintro ⟨_, found, ⟨⟩⟩
      exact ⟨draft, ⟨rfl, rfl⟩, found⟩
    · rintro ⟨_, ⟨rfl, -⟩, found⟩
      exact ⟨value, found, rfl⟩

/-- A text that spells a value is read as the value. -/
theorem Draft.SpelledBy.readText_eq {α : Type} {read : Draft → Except Fault α} {draft : Draft}
    {text : String} (spelled : draft.SpelledBy text) : readText read text = read draft := by
  rw [readText, (Draft.readWhole_eq_iff.mpr spelled).1]
  exact bind_pure (read draft)

/-- What is read does not depend on how a failure is worded. -/
theorem toOption_eq_of_forall {α : Type} {first second : Except Fault α}
    (same : ∀ value, first = .ok value ↔ second = .ok value) :
    first.toOption = second.toOption := by
  cases first with
  | ok value => rw [(same value).mp rfl]
  | error fault =>
    cases second with
    | ok value => nomatch (same value).mpr rfl
    | error other => rfl

/-- A record is read off a text exactly as the members of an object give it. -/
structure ReadExactly {α : Type} (read : Draft → Except Fault α) (fields : List String)
    (GivenBy : α → List (String × Draft) → Prop) (text : String) : Prop where
  /-- It is read when the text is JSON whose members give it, and only then. -/
  accepts : ∀ record, readText read text = .ok record ↔
    ∃ members, (Draft.ofNamed members).SpelledBy text ∧ GivenBy record members
  /-- The order of the members does not matter, nor does any member that is no field. -/
  fieldsOnly : ∀ members, (Draft.ofNamed members).SpelledBy text →
    ∀ other others, (Draft.ofNamed others).SpelledBy other →
      (others.filter (·.1 ∈ fields)).Perm (members.filter (·.1 ∈ fields)) →
        (readText read other).toOption = (readText read text).toOption
  /-- Nothing is read without an occupancy that is given once and is a number of 32 bits. -/
  counted : ∀ members, (Draft.ofNamed members).SpelledBy text →
    (∀ count, ¬ GivenOnce "occupancy" members (·.IsWord count)) →
      ∀ record, readText read text ≠ .ok record

section

variable {fields : List String} {members others : List (String × Draft)} {name : String}

/-- The values of a field are among the members that are fields. -/
private theorem valuesOf_perm (field : name ∈ fields)
    (same : (members.filter (·.1 ∈ fields)).Perm (others.filter (·.1 ∈ fields))) :
    (valuesOf name members).Perm (valuesOf name others) := by
  have among (all : List (String × Draft)) :
      valuesOf name all = ((all.filter (·.1 ∈ fields)).filter (·.1 = name)).map (·.2) := by
    rw [valuesOf, List.filter_filter]
    congr 1
    refine List.filter_congr fun member _ => ?_
    by_cases named : member.1 = name <;> simp [named, field]
  rw [among, among]
  exact (same.filter _).map _

/-- A single value has no order. -/
theorem GivenOnce.of_perm {means : Draft → Prop} (given : GivenOnce name members means)
    (same : (valuesOf name members).Perm (valuesOf name others)) :
    GivenOnce name others means := by
  obtain ⟨value, values, meant⟩ := given
  rw [values] at same
  exact ⟨value, (List.singleton_perm.mp same).symm, meant⟩

private theorem valuesOf_eq_nil_of_perm (absent : valuesOf name members = [])
    (same : (valuesOf name members).Perm (valuesOf name others)) : valuesOf name others = [] := by
  rw [absent] at same
  exact same.nil_eq.symm

end

/-- A reader of records: it reads an object as its members give it, whatever they are besides
the fields, and reads nothing else but whole arrays. -/
structure RecordReader {α : Type} (read : Draft → Except Fault α) (fields : List String)
    (GivenBy : α → List (String × Draft) → Prop) : Prop where
  object : ∀ {members closed record}, read (.object members closed) = .ok record ↔
    ∃ named, Draft.object members closed = .ofNamed named ∧ GivenBy record named
  container : ∀ {draft record}, read draft = .ok record →
    (∃ members closed, draft = .object members closed) ∨ ∃ items, draft = .array items true
  perm : ∀ {record members others},
    (∀ name ∈ fields, (valuesOf name members).Perm (valuesOf name others)) →
      GivenBy record members → GivenBy record others
  counted : ∀ {record members}, GivenBy record members →
    ∃ count, GivenOnce "occupancy" members (·.IsWord count)

namespace RecordReader

variable {α : Type} {read : Draft → Except Fault α} {fields : List String}
  {GivenBy : α → List (String × Draft) → Prop} {text : String} {record : α}

/-- What is read of a text in the form of an object is what the object gives that it spells. -/
theorem readText_eq_ok_iff_given (reader : RecordReader read fields GivenBy)
    (form : InObjectForm text) :
    readText read text = .ok record ↔
      ∃ members, (Draft.ofNamed members).SpelledBy text ∧ GivenBy record members := by
  rw [readText_eq_ok_iff]
  constructor
  · rintro ⟨draft, whole, found⟩
    rcases reader.container found with ⟨members, closed, rfl⟩ | ⟨items, rfl⟩
    · obtain ⟨named, same, given⟩ := reader.object.mp found
      rw [same] at whole
      exact ⟨named, Draft.readWhole_eq_iff.mp ⟨whole, rfl⟩, given⟩
    · exact absurd (Draft.readWhole_eq_iff.mp ⟨whole, rfl⟩) form.not_spelledBy_array
  · rintro ⟨members, spelled, given⟩
    exact ⟨_, (Draft.readWhole_eq_iff.mpr spelled).1, reader.object.mpr ⟨members, rfl, given⟩⟩

/-- Of an object nothing is read but what its members give. -/
theorem ofNamed_eq_ok_iff (reader : RecordReader read fields GivenBy)
    {members : List (String × Draft)} :
    read (.ofNamed members) = .ok record ↔ GivenBy record members := by
  rw [Draft.ofNamed, reader.object]
  constructor
  · rintro ⟨others, same, given⟩
    obtain rfl := Draft.ofNamed_injective same
    exact given
  · exact fun given => ⟨members, rfl, given⟩

/-- A reader of records reads every text in the form of an object exactly. -/
theorem readExactly (reader : RecordReader read fields GivenBy) (form : InObjectForm text) :
    ReadExactly read fields GivenBy text where
  accepts _ := reader.readText_eq_ok_iff_given form
  fieldsOnly := by
    intro members spelled other others spelledOther same
    rw [spelled.readText_eq, spelledOther.readText_eq]
    refine toOption_eq_of_forall fun record => ?_
    rw [reader.ofNamed_eq_ok_iff, reader.ofNamed_eq_ok_iff]
    exact ⟨reader.perm fun _ field => valuesOf_perm field same,
      reader.perm fun _ field => valuesOf_perm field same.symm⟩
  counted := by
    intro members spelled uncounted record found
    rw [spelled.readText_eq, reader.ofNamed_eq_ok_iff] at found
    obtain ⟨count, given⟩ := reader.counted found
    exact uncounted count given

end RecordReader

end Json

open Json

namespace Transition

theorem recordReader : RecordReader (ofDraft .text) fields GivenBy where
  object := ofDraft_object_eq_ok_iff
  container := by
    intro draft transition found
    cases draft with
    | object members closed => exact .inl ⟨members, closed, rfl⟩
    | array items closed =>
      obtain ⟨rfl, -⟩ := ofDraft_array_eq_ok_iff.mp found
      exact .inr ⟨items, rfl⟩
    | _ => nomatch found
  perm same given := {
    service := given.service.of_perm (same _ (by decide))
    groups := given.groups.imp (.imp_left (valuesOf_eq_nil_of_perm · (same _ (by decide))))
      (·.of_perm (same _ (by decide)))
    current := given.current.of_perm (same _ (by decide))
    target := given.target.of_perm (same _ (by decide))
    occupancy := given.occupancy.of_perm (same _ (by decide)) }
  counted given := ⟨_, given.occupancy⟩

end Transition

namespace Report

theorem recordReader : RecordReader (ofDraft .text) fields GivenBy where
  object := ofDraft_object_eq_ok_iff
  container := by
    intro draft report found
    cases draft with
    | object members closed => exact .inl ⟨members, closed, rfl⟩
    | array items closed =>
      obtain ⟨rfl, -⟩ := ofDraft_array_eq_ok_iff.mp found
      exact .inr ⟨items, rfl⟩
    | _ => nomatch found
  perm same given := {
    service := given.service.of_perm (same _ (by decide))
    occupancy := given.occupancy.of_perm (same _ (by decide))
    capacity := given.capacity.imp (.imp_left (valuesOf_eq_nil_of_perm · (same _ (by decide))))
      (·.of_perm (same _ (by decide))) }
  counted given := ⟨_, given.occupancy⟩

end Report

/-- A text in the form of an object is read as a transition, and as a report, exactly when it
is JSON whose members give one: each field as often as it may be given, and with a value that
means what the event says. -/
theorem events_read_exactly {text : String} (form : InObjectForm text) :
    ReadExactly (Transition.ofDraft .text) Transition.fields Transition.GivenBy text ∧
      ReadExactly (Report.ofDraft .text) Report.fields Report.GivenBy text :=
  ⟨Transition.recordReader.readExactly form, Report.recordReader.readExactly form⟩

/-- The stop of a lobby with three players, with a member that is no field. -/
def Transition.crowdedText : String :=
  "\x7b\"extra\": [\x7b\"a\": \"\\ud800\"\x7d, -1.5e3], \"occupancy\": 3, \"target\": " ++
    "\x7b\"STOPPED\": null\x7d, \"current\": \"RUNNING\", \"serv\\u0069ce\": \"lobby-1\"\x7d"

/-- The members of its text. -/
def Transition.crowdedMembers : List (String × Draft) :=
  [("extra", .array [.object [(some "a", .string none)] true,
      .number ⟨true, Digits.ofNat 1, Digits.ofNat 5, some (false, Digits.ofNat 3)⟩] true),
    ("occupancy", .number (.ofNat 3)),
    ("target", .object [(some "STOPPED", .null)] true),
    ("current", .string (some "RUNNING")), ("service", .string (some "lobby-1"))]

/-- The fields alone, in another order. -/
def Transition.plainText : String :=
  "\x7b\"service\":\"lobby-1\",\"current\":\"RUNNING\",\"target\":\x7b\"STOPPED\":null\x7d," ++
    "\"occupancy\":3\x7d"

/-- What is scanned to the tokens of whole members is spelled by them. -/
private theorem spelledBy_of_scan {members : List (String × Draft)} {text : String}
    (whole : ∀ member ∈ members, member.2.Whole)
    (scanned : scan (Utf8.encode text) = ⟨(Draft.ofNamed members).tokens, true⟩) :
    (Draft.ofNamed members).SpelledBy text := by
  refine ⟨.object fun member among => ?_, lexed_of_scan scanned⟩
  obtain ⟨named, listed, rfl⟩ := List.mem_map.mp among
  exact whole named listed

private theorem whole_crowdedMembers : ∀ member ∈ Transition.crowdedMembers, member.2.Whole := by
  have extra :
      (Draft.array [.object [(some "a", .string none)] true,
        .number ⟨true, Digits.ofNat 1, Digits.ofNat 5, some (false, Digits.ofNat 3)⟩]
        true).Whole := by
    refine .array ?_
    simp only [List.forall_mem_cons, List.not_mem_nil, false_imp_iff, implies_true, and_true]
    exact ⟨.object (by simpa using .string none), .number _⟩
  have target : (Draft.object [(some "STOPPED", .null)] true).Whole :=
    .object (by simpa using .null)
  simp only [Transition.crowdedMembers, List.forall_mem_cons, List.not_mem_nil, false_imp_iff,
    implies_true, and_true]
  exact ⟨extra, .number _, target, .string _, .string _⟩

/-- Both texts are read as the stop, and nothing is read of an object without members. -/
theorem events_read_exactly_at_crowded :
    let stop : Transition := ⟨"lobby-1", [], .running, .stopped, 3⟩
    readText (Transition.ofDraft .text) Transition.crowdedText = .ok stop ∧
      readText (Report.ofDraft .text) Transition.crowdedText = .ok ⟨"lobby-1", 3, none⟩ ∧
      (readText (Transition.ofDraft .text) Transition.plainText).toOption = some stop ∧
      ∀ report, readText (Report.ofDraft .text) "\x7b\x7d" ≠ .ok report := by
  intro stop
  have spelled : (Draft.ofNamed Transition.crowdedMembers).SpelledBy Transition.crowdedText :=
    spelledBy_of_scan whole_crowdedMembers (by decide +kernel)
  have spelledPlain : (Draft.ofNamed (Transition.crowdedMembers.drop 1).reverse).SpelledBy
      Transition.plainText :=
    spelledBy_of_scan (fun member among => whole_crowdedMembers member
      (List.mem_of_mem_drop (List.mem_reverse.mp among))) (by decide +kernel)
  have spelledEmpty : (Draft.ofNamed []).SpelledBy "\x7b\x7d" :=
    spelledBy_of_scan (by simp) (by decide +kernel)
  have form : InObjectForm Transition.crowdedText := by decide +kernel
  have formEmpty : InObjectForm "\x7b\x7d" := by decide +kernel
  obtain ⟨transitions, reports⟩ := events_read_exactly form
  have three : (Draft.number (.ofNat 3)).IsWord 3 := ⟨Digits.ofNat 3, rfl, by decide +kernel⟩
  have given : stop.GivenBy Transition.crowdedMembers := {
    service := ⟨_, rfl, rfl⟩
    groups := .inl ⟨rfl, rfl⟩
    current := ⟨_, rfl, .inl rfl⟩
    target := ⟨_, rfl, .inr rfl⟩
    occupancy := ⟨_, rfl, three⟩ }
  have reported : Report.GivenBy ⟨"lobby-1", 3, none⟩ Transition.crowdedMembers := {
    service := ⟨_, rfl, rfl⟩
    occupancy := ⟨_, rfl, three⟩
    capacity := .inl ⟨rfl, rfl⟩ }
  have read := (transitions.accepts stop).mpr ⟨_, spelled, given⟩
  have fieldsOnly := transitions.fieldsOnly _ spelled _ _ spelledPlain
    (List.reverse_perm (Transition.crowdedMembers.drop 1))
  refine ⟨read, (reports.accepts _).mpr ⟨_, spelled, reported⟩, fieldsOnly.trans ?_, ?_⟩
  · rw [read]
    rfl
  · refine (events_read_exactly formEmpty).2.counted [] spelledEmpty fun count given => ?_
    obtain ⟨_, values, -⟩ := given
    cases values

end Quiesce
