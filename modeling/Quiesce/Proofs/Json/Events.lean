/-
# Events are read back from JSON

What is written of a field means the field: a text, a number, a list of texts and the name
of a stage. So the members of the object that is written of an event give the event, and so
do their values alone, in the order in which they are declared. With the reading of whole
texts this says that an event is read back from its text in either form, `events_round_trip`,
and from a body that holds it, `readBytes_render`.
-/

import Quiesce.Proofs.Json.Acceptance
import Quiesce.Proofs.Json.Writing

namespace Quiesce

open Json (Draft Fault readText)

namespace Json

theorem Regular.nat (n : Nat) : (Json.nat n).Regular :=
  .number (Numeral.regular_ofNat n)

/-- A body that holds the text of a value is read as the value. -/
theorem readBytes_render {α : Type} {value : Json} (regular : value.Regular)
    (read : Draft → Except Fault α) :
    readBytes read (Utf8.encode value.render) = read (.ofJson value) := by
  rw [readBytes, Draft.read_render regular]

/-- So is the text itself. -/
theorem readText_render {α : Type} {value : Json} (regular : value.Regular)
    {read : Draft → Except Fault α} {result : α} (found : read (.ofJson value) = .ok result) :
    readText read value.render = .ok result :=
  readText_eq_ok_iff.mpr ⟨_, Draft.readWhole_render regular, found⟩

/-! ## Fields -/

namespace Draft

theorem isText_ofJson (text : String) : (ofJson (.string text)).IsText text := rfl

theorem isWord_ofJson (n : UInt32) : (ofJson (.nat n.toNat)).IsWord n :=
  ⟨Digits.ofNat n.toNat, rfl, Digits.value_ofNat n.toNat⟩

private theorem ofItems_map_string (texts : List String) :
    ofItems (texts.map .string) = texts.map fun text => .string (some text) := by
  induction texts with
  | nil => rfl
  | cons text rest ih => exact congrArg (_ :: ·) ih

theorem isTexts_ofJson (texts : List String) :
    (ofJson (.array (texts.map .string))).IsTexts texts := by
  rw [IsTexts, ofJson, ofItems_map_string]

theorem isCase_ofJson (stage : Stage) : (ofJson stage.toJson).IsCase stage.label := .inl rfl

end Draft

end Json

/-! ## Records -/

namespace Transition

/-- What is written of a transition. -/
private theorem ofJson_toJson (transition : Transition) :
    Draft.ofJson transition.toJson = .ofNamed [
      ("service", .ofJson (.string transition.service)),
      ("groups", .ofJson (.array (transition.groups.map .string))),
      ("current", .ofJson transition.current.toJson),
      ("target", .ofJson transition.target.toJson),
      ("occupancy", .ofJson (.nat transition.occupancy.toNat))] := rfl

theorem regular_toJson (transition : Transition) : transition.toJson.Regular := by
  refine .object ?_
  simp only [List.forall_mem_cons, List.not_mem_nil, false_implies, implies_true, and_true]
  refine ⟨.string _, .array ?_, .string _, .string _, .nat _⟩
  intro item listed
  obtain ⟨text, -, rfl⟩ := List.mem_map.mp listed
  exact .string text

/-- A transition is read back from its JSON form. -/
theorem ofDraft_toJson (transition : Transition) :
    ofDraft .text (.ofJson transition.toJson) = .ok transition := by
  rw [ofJson_toJson]
  exact ofDraft_object_eq_ok_iff.mpr ⟨_, rfl, {
    service := ⟨_, rfl, Draft.isText_ofJson _⟩
    groups := .inr ⟨_, rfl, Draft.isTexts_ofJson _⟩
    current := ⟨_, rfl, Draft.isCase_ofJson _⟩
    target := ⟨_, rfl, Draft.isCase_ofJson _⟩
    occupancy := ⟨_, rfl, Draft.isWord_ofJson _⟩ }⟩

end Transition

namespace Report

theorem regular_toJson (report : Report) : report.toJson.Regular := by
  refine .object ?_
  cases report.capacity <;>
    simp only [List.cons_append, List.nil_append, List.forall_mem_cons, List.not_mem_nil,
      false_implies, implies_true, and_true]
  · exact ⟨.string _, .nat _⟩
  · exact ⟨.string _, .nat _, .nat _⟩

/-- A report is read back from its JSON form, with or without a capacity. -/
theorem ofDraft_toJson (report : Report) :
    ofDraft .text (.ofJson report.toJson) = .ok report := by
  obtain ⟨service, occupancy, capacity⟩ := report
  cases capacity with
  | none =>
    have written : Draft.ofJson (toJson ⟨service, occupancy, none⟩) = .ofNamed [
        ("service", .ofJson (.string service)),
        ("occupancy", .ofJson (.nat occupancy.toNat))] := rfl
    rw [written]
    exact ofDraft_object_eq_ok_iff.mpr ⟨_, rfl, {
      service := ⟨_, rfl, Draft.isText_ofJson _⟩
      occupancy := ⟨_, rfl, Draft.isWord_ofJson _⟩
      capacity := .inl ⟨rfl, rfl⟩ }⟩
  | some capacity =>
    have written : Draft.ofJson (toJson ⟨service, occupancy, some capacity⟩) = .ofNamed [
        ("service", .ofJson (.string service)),
        ("occupancy", .ofJson (.nat occupancy.toNat)),
        ("max_players", .ofJson (.nat capacity.toNat))] := rfl
    rw [written]
    exact ofDraft_object_eq_ok_iff.mpr ⟨_, rfl, {
      service := ⟨_, rfl, Draft.isText_ofJson _⟩
      occupancy := ⟨_, rfl, Draft.isWord_ofJson _⟩
      capacity := .inr ⟨_, rfl, .inr ⟨capacity, Draft.isWord_ofJson _, rfl⟩⟩ }⟩

end Report

/-! ## The fields alone -/

namespace Json

/-- The values of the members of an object, in their order. -/
def values : Json → List Json
  | .object members => members.map (·.2)
  | _ => []

/-- The values of a regular object make a regular array. -/
theorem Regular.array_values {members : List (String × Json)}
    (regular : (Json.object members).Regular) :
    (Json.array (Json.object members).values).Regular := by
  cases regular with
  | object each =>
    refine .array fun item listed => ?_
    obtain ⟨member, given, rfl⟩ := List.mem_map.mp listed
    exact each member given

end Json

namespace Transition

theorem givenInOrder_values (transition : Transition) :
    transition.GivenInOrder (Draft.ofItems transition.toJson.values) :=
  ⟨_, _, _, _, _, rfl, Draft.isText_ofJson _, Draft.isTexts_ofJson _, Draft.isCase_ofJson _,
    Draft.isCase_ofJson _, Draft.isWord_ofJson _⟩

/-- Items give in their order what they give by the names of the fields. -/
theorem givenInOrder_iff {transition : Transition} {items : List Draft}
    (short : items.length ≤ fields.length) :
    transition.GivenInOrder items ↔ transition.GivenBy (fields.zip items) := by
  constructor
  · rintro ⟨service, groups, current, target, occupancy, rfl, isService, isGroups, isCurrent,
      isTarget, isOccupancy⟩
    exact {
      service := ⟨service, rfl, isService⟩
      groups := .inr ⟨groups, rfl, isGroups⟩
      current := ⟨current, rfl, isCurrent⟩
      target := ⟨target, rfl, isTarget⟩
      occupancy := ⟨occupancy, rfl, isOccupancy⟩ }
  · intro given
    match items, short with
    | [service, groups, current, target, occupancy], _ =>
      obtain ⟨_, ⟨⟩, isService⟩ := given.service
      obtain ⟨_, ⟨⟩, isCurrent⟩ := given.current
      obtain ⟨_, ⟨⟩, isTarget⟩ := given.target
      obtain ⟨_, ⟨⟩, isOccupancy⟩ := given.occupancy
      obtain ⟨absent, -⟩ | ⟨_, ⟨⟩, isGroups⟩ := given.groups
      · nomatch absent
      · exact ⟨service, groups, current, target, occupancy, rfl, isService, isGroups, isCurrent,
          isTarget, isOccupancy⟩
    | [], _ | [_], _ | [_, _], _ | [_, _, _], _ | [_, _, _, _], _ =>
      obtain ⟨_, missing, -⟩ := given.occupancy
      nomatch missing

end Transition

namespace Report

theorem givenInOrder_values (report : Report) :
    report.GivenInOrder (Draft.ofItems report.toJson.values) := by
  obtain ⟨service, occupancy, capacity⟩ := report
  cases capacity with
  | none =>
    exact ⟨_, _, [], rfl, Draft.isText_ofJson _, Draft.isWord_ofJson _, .inl ⟨rfl, rfl⟩⟩
  | some capacity =>
    exact ⟨_, _, [_], rfl, Draft.isText_ofJson _, Draft.isWord_ofJson _,
      .inr ⟨_, rfl, .inr ⟨capacity, Draft.isWord_ofJson _, rfl⟩⟩⟩

/-- Items give in their order what they give by the names of the fields. -/
theorem givenInOrder_iff {report : Report} {items : List Draft}
    (short : items.length ≤ fields.length) :
    report.GivenInOrder items ↔ report.GivenBy (fields.zip items) := by
  constructor
  · rintro ⟨service, occupancy, _, rfl, isService, isOccupancy, capacity⟩
    obtain ⟨rfl, absent⟩ | ⟨capacity, rfl, isCapacity⟩ := capacity
    · exact {
        service := ⟨service, rfl, isService⟩
        occupancy := ⟨occupancy, rfl, isOccupancy⟩
        capacity := .inl ⟨rfl, absent⟩ }
    · exact {
        service := ⟨service, rfl, isService⟩
        occupancy := ⟨occupancy, rfl, isOccupancy⟩
        capacity := .inr ⟨capacity, rfl, isCapacity⟩ }
  · intro given
    match items, short with
    | [service, occupancy], _ =>
      obtain ⟨_, ⟨⟩, isService⟩ := given.service
      obtain ⟨_, ⟨⟩, isOccupancy⟩ := given.occupancy
      obtain ⟨-, absent⟩ | ⟨_, missing, -⟩ := given.capacity
      · exact ⟨service, occupancy, [], rfl, isService, isOccupancy, .inl ⟨rfl, absent⟩⟩
      · nomatch missing
    | [service, occupancy, capacity], _ =>
      obtain ⟨_, ⟨⟩, isService⟩ := given.service
      obtain ⟨_, ⟨⟩, isOccupancy⟩ := given.occupancy
      obtain ⟨absent, -⟩ | ⟨_, ⟨⟩, isCapacity⟩ := given.capacity
      · nomatch absent
      · exact ⟨service, occupancy, [capacity], rfl, isService, isOccupancy,
          .inr ⟨capacity, rfl, isCapacity⟩⟩
    | [], _ | [_], _ =>
      obtain ⟨_, missing, -⟩ := given.occupancy
      nomatch missing

end Report

/-! ## Round trips -/

/-- A record is read back from what is written of it, and its fields alone do as well. -/
structure RoundTrips {α : Type} (toJson : α → Json) (read : Draft → Except Fault α)
    (fields : List String) : Prop where
  /-- The record is read back from its text. -/
  object : ∀ record, readText read (toJson record).render = .ok record
  /-- It is read back from the array of its fields, in the order in which they are written. -/
  array : ∀ record, readText read (Json.array (toJson record).values).render = .ok record
  /-- Every array is read as the object that gives its items by the names of the fields. -/
  positional : ∀ items, items.length ≤ fields.length → ∀ text other,
    (Draft.array items true).SpelledBy text → (Draft.ofNamed (fields.zip items)).SpelledBy other →
      (readText read text).toOption = (readText read other).toOption

/-- Records are read back when their readers read objects by name and arrays by position. -/
private theorem RoundTrips.of_recordReader {α : Type} {toJson : α → Json}
    {read : Draft → Except Fault α} {fields : List String}
    {GivenBy : α → List (String × Draft) → Prop} {GivenInOrder : α → List Draft → Prop}
    (reader : Json.RecordReader read fields GivenBy)
    (array : ∀ {items closed record}, read (.array items closed) = .ok record ↔
      closed = true ∧ GivenInOrder record items)
    (inOrder : ∀ {record items}, items.length ≤ fields.length →
      (GivenInOrder record items ↔ GivenBy record (fields.zip items)))
    (readBack : ∀ record, read (.ofJson (toJson record)) = .ok record)
    (values : ∀ record, GivenInOrder record (Draft.ofItems (toJson record).values))
    (regular : ∀ record, (toJson record).Regular)
    (regularValues : ∀ record, (Json.array (toJson record).values).Regular) :
    RoundTrips toJson read fields where
  object record := Json.readText_render (regular record) (readBack record)
  array record := Json.readText_render (regularValues record) (array.mpr ⟨rfl, values record⟩)
  positional := by
    intro items short text other spelled spelledOther
    rw [spelled.readText_eq, spelledOther.readText_eq]
    refine Json.toOption_eq_of_forall fun record => ?_
    rw [array, reader.ofNamed_eq_ok_iff, inOrder short]
    exact and_iff_right rfl

/-- Events are read back from their texts: transitions whatever their names, groups, stages and
occupancies, and reports with or without a capacity. An array of the fields in their order is
read as the object with these fields; the capacity, when left off, is none there as well. -/
theorem events_round_trip :
    RoundTrips Transition.toJson (Transition.ofDraft .text) Transition.fields ∧
      RoundTrips Report.toJson (Report.ofDraft .text) Report.fields :=
  ⟨.of_recordReader Transition.recordReader Transition.ofDraft_array_eq_ok_iff
      Transition.givenInOrder_iff Transition.ofDraft_toJson Transition.givenInOrder_values
      Transition.regular_toJson fun transition => transition.regular_toJson.array_values,
    .of_recordReader Report.recordReader Report.ofDraft_array_eq_ok_iff Report.givenInOrder_iff
      Report.ofDraft_toJson Report.givenInOrder_values Report.regular_toJson
      fun report => report.regular_toJson.array_values⟩

namespace Deletion

/-- The JSON form of a deletion. -/
def toJson (deletion : Deletion) : Json :=
  .object [("service", .string deletion.service)]

theorem regular_toJson (deletion : Deletion) : deletion.toJson.Regular := by
  refine .object ?_
  simp only [List.forall_mem_cons, List.not_mem_nil, false_implies, implies_true, and_true]
  exact .string _

/-- A deletion is read back from its JSON form. -/
theorem ofDraft_toJson (deletion : Deletion) :
    ofDraft .text (.ofJson deletion.toJson) = .ok deletion := by
  rfl

end Deletion

end Quiesce
