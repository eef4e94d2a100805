/-
# Records are read exactly as they are given

A reader goes through the members of an object one by one and fills a slot for each field
it knows. What the slot of a field holds in the end depends on the values given for the
field alone: `slotAfter` follows a single slot, and the step of each record is shown to be
that step on every slot at once. So an object is read as a record exactly when each field
is given as often as it may be and means what the record says, by whatever members and in
whatever order; what is said of names that are no fields does not matter.
-/

import Quiesce.Proofs.Json.Fields
import Quiesce.Proofs.Json.Reading

namespace Quiesce

namespace Json

/-! ## One field -/

/-- An object whose names are texts. -/
def Draft.ofNamed (members : List (String × Draft)) : Draft :=
  .object (members.map fun member => (some member.1, member.2)) true

/-- Objects are told apart by their members. -/
theorem Draft.ofNamed_injective {members others : List (String × Draft)}
    (same : Draft.ofNamed members = .ofNamed others) : members = others := by
  have pairs := (Draft.object.inj same).1
  refine List.map_injective_iff.mpr ?_ pairs
  rintro ⟨name, value⟩ ⟨_, _⟩ ⟨⟩
  rfl

/-- The values given for a name, in their order. -/
def valuesOf (name : String) (members : List (String × Draft)) : List Draft :=
  (members.filter fun member => member.1 = name).map (·.2)

/-- A name is given once, and its value means what is asked of it. -/
def GivenOnce (name : String) (members : List (String × Draft)) (means : Draft → Prop) : Prop :=
  ∃ value, valuesOf name members = [value] ∧ means value

/-- What the slot of a field holds after all values given for it. -/
def slotAfter {α : Type} (name : String) (read : Draft → Except Fault α) (slot : Option α)
    (members : List (String × Draft)) : Except Fault (Option α) :=
  (valuesOf name members).foldlM (fun slot value => fill name slot (read value)) slot

section

variable {α : Type} {name : String} {read : Draft → Except Fault α} {slot : Option α}
  {members : List (String × Draft)}

theorem slotAfter_nil : slotAfter name read slot [] = .ok slot := rfl

/-- A member fills the slot of its own name. -/
theorem slotAfter_cons (member : String × Draft) :
    slotAfter name read slot (member :: members) =
      if member.1 = name then
        fill name slot (read member.2) >>= fun slot => slotAfter name read slot members
      else slotAfter name read slot members := by
  unfold slotAfter valuesOf
  by_cases same : member.1 = name <;> simp [same]

/-- An empty slot is filled with what is read. -/
private theorem fill_none_eq_ok_iff {result : Except Fault α} {after : Option α} :
    fill name none result = .ok after ↔ ∃ value, result = .ok value ∧ some value = after := by
  rw [fill, map_eq_ok_iff]
  simp only [within_eq_ok_iff]

/-- A filled slot takes no further value. -/
private theorem foldlM_fill_some {value : α} {values : List Draft} {after : Option α} :
    values.foldlM (fun slot value => fill name slot (read value)) (some value) = .ok after ↔
      values = [] ∧ some value = after := by
  cases values with
  | nil =>
    rw [List.foldlM_nil, pure_eq_ok_iff]
    exact (and_iff_right rfl).symm
  | cons second more => exact ⟨nofun, nofun⟩

/-- A slot ends up empty when nothing is given for its field. -/
theorem slotAfter_eq_none_iff :
    slotAfter name read none members = .ok none ↔ valuesOf name members = [] := by
  unfold slotAfter
  cases valuesOf name members with
  | nil => simp
  | cons value more =>
    simp only [List.foldlM_cons, bind_eq_ok_iff, fill_none_eq_ok_iff]
    refine ⟨?_, nofun⟩
    rintro ⟨_, ⟨value, -, rfl⟩, filled⟩
    nomatch (foldlM_fill_some.mp filled).2

/-- It ends up filled when its field is given once. -/
theorem slotAfter_eq_some_iff {result : α} {means : Draft → Prop}
    (reads : ∀ {value}, read value = .ok result ↔ means value) :
    slotAfter name read none members = .ok (some result) ↔ GivenOnce name members means := by
  unfold slotAfter GivenOnce
  cases valuesOf name members with
  | nil => exact ⟨nofun, nofun⟩
  | cons value more =>
    simp only [List.foldlM_cons, bind_eq_ok_iff, fill_none_eq_ok_iff]
    constructor
    · rintro ⟨_, ⟨first, read, rfl⟩, filled⟩
      obtain ⟨rfl, same⟩ := foldlM_fill_some.mp filled
      obtain rfl := Option.some.inj same
      exact ⟨value, rfl, reads.mp read⟩
    · rintro ⟨_, ⟨⟩, meant⟩
      exact ⟨some result, ⟨result, reads.mpr meant, rfl⟩, rfl⟩

/-- A field may be left out when a default stands for it. -/
theorem slotAfter_getD_eq_iff {default result : α} {means : Draft → Prop}
    (reads : ∀ {value}, read value = .ok result ↔ means value) :
    (∃ after, slotAfter name read none members = .ok after ∧ after.getD default = result) ↔
      valuesOf name members = [] ∧ result = default ∨ GivenOnce name members means := by
  constructor
  · rintro ⟨_ | value, filled, rfl⟩
    · exact .inl ⟨slotAfter_eq_none_iff.mp filled, rfl⟩
    · exact .inr ((slotAfter_eq_some_iff reads).mp filled)
  · rintro (⟨absent, rfl⟩ | given)
    · exact ⟨none, slotAfter_eq_none_iff.mpr absent, rfl⟩
    · exact ⟨some result, (slotAfter_eq_some_iff reads).mpr given, rfl⟩

theorem demand_eq_ok_iff {value : α} : demand name slot = .ok value ↔ slot = some value := by
  cases slot with
  | none => exact ⟨nofun, nofun⟩
  | some found => simp [demand]

end

/-! ## All members -/

section

variable {σ : Type} {take : σ → String → Draft → Except Fault σ} {slots after : σ}
  {members : List (Option String × Draft)}

/-- A name that is no text ends the reading. -/
private theorem foldlM_named_iff :
    members.foldlM (fun slots member =>
        match member.1 with
        | some name => take slots name member.2
        | none => .error .malformed) slots = .ok after ↔
      ∃ named : List (String × Draft),
        members = named.map (fun member => (some member.1, member.2)) ∧
        named.foldlM (fun slots member => take slots member.1 member.2) slots = .ok after := by
  induction members generalizing slots with
  | nil =>
    constructor
    · exact fun ended => ⟨[], rfl, ended⟩
    · rintro ⟨_ | _, same, ended⟩
      · exact ended
      · nomatch same
  | cons member rest ih =>
    obtain ⟨_ | name, value⟩ := member
    · refine ⟨nofun, ?_⟩
      rintro ⟨_ | _, same, -⟩ <;> nomatch same
    · rw [List.foldlM_cons, bind_eq_ok_iff]
      simp only [ih]
      constructor
      · rintro ⟨next, taken, named, rfl, ended⟩
        refine ⟨(name, value) :: named, rfl, ?_⟩
        rw [List.foldlM_cons, bind_eq_ok_iff]
        exact ⟨next, taken, ended⟩
      · rintro ⟨_ | ⟨⟨first, _⟩, named⟩, same, ended⟩
        · nomatch same
        rw [List.foldlM_cons, bind_eq_ok_iff] at ended
        obtain ⟨next, taken, ended⟩ := ended
        obtain ⟨⟨rfl, rfl⟩, rfl⟩ : (name = first ∧ value = _) ∧ rest = _ := by
          simpa using same
        exact ⟨next, taken, named, rfl, ended⟩

/-- Members are read when their names are texts, each being taken in its turn. -/
theorem readMembers_eq_ok_iff {closed : Bool} :
    readMembers .text take slots members closed = .ok after ↔
      ∃ named : List (String × Draft), Draft.object members closed = .ofNamed named ∧
        named.foldlM (fun slots member => take slots member.1 member.2) slots = .ok after := by
  constructor
  · intro read
    obtain ⟨found, folded, ended⟩ := bind_eq_ok_iff.mp read
    obtain ⟨named, rfl, taken⟩ := foldlM_named_iff.mp folded
    cases closed with
    | false => nomatch ended
    | true =>
      obtain rfl := pure_eq_ok_iff.mp ended
      exact ⟨named, rfl, taken⟩
  · rintro ⟨named, same, taken⟩
    obtain ⟨rfl, rfl⟩ := Draft.object.inj same
    exact bind_eq_ok_iff.mpr ⟨after, foldlM_named_iff.mpr ⟨named, rfl, taken⟩, rfl⟩

end

namespace Shape

variable {α : Type} {shape : Shape} {items : List Draft} {closed : Bool} {position : Nat}
  {read : Draft → Except Fault α} {absent : Option α} {value : α}

/-- A field at its position is read off the item there, or is absent after the last item. -/
theorem element_eq_ok_iff :
    shape.element items closed position read absent = .ok value ↔
      (∃ item, items[position]? = some item ∧ read item = .ok value) ∨
        items[position]? = none ∧ closed = true ∧ absent = some value := by
  unfold element
  cases items[position]? with
  | some item => simp
  | none => cases closed <;> cases absent <;> simp

/-- The items end with the text and after the last field. -/
theorem checkEnd_eq_ok_iff {checked : Unit} :
    shape.checkEnd .text items closed = .ok checked ↔
      closed = true ∧ items.length ≤ shape.fields := by
  unfold checkEnd
  split
  next ended => simp [ended]
  next unended => exact ⟨nofun, fun ended => absurd ended unended⟩

end Shape

end Json

/-- A stage is read off its name, in either form. -/
theorem Stage.ofDraft_eq_ok_iff {draft : Json.Draft} {stage : Stage} :
    Stage.ofDraft .text draft = .ok stage ↔ draft.IsCase stage.label := by
  have labelled : ∀ named ∈ cases, named.1 = named.2.label := by decide
  have byName (name : String) : cases.lookup name = some stage ↔ name = stage.label := by
    constructor
    · intro found
      obtain ⟨earlier, later, listed, -⟩ := List.lookup_eq_some_iff.mp found
      have mem : (name, stage) ∈ cases := listed ▸ List.mem_append_right _ List.mem_cons_self
      exact labelled _ mem
    · rintro rfl
      cases stage <;> rfl
  rw [ofDraft, Json.Draft.readCase_eq_ok_iff]
  simp only [byName, exists_eq_right]

namespace Transition

open Json

/-- The names of the fields, as they are declared. -/
def fields : List String :=
  ["service", "groups", "current", "target", "occupancy"]

/-- What members give as a transition: each field once, but the groups at most once. -/
structure GivenBy (transition : Transition) (members : List (String × Draft)) : Prop where
  service : GivenOnce "service" members (·.IsText transition.service)
  groups : valuesOf "groups" members = [] ∧ transition.groups = [] ∨
    GivenOnce "groups" members (·.IsTexts transition.groups)
  current : GivenOnce "current" members (·.IsCase transition.current.label)
  target : GivenOnce "target" members (·.IsCase transition.target.label)
  occupancy : GivenOnce "occupancy" members (·.IsWord transition.occupancy)

/-- To take a member is to fill the slot of its name. -/
private theorem foldlM_take_eq_ok_iff {members : List (String × Draft)} {slots after : Slots} :
    members.foldlM (fun slots member => slots.take .text member.1 member.2) slots = .ok after ↔
      slotAfter "service" Draft.readString slots.service members = .ok after.service ∧
      slotAfter "groups" Draft.readStrings slots.groups members = .ok after.groups ∧
      slotAfter "current" (Stage.ofDraft .text) slots.current members = .ok after.current ∧
      slotAfter "target" (Stage.ofDraft .text) slots.target members = .ok after.target ∧
      slotAfter "occupancy" Draft.readWord32 slots.occupancy members = .ok after.occupancy := by
  induction members generalizing slots with
  | nil =>
    obtain ⟨_, _, _, _, _⟩ := slots
    obtain ⟨_, _, _, _, _⟩ := after
    simp [slotAfter_nil]
  | cons member rest ih =>
    obtain ⟨name, value⟩ := member
    rw [List.foldlM_cons, bind_eq_ok_iff]
    simp only [ih, slotAfter_cons]
    unfold Slots.take
    split
    · cases fill "service" slots.service value.readString <;> simp
    · cases fill "groups" slots.groups value.readStrings <;> simp
    · cases fill "current" slots.current (Stage.ofDraft .text value) <;> simp
    · cases fill "target" slots.target (Stage.ofDraft .text value) <;> simp
    · cases fill "occupancy" slots.occupancy value.readWord32 <;> simp
    next noService noGroups noCurrent noTarget noOccupancy =>
      rw [if_neg noService, if_neg noGroups, if_neg noCurrent, if_neg noTarget,
        if_neg noOccupancy]
      simp

/-- A transition is made of slots that are filled, but for the groups. -/
private theorem toTransition_eq_ok_iff {slots : Slots} {transition : Transition} :
    slots.toTransition = .ok transition ↔
      slots.service = some transition.service ∧ slots.groups.getD [] = transition.groups ∧
      slots.current = some transition.current ∧ slots.target = some transition.target ∧
      slots.occupancy = some transition.occupancy := by
  obtain ⟨service, groups, current, target, occupancy⟩ := slots
  obtain ⟨_, _, _, _, _⟩ := transition
  simp only [Slots.toTransition, bind_eq_ok_iff, demand_eq_ok_iff, pure_eq_ok_iff,
    Transition.mk.injEq]
  constructor
  · rintro ⟨_, rfl, _, rfl, _, rfl, _, rfl, rfl, rfl, rfl, rfl, rfl⟩
    exact ⟨rfl, rfl, rfl, rfl, rfl⟩
  · rintro ⟨rfl, rfl, rfl, rfl, rfl⟩
    exact ⟨_, rfl, _, rfl, _, rfl, _, rfl, rfl, rfl, rfl, rfl, rfl⟩

/-- An object is read as the transition that its members give. -/
theorem ofDraft_object_eq_ok_iff {members : List (Option String × Draft)} {closed : Bool}
    {transition : Transition} :
    ofDraft .text (.object members closed) = .ok transition ↔
      ∃ named, Draft.object members closed = .ofNamed named ∧ transition.GivenBy named := by
  rw [ofDraft, bind_eq_ok_iff]
  simp only [readMembers_eq_ok_iff, foldlM_take_eq_ok_iff, toTransition_eq_ok_iff]
  constructor
  · rintro ⟨⟨service, groups, current, target, occupancy⟩, ⟨named, same, filled⟩, rfl, defaulted,
      rfl, rfl, rfl⟩
    obtain ⟨service, groups, current, target, occupancy⟩ := filled
    exact ⟨named, same, {
      service := (slotAfter_eq_some_iff Draft.readString_eq_ok_iff).mp service
      groups := (slotAfter_getD_eq_iff Draft.readStrings_eq_ok_iff).mp ⟨_, groups, defaulted⟩
      current := (slotAfter_eq_some_iff Stage.ofDraft_eq_ok_iff).mp current
      target := (slotAfter_eq_some_iff Stage.ofDraft_eq_ok_iff).mp target
      occupancy := (slotAfter_eq_some_iff Draft.readWord32_eq_ok_iff).mp occupancy }⟩
  · rintro ⟨named, same, given⟩
    obtain ⟨groups, filled, defaulted⟩ :=
      (slotAfter_getD_eq_iff Draft.readStrings_eq_ok_iff).mpr given.groups
    refine ⟨⟨some transition.service, groups, some transition.current, some transition.target,
      some transition.occupancy⟩, ⟨named, same, ?_, filled, ?_, ?_, ?_⟩, rfl, defaulted, rfl, rfl,
      rfl⟩
    · exact (slotAfter_eq_some_iff Draft.readString_eq_ok_iff).mpr given.service
    · exact (slotAfter_eq_some_iff Stage.ofDraft_eq_ok_iff).mpr given.current
    · exact (slotAfter_eq_some_iff Stage.ofDraft_eq_ok_iff).mpr given.target
    · exact (slotAfter_eq_some_iff Draft.readWord32_eq_ok_iff).mpr given.occupancy

/-- What items give as a transition: all fields in their order. -/
def GivenInOrder (transition : Transition) (items : List Draft) : Prop :=
  ∃ service groups current target occupancy, items = [service, groups, current, target, occupancy] ∧
    service.IsText transition.service ∧ groups.IsTexts transition.groups ∧
    current.IsCase transition.current.label ∧ target.IsCase transition.target.label ∧
    occupancy.IsWord transition.occupancy

private theorem exists_five {items : List Draft} {last : Draft} (fifth : items[4]? = some last)
    (short : items.length ≤ 5) : ∃ first second third fourth,
      items = [first, second, third, fourth, last] := by
  obtain ⟨long, rfl⟩ := List.getElem?_eq_some_iff.mp fifth
  have five : items.length = 5 := by omega
  match items, five with
  | [first, second, third, fourth, _], _ => exact ⟨first, second, third, fourth, rfl⟩

/-- An array is read as the transition that its items give. -/
theorem ofDraft_array_eq_ok_iff {items : List Draft} {closed : Bool} {transition : Transition} :
    ofDraft .text (.array items closed) = .ok transition ↔
      closed = true ∧ transition.GivenInOrder items := by
  simp only [ofDraft, bind_eq_ok_iff, Shape.element_eq_ok_iff, Shape.checkEnd_eq_ok_iff,
    pure_eq_ok_iff, Draft.readString_eq_ok_iff, Draft.readStrings_eq_ok_iff,
    Draft.readWord32_eq_ok_iff, Stage.ofDraft_eq_ok_iff, reduceCtorEq, and_false, or_false]
  constructor
  · rintro ⟨service, first, groups, second, current, third, target, fourth, occupancy, fifth, _,
      ⟨rfl, short⟩, rfl⟩
    obtain ⟨last, isLast, isWord⟩ := fifth
    obtain ⟨a, b, c, d, rfl⟩ := exists_five isLast short
    refine ⟨rfl, a, b, c, d, last, rfl, ?_⟩
    simp only [List.getElem?_cons_zero, List.getElem?_cons_succ, Option.some.injEq,
      exists_eq_left', reduceCtorEq, false_and, or_false] at first second third fourth
    exact ⟨first, second, third, fourth, isWord⟩
  · rintro ⟨rfl, service, groups, current, target, occupancy, rfl, given⟩
    obtain ⟨isService, isGroups, isCurrent, isTarget, isOccupancy⟩ := given
    exact ⟨_, ⟨service, rfl, isService⟩, _, .inl ⟨groups, rfl, isGroups⟩, _,
      ⟨current, rfl, isCurrent⟩, _, ⟨target, rfl, isTarget⟩, _, ⟨occupancy, rfl, isOccupancy⟩, (),
      ⟨rfl, Nat.le_refl 5⟩, rfl⟩

end Transition

namespace Report

open Json

/-- The names of the fields, as they are declared. -/
def fields : List String :=
  ["service", "occupancy", "max_players"]

/-- What members give as a report: each field once, but the capacity at most once. -/
structure GivenBy (report : Report) (members : List (String × Draft)) : Prop where
  service : GivenOnce "service" members (·.IsText report.service)
  occupancy : GivenOnce "occupancy" members (·.IsWord report.occupancy)
  capacity : valuesOf "max_players" members = [] ∧ report.capacity = none ∨
    GivenOnce "max_players" members (·.IsWordOrNull report.capacity)

/-- To take a member is to fill the slot of its name. -/
private theorem foldlM_take_eq_ok_iff {members : List (String × Draft)} {slots after : Slots} :
    members.foldlM (fun slots member => slots.take member.1 member.2) slots = .ok after ↔
      slotAfter "service" Draft.readString slots.service members = .ok after.service ∧
      slotAfter "occupancy" Draft.readWord32 slots.occupancy members = .ok after.occupancy ∧
      slotAfter "max_players" Draft.readOptionalWord32 slots.capacity members =
        .ok after.capacity := by
  induction members generalizing slots with
  | nil =>
    obtain ⟨_, _, _⟩ := slots
    obtain ⟨_, _, _⟩ := after
    simp [slotAfter_nil]
  | cons member rest ih =>
    obtain ⟨name, value⟩ := member
    rw [List.foldlM_cons, bind_eq_ok_iff]
    simp only [ih, slotAfter_cons]
    unfold Slots.take
    split
    · cases fill "service" slots.service value.readString <;> simp
    · cases fill "occupancy" slots.occupancy value.readWord32 <;> simp
    · cases fill "max_players" slots.capacity value.readOptionalWord32 <;> simp
    next noService noOccupancy noCapacity =>
      rw [if_neg noService, if_neg noOccupancy, if_neg noCapacity]
      simp

/-- A report is made of slots that are filled, but for the capacity. -/
private theorem toReport_eq_ok_iff {slots : Slots} {report : Report} :
    slots.toReport = .ok report ↔
      slots.service = some report.service ∧ slots.occupancy = some report.occupancy ∧
      slots.capacity.getD none = report.capacity := by
  obtain ⟨service, occupancy, capacity⟩ := slots
  obtain ⟨_, _, _⟩ := report
  simp only [Slots.toReport, bind_eq_ok_iff, demand_eq_ok_iff, pure_eq_ok_iff, Report.mk.injEq]
  constructor
  · rintro ⟨_, rfl, _, rfl, rfl, rfl, rfl⟩
    exact ⟨rfl, rfl, rfl⟩
  · rintro ⟨rfl, rfl, rfl⟩
    exact ⟨_, rfl, _, rfl, rfl, rfl, rfl⟩

/-- An object is read as the report that its members give. -/
theorem ofDraft_object_eq_ok_iff {members : List (Option String × Draft)} {closed : Bool}
    {report : Report} :
    ofDraft .text (.object members closed) = .ok report ↔
      ∃ named, Draft.object members closed = .ofNamed named ∧ report.GivenBy named := by
  rw [ofDraft, bind_eq_ok_iff]
  simp only [readMembers_eq_ok_iff, foldlM_take_eq_ok_iff, toReport_eq_ok_iff]
  constructor
  · rintro ⟨⟨service, occupancy, capacity⟩, ⟨named, same, filled⟩, rfl, rfl, defaulted⟩
    obtain ⟨service, occupancy, capacity⟩ := filled
    exact ⟨named, same, {
      service := (slotAfter_eq_some_iff Draft.readString_eq_ok_iff).mp service
      occupancy := (slotAfter_eq_some_iff Draft.readWord32_eq_ok_iff).mp occupancy
      capacity := (slotAfter_getD_eq_iff Draft.readOptionalWord32_eq_ok_iff).mp
        ⟨_, capacity, defaulted⟩ }⟩
  · rintro ⟨named, same, given⟩
    obtain ⟨capacity, filled, defaulted⟩ :=
      (slotAfter_getD_eq_iff Draft.readOptionalWord32_eq_ok_iff).mpr given.capacity
    refine ⟨⟨some report.service, some report.occupancy, capacity⟩, ⟨named, same, ?_, ?_, filled⟩,
      rfl, rfl, defaulted⟩
    · exact (slotAfter_eq_some_iff Draft.readString_eq_ok_iff).mpr given.service
    · exact (slotAfter_eq_some_iff Draft.readWord32_eq_ok_iff).mpr given.occupancy

/-- What items give as a report: all fields in their order, but perhaps not the capacity. -/
def GivenInOrder (report : Report) (items : List Draft) : Prop :=
  ∃ service occupancy capacity, items = service :: occupancy :: capacity ∧
    service.IsText report.service ∧ occupancy.IsWord report.occupancy ∧
    (capacity = [] ∧ report.capacity = none ∨
      ∃ value, capacity = [value] ∧ value.IsWordOrNull report.capacity)

/-- An array is read as the report that its items give. -/
theorem ofDraft_array_eq_ok_iff {items : List Draft} {closed : Bool} {report : Report} :
    ofDraft .text (.array items closed) = .ok report ↔
      closed = true ∧ report.GivenInOrder items := by
  simp only [ofDraft, bind_eq_ok_iff, Shape.element_eq_ok_iff, Shape.checkEnd_eq_ok_iff,
    pure_eq_ok_iff, Draft.readString_eq_ok_iff, Draft.readOptionalWord32_eq_ok_iff,
    Draft.readWord32_eq_ok_iff, reduceCtorEq, and_false, or_false]
  constructor
  · rintro ⟨service, first, occupancy, second, capacity, third, _, ⟨rfl, short⟩, rfl⟩
    rcases items with _ | ⟨a, _ | ⟨b, _ | ⟨c, _ | ⟨d, more⟩⟩⟩⟩
    · simp at first
    · simp at second
    · simp only [List.getElem?_cons_zero, List.getElem?_cons_succ, List.getElem?_nil,
        Option.some.injEq, exists_eq_left', reduceCtorEq, false_and, exists_false, true_and,
        false_or] at first second third
      exact ⟨rfl, a, b, [], rfl, first, second, .inl ⟨rfl, third.symm⟩⟩
    · simp only [List.getElem?_cons_zero, List.getElem?_cons_succ, Option.some.injEq,
        exists_eq_left', reduceCtorEq, false_and, or_false] at first second third
      exact ⟨rfl, a, b, [c], rfl, first, second, .inr ⟨c, rfl, third⟩⟩
    · have tooLong : more.length + 4 ≤ 3 := short
      omega
  · rintro ⟨rfl, service, occupancy, _, rfl, isService, isOccupancy, ⟨rfl, absent⟩ |
      ⟨capacity, rfl, isCapacity⟩⟩
    · exact ⟨_, ⟨service, rfl, isService⟩, _, ⟨occupancy, rfl, isOccupancy⟩, none,
        .inr ⟨rfl, rfl, rfl⟩, (), ⟨rfl, Nat.le_succ 2⟩, by rw [← absent]⟩
    · exact ⟨_, ⟨service, rfl, isService⟩, _, ⟨occupancy, rfl, isOccupancy⟩, _,
        .inl ⟨capacity, rfl, isCapacity⟩, (), ⟨rfl, Nat.le_refl 3⟩, rfl⟩

end Report

end Quiesce
