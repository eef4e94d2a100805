/-
# What is shown of a proxy tells its entry

The API shows a proxy as a JSON object with its name, the label of its standing, its capacity and
whether it awaits its stop, and a list of proxies as an array of such objects. What a text tells
is said here by the grammar alone: it spells an object in which each of the four is given once.
So it tells one entry and no other, and the text that is written of an entry tells that entry,
`told_render_iff`. The same is so for lists, `listTold_render_iff`.
-/

import Quiesce.Proofs.Json.Events

namespace Quiesce

open Json (Draft GivenOnce)

/-- A name that is given once has one value, whatever is asked of it. -/
theorem Json.GivenOnce.both {name : String} {members : List (String × Draft)}
    {means other : Draft → Prop} (given : GivenOnce name members means)
    (again : GivenOnce name members other) : ∃ value, means value ∧ other value := by
  obtain ⟨value, listed, meant⟩ := given
  obtain ⟨_, listedAgain, meantAgain⟩ := again
  obtain rfl := List.singleton_inj.mp (listed.symm.trans listedAgain)
  exact ⟨value, meant, meantAgain⟩

/-- A value means one text at most, and one number. -/
theorem Json.Draft.IsText.unique {draft : Draft} {text other : String} (isText : draft.IsText text)
    (isOther : draft.IsText other) : text = other := by
  rw [IsText, isText] at isOther
  exact Option.some.inj (Draft.string.inj isOther)

theorem Json.Draft.IsWord.unique {draft : Draft} {word other : UInt32} (isWord : draft.IsWord word)
    (isOther : draft.IsWord other) : word = other := by
  rw [← Draft.readWord32_eq_ok_iff] at isWord isOther
  exact Except.ok.inj (isWord.symm.trans isOther)

namespace Entry

/-- What members give as an entry: each of its fields once. -/
structure GivenBy (entry : Entry) (members : List (String × Draft)) : Prop where
  name : GivenOnce "name" members (·.IsText entry.name)
  standing : GivenOnce "state" members (·.IsText entry.standing.label)
  capacity : GivenOnce "max_players" members (·.IsWord entry.capacity)
  awaitingStop : GivenOnce "awaiting_stop" members (· = .boolean entry.awaitingStop)

/-- A text tells an entry. -/
def ToldBy (entry : Entry) (text : String) : Prop :=
  ∃ members, (Draft.ofNamed members).SpelledBy text ∧ entry.GivenBy members

/-- A text tells entries, one after another. -/
def ListToldBy (entries : List Entry) (text : String) : Prop :=
  ∃ items : List (List (String × Draft)),
    (Draft.array (items.map .ofNamed) true).SpelledBy text ∧ entries.Forall₂ GivenBy items

/-- Members give one entry at most. -/
theorem GivenBy.unique {first second : Entry} {members : List (String × Draft)}
    (given : first.GivenBy members) (again : second.GivenBy members) : first = second := by
  have apart : Function.Injective Standing.label := by
    intro standing other
    cases standing <;> cases other <;> decide
  obtain ⟨name, standing, capacity, awaitingStop⟩ := first
  obtain ⟨otherName, otherStanding, otherCapacity, otherAwaiting⟩ := second
  obtain ⟨_, isName, isOtherName⟩ := given.name.both again.name
  obtain ⟨_, isLabel, isOtherLabel⟩ := given.standing.both again.standing
  obtain ⟨_, isCapacity, isOtherCapacity⟩ := given.capacity.both again.capacity
  obtain ⟨_, isAwaiting, isOtherAwaiting⟩ := given.awaitingStop.both again.awaitingStop
  obtain rfl : name = otherName := isName.unique isOtherName
  obtain rfl : standing = otherStanding := apart (isLabel.unique isOtherLabel)
  obtain rfl : capacity = otherCapacity := isCapacity.unique isOtherCapacity
  obtain rfl : awaitingStop = otherAwaiting :=
    Draft.boolean.inj (isAwaiting.symm.trans isOtherAwaiting)
  rfl

/-! ## What is written -/

/-- The members of the object that is written of an entry. -/
def members (entry : Entry) : List (String × Draft) :=
  [("name", .ofJson (.string entry.name)), ("state", .ofJson (.string entry.standing.label)),
    ("max_players", .ofJson (.nat entry.capacity.toNat)),
    ("awaiting_stop", .boolean entry.awaitingStop)]

theorem ofJson_toJson (entry : Entry) : Draft.ofJson entry.toJson = .ofNamed entry.members := rfl

theorem givenBy_members (entry : Entry) : entry.GivenBy entry.members where
  name := ⟨_, rfl, Draft.isText_ofJson _⟩
  standing := ⟨_, rfl, Draft.isText_ofJson _⟩
  capacity := ⟨_, rfl, Draft.isWord_ofJson _⟩
  awaitingStop := ⟨_, rfl, rfl⟩

theorem regular_toJson (entry : Entry) : entry.toJson.Regular := by
  refine .object ?_
  simp only [List.forall_mem_cons, List.not_mem_nil, false_implies, implies_true, and_true]
  exact ⟨.string _, .string _, .nat _, .boolean _⟩

/-- The text of an entry tells that entry and no other. -/
theorem told_render_iff {entry other : Entry} :
    other.ToldBy entry.toJson.render ↔ other = entry := by
  have spelled : (Draft.ofNamed entry.members).SpelledBy entry.toJson.render := by
    rw [← entry.ofJson_toJson]
    exact Draft.spelledBy_render entry.regular_toJson
  constructor
  · rintro ⟨members, told, given⟩
    obtain rfl := Draft.ofNamed_injective (told.unique spelled)
    exact given.unique entry.givenBy_members
  · rintro rfl
    exact ⟨other.members, spelled, other.givenBy_members⟩

private theorem ofItems_map_toJson (entries : List Entry) :
    Draft.ofItems (entries.map toJson) = (entries.map members).map .ofNamed := by
  induction entries with
  | nil => rfl
  | cons entry rest ih => exact congrArg (_ :: ·) ih

/-- The text of a list of entries tells those entries in their order and no others. -/
theorem listTold_render_iff {entries others : List Entry} :
    ListToldBy others (Json.array (entries.map toJson)).render ↔ others = entries := by
  have regular : (Json.array (entries.map toJson)).Regular := by
    refine .array fun item among => ?_
    obtain ⟨entry, -, rfl⟩ := List.mem_map.mp among
    exact entry.regular_toJson
  have spelled := Draft.spelledBy_render regular
  rw [Draft.ofJson, ofItems_map_toJson] at spelled
  have given : entries.Forall₂ GivenBy (entries.map members) := by
    rw [List.forall₂_map_right_iff, List.forall₂_same]
    exact fun entry _ => entry.givenBy_members
  constructor
  · rintro ⟨items, told, givenAlso⟩
    have same := (Draft.array.inj (told.unique spelled)).1
    obtain rfl := List.map_injective_iff.mpr (fun _ _ => Draft.ofNamed_injective) same
    have unique : Relator.LeftUnique GivenBy := fun _ _ _ => GivenBy.unique
    exact unique.forall₂ givenAlso given
  · rintro rfl
    exact ⟨others.map members, spelled, given⟩

end Entry

end Quiesce
