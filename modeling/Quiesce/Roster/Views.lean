/-
# What changes do to the views of a roster

A roster is seen through two views: the record of each name, and whether the
name awaits its stop. Each elementary change is described by what it does to
both, and the changes made of several follow from that. Two rosters with the
same default that agree in both views at every name are equal.
-/

import Quiesce.Roster

namespace Quiesce.Roster

variable (roster : Roster) (name other : String)

/-- Names compare equal only when they are equal. -/
private theorem compare_beq_eq : (compare name other == .eq) = decide (name = other) := by
  rw [Bool.eq_iff_iff, beq_iff_eq, decide_eq_true_eq]
  exact Std.compare_eq_iff_eq

private theorem compare_bne_eq : (compare name other != .eq) = decide (name ≠ other) := by
  rw [bne, compare_beq_eq, decide_not]

@[simp] theorem find?_empty (capacity : UInt32) : (empty capacity).find? name = none := by
  simp [empty, find?]

@[simp] theorem awaitsStop_empty (capacity : UInt32) :
    (empty capacity).awaitsStop name = false := by
  simp [empty, awaitsStop]

/-- A proxy has the capacity of its record or starts with the default. -/
theorem capacity_recordOf : (roster.recordOf name).capacity =
    ((roster.find? name).map (·.capacity)).getD roster.defaultCapacity := by
  unfold recordOf freshRecord
  cases roster.find? name <;> rfl

/-- Replacing a record changes no other record. -/
@[simp] theorem find?_overwrite (record : Record) :
    (roster.overwrite name record).find? other =
      if name = other then some record else roster.find? other := by
  simp [overwrite, find?, Std.ExtTreeMap.getElem?_insert]

/-- Replacing a record changes no waiting. -/
@[simp] theorem awaitsStop_overwrite (record : Record) :
    (roster.overwrite name record).awaitsStop other = roster.awaitsStop other := rfl

/-- A name is forgotten alone. -/
@[simp] theorem find?_forget :
    (roster.forget name).find? other = if name = other then none else roster.find? other := by
  simp [forget, find?, Std.ExtTreeMap.getElem?_erase]

@[simp] theorem awaitsStop_forget :
    (roster.forget name).awaitsStop other = (name ≠ other && roster.awaitsStop other) := by
  simp [forget, awaitsStop, Std.ExtTreeSet.contains_erase, compare_bne_eq]

@[simp] theorem find?_await : (roster.await name).find? other = roster.find? other := rfl

@[simp] theorem awaitsStop_await :
    (roster.await name).awaitsStop other = (name = other || roster.awaitsStop other) := by
  simp [await, awaitsStop, Std.ExtTreeSet.contains_insert, compare_beq_eq]

@[simp] theorem find?_unawait : (roster.unawait name).find? other = roster.find? other := rfl

@[simp] theorem awaitsStop_unawait :
    (roster.unawait name).awaitsStop other = (name ≠ other && roster.awaitsStop other) := by
  simp [unawait, awaitsStop, Std.ExtTreeSet.contains_erase, compare_bne_eq]

/-! ## Changes made of several -/

@[simp] theorem find?_assign (standing : Standing) :
    (roster.assign name standing).find? other =
      if name = other then some { roster.recordOf name with standing := standing }
      else roster.find? other := by
  simp [assign]

@[simp] theorem awaitsStop_assign (standing : Standing) :
    (roster.assign name standing).awaitsStop other = roster.awaitsStop other := rfl

/-- Amending the record of a known proxy changes that record alone, and the record of
an unknown one stays absent. -/
private theorem find?_amend (change : Record → Record) :
    (match roster.find? name with
      | some record => roster.overwrite name (change record)
      | none => roster).find? other =
      if name = other then (roster.find? name).map change else roster.find? other := by
  cases known : roster.find? name with
  | some record => simp
  | none =>
    by_cases same : name = other
    · simp [← same, known]
    · simp [same]

/-- Only a known proxy gets another standing this way. -/
@[simp] theorem find?_reassign (standing : Standing) :
    (roster.reassign name standing).find? other =
      if name = other then
        (roster.find? name).map fun record => { record with standing := standing }
      else roster.find? other :=
  roster.find?_amend name other _

@[simp] theorem awaitsStop_reassign (standing : Standing) :
    (roster.reassign name standing).awaitsStop other = roster.awaitsStop other := by
  unfold reassign
  split <;> rfl

/-- Only a known proxy gets another capacity. -/
@[simp] theorem find?_resize (capacity : UInt32) :
    (roster.resize name capacity).find? other =
      if name = other then
        (roster.find? name).map fun record => { record with capacity := capacity }
      else roster.find? other :=
  roster.find?_amend name other _

@[simp] theorem awaitsStop_resize (capacity : UInt32) :
    (roster.resize name capacity).awaitsStop other = roster.awaitsStop other := by
  unfold resize
  split <;> rfl

/-- An override keeps the capacity when it gives none. -/
@[simp] theorem find?_override (standing : Standing) (capacity : Option UInt32) :
    (roster.override name standing capacity).find? other =
      if name = other then some ⟨standing, capacity.getD (roster.recordOf name).capacity⟩
      else roster.find? other := by
  cases capacity <;> simp [override]

/-- An override changes no waiting. -/
@[simp] theorem awaitsStop_override (standing : Standing) (capacity : Option UInt32) :
    (roster.override name standing capacity).awaitsStop other = roster.awaitsStop other := by
  cases capacity <;> rfl

/-- A proxy is draining by its record exactly when it is by its standing. -/
theorem any_draining_eq (record : Option Record) :
    record.any (·.standing = .draining) =
      decide (record.map (·.standing) = some Standing.draining) := by
  cases record <;> simp

/-- Giving a claim back makes a draining proxy wait again, and changes no record. -/
@[simp] theorem find?_returnClaim :
    (roster.returnClaim name).2.find? other = roster.find? other := by
  unfold returnClaim
  split <;> simp

@[simp] theorem awaitsStop_returnClaim :
    (roster.returnClaim name).2.awaitsStop other =
      ((name = other && (roster.find? name).any (·.standing = .draining)) ||
        roster.awaitsStop other) := by
  unfold returnClaim
  split
  next draining => simp [draining]
  next settled => simp [settled]

/-- Concluding a drain ends the waiting of a proxy whose drain is over, and changes no
record. -/
@[simp] theorem find?_concludeDrain :
    (roster.concludeDrain name).2.find? other = roster.find? other := by
  unfold concludeDrain
  split <;> simp

@[simp] theorem awaitsStop_concludeDrain :
    (roster.concludeDrain name).2.awaitsStop other =
      (!(name = other && roster.drained name) && roster.awaitsStop other) := by
  unfold concludeDrain
  split
  next ended => simp [ended]
  next unfinished => simp [unfinished]

/-! ## The default capacity -/

@[simp] theorem defaultCapacity_reassign (standing : Standing) :
    (roster.reassign name standing).defaultCapacity = roster.defaultCapacity := by
  unfold reassign
  split <;> rfl

@[simp] theorem defaultCapacity_resize (capacity : UInt32) :
    (roster.resize name capacity).defaultCapacity = roster.defaultCapacity := by
  unfold resize
  split <;> rfl

@[simp] theorem defaultCapacity_override (standing : Standing) (capacity : Option UInt32) :
    (roster.override name standing capacity).defaultCapacity = roster.defaultCapacity := by
  cases capacity <;> rfl

@[simp] theorem defaultCapacity_returnClaim :
    (roster.returnClaim name).2.defaultCapacity = roster.defaultCapacity := by
  unfold returnClaim
  split <;> rfl

/-- A roster is determined by its default and its two views. -/
theorem ext_views {first second : Roster}
    (sameDefault : first.defaultCapacity = second.defaultCapacity)
    (sameRecords : ∀ name, first.find? name = second.find? name)
    (sameAwaiting : ∀ name, first.awaitsStop name = second.awaitsStop name) :
    first = second := by
  obtain ⟨_, firstRecords, firstAwaiting⟩ := first
  obtain ⟨_, secondRecords, secondAwaiting⟩ := second
  obtain rfl : firstRecords = secondRecords :=
    Std.ExtTreeMap.ext_getElem? fun name => sameRecords name
  obtain rfl : firstAwaiting = secondAwaiting :=
    Std.ExtTreeSet.ext_contains fun name => sameAwaiting name
  obtain rfl := sameDefault
  rfl

end Quiesce.Roster
