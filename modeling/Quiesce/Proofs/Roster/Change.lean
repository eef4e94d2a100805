/-
# Changes of a roster

Nothing divides a change of a roster, so whatever happens to a roster is a list
of changes one after another. A change is about one name and leaves every other
proxy as it was.
-/

import Quiesce.Roster.Views

namespace Quiesce.Roster

/-- A change of a roster. -/
inductive Change where
  | enrol (name : String)
  | assign (name : String) (standing : Standing)
  | resize (name : String) (capacity : UInt32)
  | overwrite (name : String) (record : Record)
  | openDrain (name : String)
  | closeDrain (name : String)
  | concludeDrain (name : String)
  | takeClaim (name : String)
  | returnClaim (name : String)
  | noteStopped (name : String)
  | forget (name : String)
  deriving DecidableEq, Repr

/-- The name that a change is about. -/
def Change.name : Change → String
  | .enrol name | .assign name _ | .resize name _ | .overwrite name _ => name
  | .openDrain name | .closeDrain name | .concludeDrain name => name
  | .takeClaim name | .returnClaim name | .noteStopped name | .forget name => name

/-- Make a change. -/
def apply (roster : Roster) : Change → Roster
  | .enrol name => roster.enrol name
  | .assign name standing => roster.assign name standing
  | .resize name capacity => roster.resize name capacity
  | .overwrite name record => roster.overwrite name record
  | .openDrain name => roster.openDrain name
  | .closeDrain name => roster.closeDrain name
  | .concludeDrain name => (roster.concludeDrain name).2
  | .takeClaim name => (roster.takeClaim name).2
  | .returnClaim name => (roster.returnClaim name).2
  | .noteStopped name => roster.noteStopped name
  | .forget name => roster.forget name

/-- Make changes one after another. -/
def applyAll (roster : Roster) (changes : List Change) : Roster :=
  changes.foldl apply roster

/-! ## Other proxies -/

section

variable {name : String}

theorem find?_apply_of_ne (roster : Roster) {change : Change} (other : change.name ≠ name) :
    (roster.apply change).find? name = roster.find? name := by
  cases change <;> simp only [Change.name] at other <;>
    simp [apply, enrol, openDrain, closeDrain, takeClaim, noteStopped, other]

theorem awaitsStop_apply_of_ne (roster : Roster) {change : Change} (other : change.name ≠ name) :
    (roster.apply change).awaitsStop name = roster.awaitsStop name := by
  cases change <;> simp only [Change.name] at other <;>
    simp [apply, enrol, openDrain, closeDrain, takeClaim, noteStopped, other]

/-- Changes about others leave a proxy's record alone. -/
theorem find?_applyAll_of_ne (roster : Roster) {changes : List Change}
    (others : ∀ change ∈ changes, change.name ≠ name) :
    (roster.applyAll changes).find? name = roster.find? name := by
  induction changes generalizing roster with
  | nil => rfl
  | cons change rest ih =>
    obtain ⟨other, others⟩ := List.forall_mem_cons.mp others
    exact (ih (roster.apply change) others).trans (roster.find?_apply_of_ne other)

/-- Changes about others leave a proxy's waiting alone. -/
theorem awaitsStop_applyAll_of_ne (roster : Roster) {changes : List Change}
    (others : ∀ change ∈ changes, change.name ≠ name) :
    (roster.applyAll changes).awaitsStop name = roster.awaitsStop name := by
  induction changes generalizing roster with
  | nil => rfl
  | cons change rest ih =>
    obtain ⟨other, others⟩ := List.forall_mem_cons.mp others
    exact (ih (roster.apply change) others).trans (roster.awaitsStop_apply_of_ne other)

end

/-! ## Rosters that changes lead to -/

/-- Changes lead from one roster to another. -/
def ChangesTo (roster next : Roster) : Prop :=
  ∃ changes, roster.applyAll changes = next

namespace ChangesTo

variable {first second third : Roster}

theorem refl : first.ChangesTo first := ⟨[], rfl⟩

theorem trans (earlier : first.ChangesTo second) (later : second.ChangesTo third) :
    first.ChangesTo third := by
  obtain ⟨changes, rfl⟩ := earlier
  obtain ⟨rest, rfl⟩ := later
  exact ⟨changes ++ rest, List.foldl_append⟩

/-- One change leads to its result. -/
theorem of_apply (change : Change) (made : first.apply change = second) :
    first.ChangesTo second := ⟨[change], made⟩

end ChangesTo

end Quiesce.Roster
