/-
# Rosters that agree on a proxy

Two rosters agree on a proxy when they have the same default and show the same record
and the same waiting for it; of other proxies they may show anything. What the gate, the
drains and the direct operations answer about a proxy is the same on rosters that agree
on it, and they agree afterwards as well. What is changed about another proxy leaves the
roster in agreement with itself.
-/

import Quiesce.Proofs.Roster.Change
import Quiesce.Session

namespace Quiesce

namespace Roster

/-- Two rosters have the same default, and show the same of a proxy. -/
structure AgreeOn (name : String) (first second : Roster) : Prop where
  defaultCapacity : first.defaultCapacity = second.defaultCapacity
  record : first.find? name = second.find? name
  awaiting : first.awaitsStop name = second.awaitsStop name

namespace AgreeOn

variable {name : String} {first second third : Roster}

theorem refl (roster : Roster) : AgreeOn name roster roster := ⟨rfl, rfl, rfl⟩

theorem symm (agree : AgreeOn name first second) : AgreeOn name second first :=
  ⟨agree.defaultCapacity.symm, agree.record.symm, agree.awaiting.symm⟩

theorem trans (earlier : AgreeOn name first second) (later : AgreeOn name second third) :
    AgreeOn name first third :=
  ⟨earlier.defaultCapacity.trans later.defaultCapacity, earlier.record.trans later.record,
    earlier.awaiting.trans later.awaiting⟩

/-! ## Views of the proxy -/

theorem recordOf (agree : AgreeOn name first second) :
    first.recordOf name = second.recordOf name := by
  simp [Roster.recordOf, freshRecord, agree.record, agree.defaultCapacity]

theorem entry? (agree : AgreeOn name first second) : first.entry? name = second.entry? name := by
  have sameEntry : first.entryOf name = second.entryOf name := by
    funext record
    rw [entryOf, entryOf, agree.awaiting]
  rw [Roster.entry?, Roster.entry?, agree.record, sameEntry]

theorem drained (agree : AgreeOn name first second) :
    first.drained name = second.drained name := by
  simp [Roster.drained, agree.record, agree.awaiting]

/-- Whether there is a drain to conclude. -/
theorem concludeDrain (agree : AgreeOn name first second) :
    (first.concludeDrain name).1 = (second.concludeDrain name).1 := by
  simp only [Roster.concludeDrain, agree.drained]
  split <;> rfl

/-- Whether a claim that is given back is new. -/
theorem returnClaim (agree : AgreeOn name first second) :
    (first.returnClaim name).1 = (second.returnClaim name).1 := by
  simp only [Roster.returnClaim, agree.record, agree.awaiting]
  split <;> rfl

end AgreeOn

section

variable {name : String} {first second roster : Roster}

@[simp] theorem defaultCapacity_apply (roster : Roster) (change : Change) :
    (roster.apply change).defaultCapacity = roster.defaultCapacity := by
  cases change with
  | concludeDrain name =>
    rw [apply, concludeDrain]
    split <;> rfl
  | noteStopped name => exact roster.defaultCapacity_reassign name .down
  | resize | returnClaim => simp [apply]
  | _ => rfl

/-- A change keeps rosters in agreement on its own proxy. -/
theorem AgreeOn.apply (agree : AgreeOn name first second) (change : Change)
    (own : change.name = name) : AgreeOn name (first.apply change) (second.apply change) := by
  subst own
  refine ⟨by simp [agree.defaultCapacity], ?_, ?_⟩
  · have sameRecord := agree.record
    have sameFresh := agree.recordOf
    cases change <;> simp only [Change.name] at sameRecord sameFresh <;>
      simp [Roster.apply, Change.name, enrol, openDrain, closeDrain, takeClaim, noteStopped,
        sameRecord, sameFresh]
  · have sameRecord := agree.record
    have sameAwaiting := agree.awaiting
    have sameDrained := agree.drained
    cases change <;> simp only [Change.name] at sameRecord sameAwaiting sameDrained <;>
      simp [Roster.apply, Change.name, enrol, openDrain, closeDrain, takeClaim, noteStopped,
        sameRecord, sameAwaiting, sameDrained]

/-- A change of another proxy leaves a roster in agreement with itself. -/
theorem agreeOn_apply_of_ne (roster : Roster) {change : Change} (other : change.name ≠ name) :
    AgreeOn name (roster.apply change) roster :=
  ⟨roster.defaultCapacity_apply change, roster.find?_apply_of_ne other,
    roster.awaitsStop_apply_of_ne other⟩

end

/-! ## The gate and the drains -/

namespace AgreeOn

variable {name : String} {first second : Roster}

/-- The same answer, and rosters that agree. -/
theorem exists_answer {α : Type} {one other : α × Roster} (same : one.1 = other.1)
    (agree : AgreeOn name one.2 other.2) :
    ∃ answer first second, one = (answer, first) ∧ other = (answer, second) ∧
      AgreeOn name first second :=
  ⟨one.1, one.2, other.2, rfl, Prod.ext same.symm rfl, agree⟩

theorem exists_concludeDrain (agree : AgreeOn name first second) :
    ∃ concluded firstNext secondNext, first.concludeDrain name = (concluded, firstNext) ∧
      second.concludeDrain name = (concluded, secondNext) ∧ AgreeOn name firstNext secondNext :=
  exists_answer agree.concludeDrain (agree.apply (.concludeDrain name) rfl)

private theorem judgeOccupiedStop (agree : AgreeOn name first second) :
    (first.judgeOccupiedStop name).1 = (second.judgeOccupiedStop name).1 ∧
      AgreeOn name (first.judgeOccupiedStop name).2 (second.judgeOccupiedStop name).2 := by
  obtain ⟨concluded, firstNext, secondNext, firstIs, secondIs, after⟩ := agree.exists_concludeDrain
  simp only [Roster.judgeOccupiedStop, firstIs, secondIs]
  cases concluded with
  | true => exact ⟨rfl, after⟩
  | false => exact ⟨rfl, after.apply (.openDrain name) rfl⟩

/-- Verdicts on a proxy are the same. -/
theorem judge (agree : AgreeOn name first second) (group : String) (transition : Transition)
    (own : transition.service = name) :
    (first.judge group transition).1 = (second.judge group transition).1 ∧
      AgreeOn name (first.judge group transition).2 (second.judge group transition).2 := by
  subst own
  unfold Roster.judge
  split
  case isFalse => exact ⟨rfl, agree⟩
  unfold Roster.judgeProxy
  split
  case isTrue => exact ⟨rfl, agree.apply (.assign transition.service .up) rfl⟩
  split
  case isTrue => exact ⟨rfl, agree⟩
  split
  case isTrue => exact ⟨rfl, agree.apply (.closeDrain transition.service) rfl⟩
  case isFalse => exact agree.judgeOccupiedStop

theorem noteCapacity (agree : AgreeOn name first second) {report : Report}
    (own : report.service = name) :
    AgreeOn name (first.noteCapacity report) (second.noteCapacity report) := by
  unfold Roster.noteCapacity
  split
  next capacity _ => exact agree.apply (.resize report.service capacity) own
  · exact agree

theorem override (agree : AgreeOn name first second) (standing : Standing)
    (capacity : Option UInt32) :
    AgreeOn name (first.override name standing capacity)
      (second.override name standing capacity) := by
  cases capacity with
  | none => exact agree.apply (.assign name standing) rfl
  | some capacity => exact agree.apply (.overwrite name ⟨standing, capacity⟩) rfl

/-- Reports on a proxy are seen the same. -/
theorem sight (agree : AgreeOn name first second) {report : Report}
    (own : report.service = name) : first.sight report = second.sight report := by
  subst own
  rw [Roster.sight, Roster.sight, agree.awaiting]

/-- A claim to its stop succeeds on both or on neither. -/
theorem claimStop (agree : AgreeOn name first second) :
    (first.claimStop name).1 = (second.claimStop name).1 ∧
      AgreeOn name (first.claimStop name).2 (second.claimStop name).2 := by
  have after : AgreeOn name (first.unawait name) (second.unawait name) :=
    agree.apply (.takeClaim name) rfl
  simp only [Roster.claimStop, takeClaim, agree.awaiting]
  cases second.awaitsStop name <;> exact ⟨rfl, after⟩

theorem settle (agree : AgreeOn name first second) (delivered : Bool) :
    (first.settle name delivered).1 = (second.settle name delivered).1 ∧
      AgreeOn name (first.settle name delivered).2 (second.settle name delivered).2 := by
  cases delivered with
  | true => exact ⟨rfl, agree.apply (.noteStopped name) rfl⟩
  | false => exact ⟨rfl, agree.apply (.returnClaim name) rfl⟩

end AgreeOn

end Roster

/-! ## Direct operations -/

namespace Operation

/-- The proxy that a direct operation on the roster is about. -/
def proxy? : Operation → Option String
  | .enrol name | .find name | .entry name | .awaitsStop name => some name
  | .openDrain name | .closeDrain name | .concludeDrain name => some name
  | .takeClaim name | .returnClaim name | .noteStopped name | .forget name => some name
  | .assign name _ | .resize name _ | .overwrite name _ _ => some name
  | _ => none

/-- Whether an operation is a direct one on the roster. -/
def isDirect : Operation → Bool
  | .size => true
  | operation => operation.proxy?.isSome

/-- The change that a direct operation makes, if it makes one. -/
def change? : Operation → Option Roster.Change
  | .enrol name => some (.enrol name)
  | .openDrain name => some (.openDrain name)
  | .closeDrain name => some (.closeDrain name)
  | .concludeDrain name => some (.concludeDrain name)
  | .takeClaim name => some (.takeClaim name)
  | .returnClaim name => some (.returnClaim name)
  | .noteStopped name => some (.noteStopped name)
  | .forget name => some (.forget name)
  | .assign name word => (Standing.ofWord? word).map (.assign name)
  | .resize name capacity => some (.resize name capacity)
  | .overwrite name word capacity =>
    (Standing.ofWord? word).map fun standing => .overwrite name ⟨standing, capacity⟩
  | _ => none

/-- The change is about the same proxy as the operation. -/
theorem proxy?_of_change? {operation : Operation} {change : Roster.Change}
    (makes : operation.change? = some change) : operation.proxy? = some change.name := by
  cases operation with
  | assign | overwrite =>
    obtain ⟨standing, -, rfl⟩ := Option.map_eq_some_iff.mp makes
    rfl
  | _ => cases makes <;> rfl

end Operation

namespace Agent

/-- A direct operation is answered at once, and makes its change. -/
theorem begin_of_isDirect (agent : Agent) {operation : Operation} (direct : operation.isDirect) :
    ∃ answer next, agent.begin operation = (.answered answer, next) ∧
      next.roster = (operation.change?.map agent.roster.apply).getD agent.roster := by
  cases operation with
  | judge | receive | noteCapacity | request | poll | missConnection | stopListening => cases direct
  | assign name word =>
    simp only [begin, Operation.change?]
    cases Standing.ofWord? word <;> exact ⟨_, _, rfl, rfl⟩
  | overwrite name word capacity =>
    simp only [begin, Operation.change?]
    cases Standing.ofWord? word <;> exact ⟨_, _, rfl, rfl⟩
  | _ => exact ⟨_, _, rfl, rfl⟩

variable {name : String} {first second agent next : Agent} {operation : Operation}
  {answer : Answer}

private theorem begin_fst_of_agreeOn (agree : Roster.AgreeOn name first.roster second.roster)
    (own : operation.proxy? = some name) :
    (first.begin operation).1 = (second.begin operation).1 := by
  cases operation with
  | judge | receive | noteCapacity | request => cases own
  | poll | missConnection | stopListening | size => cases own
  | assign _ word | overwrite _ word =>
    obtain rfl := Option.some.inj own
    simp only [begin]
    cases Standing.ofWord? word <;> simp [changed, standingAnswer, agree.record]
  | _ =>
    obtain rfl := Option.some.inj own
    simp [begin, changed, flagged, standingAnswer, Roster.takeClaim, agree.record, agree.awaiting,
      agree.recordOf, agree.entry?, agree.concludeDrain, agree.returnClaim]

/-- Agents whose rosters agree on a proxy answer a direct operation on it the same, and their
rosters agree on it afterwards. -/
theorem agreeOn_begin (agree : Roster.AgreeOn name first.roster second.roster)
    (direct : operation.isDirect) (own : operation.proxy? = some name)
    (begun : first.begin operation = (.answered answer, next)) :
    ∃ other, second.begin operation = (.answered answer, other) ∧
      Roster.AgreeOn name next.roster other.roster := by
  obtain ⟨_, _, firstIs, firstRoster⟩ := first.begin_of_isDirect direct
  obtain ⟨_, other, secondIs, secondRoster⟩ := second.begin_of_isDirect direct
  have same := begin_fst_of_agreeOn agree own
  rw [begun] at firstIs
  obtain ⟨-, rfl⟩ := Prod.mk.inj firstIs
  rw [begun, secondIs] at same
  obtain rfl := Phase.answered.inj same
  refine ⟨other, secondIs, ?_⟩
  rw [firstRoster, secondRoster]
  cases makes : operation.change? with
  | none => exact agree
  | some change =>
    rw [Operation.proxy?_of_change? makes] at own
    exact agree.apply change (Option.some.inj own)

/-- A direct operation that is not about a proxy leaves the roster in agreement with itself
on it. -/
theorem agreeOn_begin_of_ne (direct : operation.isDirect) (other : operation.proxy? ≠ some name)
    (begun : agent.begin operation = (.answered answer, next)) :
    Roster.AgreeOn name next.roster agent.roster := by
  obtain ⟨_, _, begins, roster⟩ := agent.begin_of_isDirect direct
  rw [begun] at begins
  obtain ⟨-, rfl⟩ := Prod.mk.inj begins
  rw [roster]
  cases makes : operation.change? with
  | none => exact .refl agent.roster
  | some change =>
    rw [Operation.proxy?_of_change? makes] at other
    exact agent.roster.agreeOn_apply_of_ne fun same => other (congrArg some same)

end Agent

end Quiesce
