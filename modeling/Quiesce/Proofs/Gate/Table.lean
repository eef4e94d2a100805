/-
# The gate's table

The rules of the gate form a table. Its order matters: a row decides an occasion only when
no row before it applies. The table is data of its own, written in the stages, groups and
occupancies of transitions and in what a roster shows of their service; the functions that
judge do not occur in it. `Roster.judge_follows_table` says that the gate answers as the row
that decides, and leaves the service as that row says, with the capacity it had or would
start with, and every other proxy as it was.
-/

import Quiesce.Gate
import Quiesce.Roster.Views

namespace Quiesce

namespace Gate

/-- A transition, with what the roster shows of its service. -/
structure Occasion where
  transition : Transition
  /-- The standing of the service, if it is known. -/
  standing? : Option Standing
  /-- Whether the service awaits its stop. -/
  awaiting : Bool

/-- A row of the table. -/
structure Row where
  /-- When the row applies, if no row before it does. -/
  applies : Occasion → Prop
  verdict : Verdict
  /-- The standing that the service is left with; the roster stays as it is when there is none. -/
  standing? : Option Standing := none
  /-- Whether the service is left awaiting its stop; as before when there is no entry. -/
  awaiting? : Option Bool := none

/-- Whether a service is asked to leave the running stage. -/
def LeavesRunning (transition : Transition) : Prop :=
  transition.current = .running ∧ transition.target ∈ [.stopped, .prepared, .deleted]

/-- The table of a group. -/
def table (group : String) : List Row :=
  [{ applies := fun occasion => group ∉ occasion.transition.groups
     verdict := .ignore },
   { applies := fun occasion =>
       occasion.transition.current = .prepared ∧ occasion.transition.target = .running
     verdict := .allow
     standing? := some .up },
   { applies := fun occasion => ¬ LeavesRunning occasion.transition
     verdict := .ignore },
   { applies := fun occasion => occasion.transition.occupancy = 0
     verdict := .allow
     standing? := some .down
     awaiting? := some false },
   { applies := fun occasion => occasion.awaiting ∧ occasion.standing? = some .down
     verdict := .allow
     standing? := some .down
     awaiting? := some false },
   { applies := fun _ => True
     verdict := .veto
     standing? := some .draining
     awaiting? := some true }]

/-- A row decides an occasion: it is the first of the table that applies. -/
def Decides (table : List Row) (occasion : Occasion) (row : Row) : Prop :=
  ∃ earlier later, table = earlier ++ row :: later ∧
    (∀ other ∈ earlier, ¬ other.applies occasion) ∧ row.applies occasion

theorem decides_of_applies {row : Row} {rest : List Row} {occasion : Occasion}
    (applies : row.applies occasion) : Decides (row :: rest) occasion row :=
  ⟨[], rest, rfl, nofun, applies⟩

/-- A row that does not apply leaves the occasion to the rows behind it. -/
theorem Decides.skip {first row : Row} {rest : List Row} {occasion : Occasion}
    (skipped : ¬ first.applies occasion) (decides : Decides rest occasion row) :
    Decides (first :: rest) occasion row := by
  obtain ⟨earlier, later, rfl, before, applies⟩ := decides
  exact ⟨first :: earlier, later, rfl, List.forall_mem_cons.mpr ⟨skipped, before⟩, applies⟩

end Gate

namespace Transition

variable {transition : Transition} {group : String}

theorem inGroup_iff : transition.inGroup group ↔ group ∈ transition.groups := by
  simp [inGroup]

theorem isStart_iff :
    transition.isStart ↔ transition.current = .prepared ∧ transition.target = .running := by
  simp [isStart]

/-- To leave the running stage is to go to any other. -/
theorem isStop_iff : transition.isStop ↔ Gate.LeavesRunning transition := by
  cases target : transition.target <;> simp [isStop, Gate.LeavesRunning, target]

end Transition

namespace Roster

/-- The occasion of a transition. -/
def occasion (roster : Roster) (transition : Transition) : Gate.Occasion :=
  ⟨transition, (roster.find? transition.service).map (·.standing),
    roster.awaitsStop transition.service⟩

/-- One proxy is left known with a standing, awaiting its stop or not. It keeps its capacity
or starts with the default, and every other proxy stays as it was. -/
structure Leaves (roster : Roster) (name : String) (standing : Standing) (awaiting : Bool)
    (next : Roster) : Prop where
  record : next.find? name =
    some ⟨standing, ((roster.find? name).map (·.capacity)).getD roster.defaultCapacity⟩
  awaiting : next.awaitsStop name = awaiting
  others : ∀ other, other ≠ name →
    next.find? other = roster.find? other ∧ next.awaitsStop other = roster.awaitsStop other
  defaultCapacity : next.defaultCapacity = roster.defaultCapacity

variable (roster : Roster) (name : String)

theorem leaves_assign (standing : Standing) :
    roster.Leaves name standing (roster.awaitsStop name) (roster.assign name standing) where
  record := by simp [capacity_recordOf]
  awaiting := rfl
  others other different := by simp [Ne.symm different]
  defaultCapacity := rfl

theorem leaves_closeDrain : roster.Leaves name .down false (roster.closeDrain name) where
  record := by simp [closeDrain, capacity_recordOf]
  awaiting := by simp [closeDrain]
  others other different := by simp [closeDrain, Ne.symm different]
  defaultCapacity := rfl

theorem leaves_openDrain : roster.Leaves name .draining true (roster.openDrain name) where
  record := by simp [openDrain, capacity_recordOf]
  awaiting := by simp [openDrain]
  others other different := by simp [openDrain, Ne.symm different]
  defaultCapacity := rfl

/-- Concluding a drain that is over ends the waiting and leaves the proxy down as it was. -/
theorem leaves_unawait (down : (roster.find? name).map (·.standing) = some .down) :
    roster.Leaves name .down false (roster.unawait name) where
  record := by
    obtain ⟨⟨standing, capacity⟩, known, rfl⟩ := Option.map_eq_some_iff.mp down
    simp [known]
  awaiting := by simp
  others other different := by simp [Ne.symm different]
  defaultCapacity := rfl

theorem drained_iff : roster.drained name ↔
    roster.awaitsStop name ∧ (roster.find? name).map (·.standing) = some .down := by
  simp [drained, Option.any_eq_true]

/-- What a row says comes of a roster. -/
def Follows (row : Gate.Row) (next : Roster) : Prop :=
  match row.standing? with
  | none => next = roster
  | some standing =>
    roster.Leaves name standing (row.awaiting?.getD (roster.awaitsStop name)) next

/-- The gate judges every transition by the first row of its table that applies: it answers
with the verdict of that row, and leaves the roster as the row says. -/
theorem judge_follows_table (roster : Roster) (group : String) (transition : Transition) :
    ∃ row, Gate.Decides (Gate.table group) (roster.occasion transition) row ∧
      (roster.judge group transition).1 = row.verdict ∧
      roster.Follows transition.service row (roster.judge group transition).2 := by
  by_cases inGroup : group ∈ transition.groups
  case neg =>
    refine ⟨_, Gate.decides_of_applies inGroup, ?_⟩
    rw [judge, if_neg (mt Transition.inGroup_iff.mp inGroup)]
    exact ⟨rfl, rfl⟩
  rw [judge, if_pos (Transition.inGroup_iff.mpr inGroup), judgeProxy]
  by_cases isStart : transition.current = .prepared ∧ transition.target = .running
  case pos =>
    refine ⟨_, .skip (not_not_intro inGroup) (Gate.decides_of_applies isStart), ?_⟩
    rw [if_pos (Transition.isStart_iff.mpr isStart)]
    exact ⟨rfl, roster.leaves_assign transition.service .up⟩
  rw [if_neg (mt Transition.isStart_iff.mp isStart)]
  by_cases isStop : Gate.LeavesRunning transition
  case neg =>
    refine ⟨_, .skip (not_not_intro inGroup) (.skip isStart (Gate.decides_of_applies isStop)), ?_⟩
    rw [if_pos (mt Transition.isStop_iff.mp isStop)]
    exact ⟨rfl, rfl⟩
  rw [if_neg (not_not_intro (Transition.isStop_iff.mpr isStop))]
  have behind {row : Gate.Row}
      (decides : Gate.Decides ((Gate.table group).drop 3) (roster.occasion transition) row) :
      Gate.Decides (Gate.table group) (roster.occasion transition) row :=
    .skip (not_not_intro inGroup) (.skip isStart (.skip (not_not_intro isStop) decides))
  by_cases vacant : transition.occupancy = 0
  case pos =>
    refine ⟨_, behind (Gate.decides_of_applies vacant), ?_⟩
    rw [if_pos vacant]
    exact ⟨rfl, roster.leaves_closeDrain transition.service⟩
  rw [if_neg vacant, judgeOccupiedStop, concludeDrain]
  by_cases concluded : roster.awaitsStop transition.service ∧
      (roster.find? transition.service).map (·.standing) = some .down
  case pos =>
    refine ⟨_, behind (.skip vacant (Gate.decides_of_applies concluded)), ?_⟩
    rw [if_pos ((roster.drained_iff transition.service).mpr concluded)]
    exact ⟨rfl, roster.leaves_unawait transition.service concluded.2⟩
  · refine ⟨_, behind (.skip vacant (.skip concluded (Gate.decides_of_applies trivial))), ?_⟩
    rw [if_neg (mt (roster.drained_iff transition.service).mp concluded)]
    exact ⟨rfl, roster.leaves_openDrain transition.service⟩

end Roster

end Quiesce
