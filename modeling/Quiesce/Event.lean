/-
# Events of the orchestrator

The orchestrator announces each transition of a service between two stages of
its life before it carries it out, and reports now and then how many players
are on a service.
-/

namespace Quiesce

/-- A stage in the life of a service. -/
inductive Stage where
  | prepared
  | running
  | stopped
  | deleted
  deriving DecidableEq, Repr

namespace Stage

/-- The name by which a stage is reported. -/
def label : Stage → String
  | .prepared => "PREPARED"
  | .running => "RUNNING"
  | .stopped => "STOPPED"
  | .deleted => "DELETED"

/-- All stages by name. -/
def cases : List (String × Stage) :=
  [("PREPARED", .prepared), ("RUNNING", .running), ("STOPPED", .stopped), ("DELETED", .deleted)]

end Stage

/-- A transition that the orchestrator is about to carry out. -/
structure Transition where
  service : String
  groups : List String
  current : Stage
  target : Stage
  /-- The number of players on the service. -/
  occupancy : UInt32
  deriving DecidableEq, Repr

namespace Transition

/-- Whether the service belongs to a group. Names are compared exactly. -/
def inGroup (transition : Transition) (group : String) : Bool :=
  transition.groups.contains group

/-- Whether the service is about to start. -/
def isStart (transition : Transition) : Bool :=
  transition.current = .prepared && transition.target = .running

/-- Whether the service is about to be stopped, in any way. -/
def isStop (transition : Transition) : Bool :=
  transition.current = .running && transition.target ≠ .running

/-- A stop is no start. -/
theorem isStart_eq_false_of_isStop {transition : Transition} (isStop : transition.isStop) :
    transition.isStart = false := by
  simp only [Transition.isStop, Bool.and_eq_true, decide_eq_true_eq] at isStop
  simp [isStart, isStop.1]

end Transition

/-- A report on a service. -/
structure Report where
  service : String
  /-- The number of players on the service. -/
  occupancy : UInt32
  /-- The number of players it may hold, if the report says so. -/
  capacity : Option UInt32
  deriving DecidableEq, Repr

end Quiesce
