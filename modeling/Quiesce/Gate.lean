/-
# The gate for transitions

Every announced transition passes the gate, which may veto it. Only proxies,
the services of one group, are judged. A proxy may always start, and may stop
once no player is on it. The stop of an occupied proxy is vetoed and opens a
drain, unless the drain of that proxy is already over.
-/

import Quiesce.Event
import Quiesce.Roster

namespace Quiesce

/-- The answer to an announced transition. -/
inductive Verdict where
  /-- The transition is none of the gate's business. -/
  | ignore
  | allow
  | veto
  deriving DecidableEq, Repr

namespace Verdict

/-- The name by which a verdict is counted. -/
def label : Verdict → String
  | .ignore => "ignore"
  | .allow => "allow"
  | .veto => "veto"

/-- Whether the orchestrator has to drop the transition. -/
def vetoed (verdict : Verdict) : Bool :=
  verdict = .veto

end Verdict

namespace Roster

/-- Judge the stop of an occupied proxy. -/
def judgeOccupiedStop (roster : Roster) (name : String) : Verdict × Roster :=
  match roster.concludeDrain name with
  | (true, roster) => (.allow, roster)
  | (false, roster) => (.veto, roster.openDrain name)

/-- Judge a transition of a proxy. -/
def judgeProxy (roster : Roster) (transition : Transition) : Verdict × Roster :=
  if transition.isStart then (.allow, roster.assign transition.service .up)
  else if ¬ transition.isStop then (.ignore, roster)
  else if transition.occupancy = 0 then (.allow, roster.closeDrain transition.service)
  else roster.judgeOccupiedStop transition.service

/-- Judge a transition of any service. -/
def judge (roster : Roster) (group : String) (transition : Transition) : Verdict × Roster :=
  if transition.inGroup group then roster.judgeProxy transition else (.ignore, roster)

end Roster

end Quiesce
