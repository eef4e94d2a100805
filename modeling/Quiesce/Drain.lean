/-
# Finishing drains

A report that no player is on a proxy that awaits its stop finishes the drain:
the orchestrator is asked to stop the proxy. The request takes a while, and
anything may happen before it is answered, so it has two ends. Its beginning
takes the claim to the stop, which keeps a second report from requesting it
too; its answer either notes the stop or gives the claim back.
-/

import Quiesce.Event
import Quiesce.Roster

namespace Quiesce

/-- How far a report has brought a drain. -/
inductive Progress where
  /-- The proxy does not await its stop. -/
  | notDraining
  /-- So many players are still on the proxy. -/
  | occupied (players : UInt32)
  /-- Another report has just claimed the stop. -/
  | alreadyClaimed
  /-- The stop was requested. -/
  | stopped
  /-- The stop could not be requested. -/
  | stopFailed
  deriving DecidableEq, Repr

/-- The name by which progress is reported. -/
def Progress.label : Progress → String
  | .notDraining => "not_draining"
  | .occupied _ => "occupied"
  | .alreadyClaimed => "already_claimed"
  | .stopped => "stopped"
  | .stopFailed => "stop_failed"

/-- What a report is seen to ask for, before anything is claimed. -/
inductive Sighting where
  | settled (progress : Progress)
  /-- The proxy awaits its stop and no player is on it. -/
  | vacant
  deriving DecidableEq, Repr

/-- The state of a report that has been taken in. -/
inductive Attempt where
  | settled (progress : Progress)
  /-- The stop of the service is being requested. -/
  | requesting (service : String)
  deriving DecidableEq, Repr

namespace Roster

/-- Take over the capacity that a report gives. -/
def noteCapacity (roster : Roster) (report : Report) : Roster :=
  match report.capacity with
  | some capacity => roster.resize report.service capacity
  | none => roster

/-- Look at a report without changing anything. -/
def sight (roster : Roster) (report : Report) : Sighting :=
  if ¬ roster.awaitsStop report.service then .settled .notDraining
  else if report.occupancy = 0 then .vacant
  else .settled (.occupied report.occupancy)

/-- Claim the stop of a proxy that was seen vacant. -/
def claimStop (roster : Roster) (service : String) : Attempt × Roster :=
  match roster.takeClaim service with
  | (true, roster) => (.requesting service, roster)
  | (false, roster) => (.settled .alreadyClaimed, roster)

/-- Take in a report, up to the request for a stop if it leads to one. -/
def receive (roster : Roster) (report : Report) : Attempt × Roster :=
  match roster.sight report with
  | .settled progress => (.settled progress, roster)
  | .vacant => roster.claimStop report.service

/-- Take in the answer to a request for a stop. -/
def settle (roster : Roster) (service : String) (delivered : Bool) : Progress × Roster :=
  if delivered then (.stopped, roster.noteStopped service)
  else (.stopFailed, (roster.returnClaim service).2)

end Roster

end Quiesce
