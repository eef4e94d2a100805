/-
# The answer to a request for a stop

Anything may happen while a request for a stop is in flight. When its answer comes in, the
roster is looked at as it is then: a delivery sets the standing of the proxy if that is known,
and a failure has it await its stop again if it is still draining. `Roster.Completes` says
this of the roster that the answer finds and the one that it leaves, in terms of what they
show; nothing in it looks back at the roster that the request was made on.
`completion_keeps_what_happened` says that every request completes so, whether what happens in
between is nested in its session or overlaps with it.
-/

import Quiesce.Proofs.Interleaving.Acts
import Quiesce.Proofs.Session.Outcomes

namespace Quiesce

namespace Roster

/-- The answer to a request for the stop of a proxy finds one roster and leaves another. -/
structure Completes (found : Roster) (name : String) (delivered : Bool) (left : Roster) :
    Prop where
  /-- A delivery sets the standing of a known proxy and keeps its capacity; a failure keeps the
  whole record. -/
  record : left.find? name =
    if delivered then (found.find? name).map fun record => { record with standing := .down }
    else found.find? name
  /-- A failure makes a draining proxy await its stop; otherwise the waiting stays. -/
  awaiting : left.awaitsStop name ↔ found.awaitsStop name ∨
    ¬ delivered ∧ (found.find? name).map (·.standing) = some .draining
  others : ∀ other, other ≠ name →
    left.find? other = found.find? other ∧ left.awaitsStop other = found.awaitsStop other
  defaultCapacity : left.defaultCapacity = found.defaultCapacity
  /-- A proxy that was forgotten in flight stays forgotten. -/
  forgotten : found.find? name = none → left = found
  /-- A proxy that left its drain in flight does not go back to it when the request fails. -/
  settled : ¬ delivered → (found.find? name).map (·.standing) ≠ some .draining → left = found

theorem completes_noteStopped (found : Roster) (name : String) :
    found.Completes name true (found.noteStopped name) where
  record := by simp [noteStopped]
  awaiting := by simp [noteStopped]
  others other different := by simp [noteStopped, Ne.symm different]
  defaultCapacity := found.defaultCapacity_reassign name .down
  forgotten unknown := by rw [noteStopped, reassign, unknown]
  settled failed := absurd rfl failed

theorem completes_returnClaim (found : Roster) (name : String) :
    found.Completes name false (found.returnClaim name).2 where
  record := by simp
  awaiting := by simp [any_draining_eq, or_comm]
  others other different := by simp [Ne.symm different]
  defaultCapacity := found.defaultCapacity_returnClaim name
  forgotten unknown := by simp [returnClaim, unknown]
  settled _ notDraining := by simp [returnClaim, any_draining_eq, notDraining]

theorem completes_settle (found : Roster) (name : String) (delivered : Bool) :
    found.Completes name delivered (found.settle name delivered).2 := by
  cases delivered with
  | true => exact found.completes_noteStopped name
  | false => exact found.completes_returnClaim name

end Roster

/-- What is told of a request for a stop that was answered. -/
def Progress.ofDelivery (delivered : Bool) : Progress :=
  if delivered then .stopped else .stopFailed

namespace Roster

theorem settle_fst (roster : Roster) (name : String) (delivered : Bool) :
    (roster.settle name delivered).1 = .ofDelivery delivered := by
  cases delivered <;> rfl

/-- A vacant report on a proxy that awaits its stop takes the waiting for the request. -/
theorem receive_of_vacant {roster : Roster} {report : Report}
    (awaits : roster.awaitsStop report.service) (vacant : report.occupancy = 0) :
    roster.receive report = (.requesting report.service, roster.unawait report.service) := by
  simp [receive, sight, claimStop, takeClaim, awaits, vacant]

theorem awaitsStop_noteCapacity (roster : Roster) (report : Report) (name : String) :
    (roster.noteCapacity report).awaitsStop name = roster.awaitsStop name := by
  unfold noteCapacity
  split <;> simp

end Roster

/-- A result that comes to a value is that value. -/
theorem eq_ok_of_toOption {ε α : Type} {result : Except ε α} {value : α}
    (succeeds : result.toOption = some value) : result = .ok value := by
  cases result with
  | error fault => cases succeeds
  | ok other => exact congrArg Except.ok (Option.some.inj succeeds)

namespace Agent

variable {agent : Agent} {operation : Operation} {report : Report}

/-- The answer to a request for the stop of a service settles it, and is told. -/
def Settles (pending : Pending) (service : String) : Prop :=
  ∀ (agent : Agent) (delivered : Bool),
    (agent.finish pending delivered).1.Tells (.ofDelivery delivered) ∧
      (agent.finish pending delivered).2.roster = (agent.roster.settle service delivered).2

private theorem settles_report (service : String) : Settles (.report service) service := by
  intro agent delivered
  refine ⟨.inl ?_, rfl⟩
  rw [← agent.roster.settle_fst service delivered]
  rfl

private theorem settles_request {request : Http.Request}
    {exported : Bool} (accepted : Api.commandOf exported request = .ok (.receive report)) :
    Settles (.request request report.service) report.service := by
  intro agent delivered
  simp only [finish, Api.resume, Api.complete_eq, Api.shown_of_change accepted rfl]
  refine ⟨.inr ?_, rfl⟩
  rw [← agent.roster.settle_fst report.service delivered]
  rfl

/-- A report that says that no player is on a proxy that awaits its stop requests that stop,
and is left waiting for the answer. -/
theorem receive_of_vacant (awaits : agent.roster.awaitsStop report.service)
    (vacant : report.occupancy = 0) :
    agent.receive report =
      (.requesting report.service, agent.withRoster (agent.roster.unawait report.service)) := by
  rw [receive, Roster.receive_of_vacant awaits vacant]

/-- So does an operation that comes to such a report, as an event or in a request. -/
private theorem begin_of_vacant (asks : agent.command? operation = some (.receive report))
    (awaits : agent.roster.awaitsStop report.service) (vacant : report.occupancy = 0) :
    ∃ pending, (agent.begin operation).1 = .waiting pending ∧
      Interleaving.requestOfPhase (.waiting pending) = [report.service] ∧
      Settles pending report.service := by
  cases operation with
  | receive event =>
    obtain ⟨read, readBack, same⟩ := Option.map_eq_some_iff.mp asks
    obtain rfl := Api.Command.receive.inj same
    have readBack := eq_ok_of_toOption readBack
    refine ⟨.report read.service, ?_, rfl, settles_report read.service⟩
    simp only [begin, readBack, receive_of_vacant awaits vacant]
  | request request =>
    have accepted : Api.commandOf agent.exports request = .ok (.receive report) :=
      eq_ok_of_toOption asks
    have awaits : (agent.noteCapacity report).roster.awaitsStop report.service := by
      rw [← awaits]
      exact agent.roster.awaitsStop_noteCapacity report report.service
    refine ⟨.request request report.service, ?_, rfl, settles_request accepted⟩
    simp only [begin, Api.handle, accepted, Api.perform, receive_of_vacant awaits vacant]
  | judge event =>
    cases read : Transition.ofDraft .loaded (.ofJson event) <;>
      simp [command?, read, Except.toOption] at asks
  | _ => cases asks

end Agent

namespace Interleaving.Scene

/-- With nothing in between, a vacant report is seen and claims the stop, and its request is in
flight. -/
theorem run?_vacant (group : String) {roster : Roster} {report : Report}
    (awaits : roster.awaitsStop report.service) (vacant : report.occupancy = 0)
    (tasks : List Task) :
    run? group ⟨roster, tasks⟩ [.receive report, .proceed (.claiming report.service) false] =
      some ([.silent, .requested report.service],
        ⟨roster.unawait report.service, .requesting report.service :: tasks⟩) := by
  simp [run?, step?, beginReport, proceed, Roster.sight, Roster.claimStop, Roster.takeClaim,
    awaits, vacant, adding, withRoster]

/-- A request in flight can be answered, and the roster is left as its answer makes it. -/
theorem step?_requesting (group : String) {scene : Scene} {name : String}
    (inFlight : .requesting name ∈ scene.tasks) (delivered : Bool) :
    ∃ left, scene.step? group (.proceed (.requesting name) delivered) =
        some (.progressed (.ofDelivery delivered), left) ∧
      scene.roster.Completes name delivered left.roster := by
  refine ⟨⟨(scene.roster.settle name delivered).2, scene.tasks.erase (.requesting name)⟩, ?_,
    scene.roster.completes_settle name delivered⟩
  rw [step?, if_pos inFlight, ← scene.roster.settle_fst name delivered]
  rfl

end Interleaving.Scene

namespace Session

open Interleaving (Scene Task Act Occurrence)

/-- A report that no player is on a proxy that awaits its stop requests that stop. The answer to
the request changes what it finds, whatever was done while the request was in flight, and undoes
none of it. This is so for a report in every form, as an event or in a request, with any steps
taken in between, which may request the same stop again; and it is so for any play of moves and
operations in between, which may overlap with the request in any way. -/
theorem completion_keeps_what_happened (agent : Agent) (report : Report)
    (awaits : agent.roster.awaitsStop report.service) (vacant : report.occupancy = 0)
    (delivered : Bool) :
    (∀ operation : Operation, agent.command? operation = some (.receive report) →
      ∀ during : List Step,
        let found := (takeSteps (agent.begin operation).2 during).2
        let taken := takeStep agent (.mk operation delivered during)
        Interleaving.requestOfPhase (agent.begin operation).1 = [report.service] ∧
          taken.1.answer.Tells (.ofDelivery delivered) ∧
          found.roster.Completes report.service delivered taken.2.roster) ∧
    ∀ tasks : List Task,
      let inFlight : Scene :=
        ⟨agent.roster.unawait report.service, .requesting report.service :: tasks⟩
      Scene.run? agent.group ⟨agent.roster, tasks⟩
          [.receive report, .proceed (.claiming report.service) false] =
        some ([.silent, .requested report.service], inFlight) ∧
      ∀ (acts : List Act) (occurrences : List Occurrence) (found : Scene),
        inFlight.play? agent.group acts = some (occurrences, found) →
        .requesting report.service ∈ found.tasks →
        ∃ left, found.step? agent.group (.proceed (.requesting report.service) delivered) =
            some (.progressed (.ofDelivery delivered), left) ∧
          found.roster.Completes report.service delivered left.roster := by
  constructor
  · intro operation asks during found taken
    obtain ⟨pending, begun, requested, settles⟩ :=
      Agent.begin_of_vacant asks awaits vacant
    obtain ⟨told, left⟩ := settles found delivered
    have finished : taken.1.answer = (found.finish pending delivered).1 ∧
        taken.2 = (found.finish pending delivered).2 := by
      have begun : agent.begin operation = (.waiting pending, (agent.begin operation).2) :=
        Prod.ext begun rfl
      simp only [taken, takeStep]
      rw [begun]
      exact ⟨rfl, rfl⟩
    rw [finished.1, finished.2, left, begun]
    exact ⟨requested, told, found.roster.completes_settle report.service delivered⟩
  · intro tasks inFlight
    refine ⟨Scene.run?_vacant agent.group awaits vacant tasks, ?_⟩
    intro acts occurrences found _ unanswered
    exact Scene.step?_requesting agent.group unanswered delivered

/-- The lobby is deleted while the request for its stop is in flight, and a delivery does not
bring it back; or it is set up, and a failure does not have it await its stop again. -/
theorem completion_keeps_what_happened_at_lobby :
    let draining := ((Agent.start "Proxy" 10).judge (Interleaving.Lobby.stopping 3)).2
    let report := Operation.receive Interleaving.Lobby.vacant.toJson
    let deletion := Step.mk (.forget "lobby-1") true []
    let override := Act.move (.override "lobby-1" .up none)
    let inFlight : Scene := ⟨draining.roster.unawait "lobby-1", [.requesting "lobby-1"]⟩
    ¬ ((takeStep draining (.mk report true [deletion])).2.roster.find? "lobby-1").isSome ∧
      ∃ found left, inFlight.play? "Proxy" [override] =
          some ([⟨override, .effect .silent⟩], found) ∧
        found.step? "Proxy" (.proceed (.requesting "lobby-1") false) =
          some (.progressed .stopFailed, left) ∧
        ¬ left.roster.awaitsStop "lobby-1" := by
  intro draining report deletion override inFlight
  have completes (delivered : Bool) := completion_keeps_what_happened draining
    Interleaving.Lobby.vacant (by decide) rfl delivered
  constructor
  · have asks : draining.command? report = some (.receive Interleaving.Lobby.vacant) := by
      decide +kernel
    obtain ⟨-, -, left⟩ := (completes true).1 report asks [deletion]
    rw [left.forgotten (by decide +kernel)]
    decide +kernel
  · obtain ⟨left, answered, completed⟩ := ((completes false).2 []).2 [override] _ _ rfl (by decide)
    refine ⟨_, left, rfl, answered, ?_⟩
    rw [completed.settled (by decide) (by decide)]
    decide

end Session

end Quiesce
