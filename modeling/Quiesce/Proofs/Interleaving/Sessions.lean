/-
# Sessions are runs

The agent takes its events in whole: it judges a transition at once, and a
report up to the request for a stop, if it leads to one. Taken so, an event is a
run of the steps that it is made of, and the last of them brings about what the
agent answers. A session puts what happens while a request is under way inside
the step that waits for it, so a session of events is a run too. This is
`session_reaches`, by which what is proved of runs holds of the agent.
-/

import Quiesce.Proofs.Interleaving.Run
import Quiesce.Session

namespace Quiesce.Interleaving

/-- Some run leads from one scene to another. -/
def Reaches (group : String) (origin scene : Scene) : Prop :=
  ∃ history, Run group origin history scene

/-- Some run leads from one scene to another, and its last step has the given effect. -/
def Answers (group : String) (origin : Scene) (effect : Effect) (scene : Scene) : Prop :=
  ∃ last earlier, Run group origin (last :: earlier) scene ∧ last.effect = effect

/-- What comes of a report that is taken in. -/
def effectOf : Attempt → Effect
  | .settled progress => .progressed progress
  | .requesting service => .requested service

/-- The service whose stop a report requests, if it requests one. -/
def requestOf : Attempt → List String
  | .settled _ => []
  | .requesting service => [service]

variable {group : String} {origin middle scene : Scene} {effect : Effect}

theorem Reaches.refl : Reaches group scene scene := ⟨[], .start⟩

theorem Reaches.trans (first : Reaches group origin middle) (second : Reaches group middle scene) :
    Reaches group origin scene := by
  obtain ⟨earlier, first⟩ := first
  obtain ⟨later, second⟩ := second
  exact ⟨later ++ earlier, first.trans second⟩

theorem Answers.reaches (answers : Answers group origin effect scene) :
    Reaches group origin scene := by
  obtain ⟨last, earlier, run, -⟩ := answers
  exact ⟨last :: earlier, run⟩

/-- One step is a run. -/
theorem Answers.of_step (move : Move) (step : origin.step? group move = some (effect, scene)) :
    Answers group origin effect scene :=
  ⟨_, [], Run.start.extend step, rfl⟩

/-- A step after a run answers for both. -/
theorem Reaches.answers (reaches : Reaches group origin middle) (move : Move)
    (step : middle.step? group move = some (effect, scene)) :
    Answers group origin effect scene := by
  obtain ⟨earlier, run⟩ := reaches
  exact ⟨_, earlier, run.extend step, rfl⟩

section

variable (group) (roster : Roster) (tasks : List Task)

/-- A task that has just come under way can proceed. -/
private theorem step?_proceed_cons (task : Task) (delivered : Bool) :
    Scene.step? ⟨roster, task :: tasks⟩ group (.proceed task delivered) =
      some (Scene.proceed ⟨roster, tasks⟩ delivered task) := by
  simp [Scene.step?]

/-- Judging a transition at once is a run that answers with the verdict. -/
theorem judge_answers (transition : Transition) :
    Answers group ⟨roster, tasks⟩ (.judged (roster.judge group transition).1)
      ⟨(roster.judge group transition).2, tasks⟩ := by
  by_cases occupiedStop :
      transition.inGroup group ∧ transition.isStop ∧ transition.occupancy ≠ 0
  · obtain ⟨inGroup, isStop, occupied⟩ := occupiedStop
    have notStart : transition.isStart = false := Transition.isStart_eq_false_of_isStop isStop
    have judged : roster.judge group transition = roster.judgeOccupiedStop transition.service := by
      simp [Roster.judge, Roster.judgeProxy, inGroup, notStart, isStop, occupied]
    rw [judged, Roster.judgeOccupiedStop]
    rcases looked : roster.concludeDrain transition.service with ⟨concluded, next⟩
    cases concluded with
    | true =>
      apply Answers.of_step (.judge transition)
      simp [Scene.step?, Scene.beginJudgement, inGroup, isStop, occupied, looked,
        Scene.withRoster]
    | false =>
      have vetoing : Scene.step? ⟨roster, tasks⟩ group (.judge transition) =
          some (.silent, ⟨next, .vetoing transition.service :: tasks⟩) := by
        simp [Scene.step?, Scene.beginJudgement, inGroup, isStop, occupied, looked,
          Scene.withRoster, Scene.adding]
      exact (Answers.of_step _ vetoing).reaches.answers _
        (step?_proceed_cons group next tasks (.vetoing transition.service) false)
  · apply Answers.of_step (.judge transition)
    simp [Scene.step?, Scene.beginJudgement, occupiedStop, Scene.withRoster]

/-- Taking in a report at once is a run that answers with the progress, or that requests
the stop and leaves the request under way. -/
theorem receive_answers (report : Report) :
    let attempt := (roster.receive report).1
    Answers group ⟨roster, tasks⟩ (effectOf attempt)
      ⟨(roster.receive report).2, (requestOf attempt).map .requesting ++ tasks⟩ := by
  rw [Roster.receive]
  cases sighting : roster.sight report with
  | settled progress =>
    apply Answers.of_step (.receive report)
    simp [Scene.step?, Scene.beginReport, sighting, effectOf, requestOf]
  | vacant =>
    have seen : Scene.step? ⟨roster, tasks⟩ group (.receive report) =
        some (.silent, ⟨roster, .claiming report.service :: tasks⟩) := by
      simp [Scene.step?, Scene.beginReport, sighting, Scene.adding]
    have claimed := (Answers.of_step _ seen).reaches.answers _
      (step?_proceed_cons group roster tasks (.claiming report.service) false)
    simp only [Roster.claimStop] at claimed ⊢
    generalize roster.takeClaim report.service = claim at claimed ⊢
    obtain ⟨taken, next⟩ := claim
    cases taken <;> exact claimed

/-- The answer to a request under way is a run of one step. -/
theorem settle_answers (service : String) (delivered : Bool) :
    Answers group ⟨roster, .requesting service :: tasks⟩
      (.progressed (roster.settle service delivered).1)
      ⟨(roster.settle service delivered).2, tasks⟩ :=
  .of_step _ (step?_proceed_cons group roster tasks (.requesting service) delivered)

end

/-! ## The agent -/

/-- An agent becomes another by a run, in which requests for stops come under way or are
answered. -/
structure Becomes (agent : Agent) (requests : List String) (next : Agent)
    (remaining : List String) : Prop where
  sameGroup : next.group = agent.group
  reaches : Reaches agent.group ⟨agent.roster, requests.map .requesting⟩
    ⟨next.roster, remaining.map .requesting⟩

/-- The services whose stop a request to the agent requests. -/
def requestOfOutcome : Api.Outcome → List String
  | .answered _ => []
  | .requesting service => [service]

/-- The services whose stop an operation requests. -/
def requestOfPhase : Phase → List String
  | .answered _ => []
  | .waiting (.report service) | .waiting (.request _ service) => [service]

namespace Becomes

variable {agent next last : Agent} {requests remaining rest : List String}

theorem refl : Becomes agent requests agent requests := ⟨rfl, .refl⟩

theorem trans (first : Becomes agent requests next remaining)
    (second : Becomes next remaining last rest) : Becomes agent requests last rest := by
  refine ⟨second.sameGroup.trans first.sameGroup, first.reaches.trans ?_⟩
  rw [← first.sameGroup]
  exact second.reaches

/-- One move leads to a new roster. -/
theorem of_step (move : Move) (sameGroup : next.group = agent.group)
    (step : Scene.step? ⟨agent.roster, requests.map .requesting⟩ agent.group move =
      some (effect, ⟨next.roster, requests.map .requesting⟩)) :
    Becomes agent requests next requests :=
  ⟨sameGroup, (Answers.of_step move step).reaches⟩

end Becomes

section

variable (agent : Agent) (requests : List String)

private theorem judge_becomes (transition : Transition) :
    Becomes agent requests (agent.judge transition).2 requests := by
  have judged :=
    (judge_answers agent.group agent.roster (requests.map .requesting) transition).reaches
  simp only [Agent.judge]
  split <;> exact ⟨rfl, judged⟩

private theorem noteCapacity_becomes (report : Report) :
    Becomes agent requests (agent.noteCapacity report) requests :=
  .of_step (.noteCapacity report) rfl rfl

private theorem receive_becomes (report : Report) :
    Becomes agent requests (agent.receive report).2
      (requestOf (agent.receive report).1 ++ requests) := by
  have received :=
    (receive_answers agent.group agent.roster (requests.map .requesting) report).reaches
  rw [← List.map_append] at received
  exact ⟨rfl, received⟩

private theorem settle_becomes (service : String) (delivered : Bool) :
    Becomes agent (service :: requests) (agent.settle service delivered).2 requests :=
  ⟨rfl, (settle_answers agent.group agent.roster (requests.map .requesting) service
    delivered).reaches⟩

private theorem forget_becomes (service : String) :
    Becomes agent requests (agent.forget service) requests :=
  .of_step (.forget service) rfl rfl

private theorem overrideWith_becomes (name : String) (standing : Standing)
    (capacity : Option UInt32) :
    Becomes agent requests (agent.overrideWith name standing capacity) requests :=
  .of_step (.override name standing capacity) rfl rfl

/-- A command is a run of its event, if it is about one. -/
theorem perform_becomes (command : Api.Command) :
    Becomes agent requests (Api.perform agent command).2
      (requestOfOutcome (Api.perform agent command).1 ++ requests) := by
  cases command with
  | judge transition => exact judge_becomes agent requests transition
  | receive report =>
    have received := (noteCapacity_becomes agent requests report).trans
      (receive_becomes _ requests report)
    simp only [Api.perform]
    generalize (agent.noteCapacity report).receive report = taken at received ⊢
    obtain ⟨attempt, next⟩ := taken
    cases attempt <;> exact received
  | forget service => exact forget_becomes agent requests service
  | override name standing capacity =>
    exact overrideWith_becomes agent requests name standing capacity
  | _ => exact .refl

/-- A request is a run of the event that it asks for, if it is accepted and asks for one. -/
private theorem handle_becomes (request : Http.Request) :
    Becomes agent requests (Api.handle agent request).2
      (requestOfOutcome (Api.handle agent request).1 ++ requests) := by
  unfold Api.handle
  cases Api.commandOf agent.exports request with
  | error refusal => exact ⟨rfl, .refl⟩
  | ok command =>
    have performed := perform_becomes agent requests command
    simp only
    generalize Api.perform agent command = done at performed ⊢
    obtain ⟨outcome, next⟩ := done
    cases outcome <;> exact ⟨performed.sameGroup, performed.reaches⟩

end

/-- Whether an operation is an event of the agent, or looks at the roster or the socket
alone. The others change the roster from outside. -/
def isEvent : Operation → Bool
  | .find _ | .entry _ | .awaitsStop _ | .size => true
  | .poll _ _ | .missConnection | .stopListening => true
  | .judge _ | .receive _ | .noteCapacity _ | .forget _ | .request _ => true
  | _ => false

section

variable (agent : Agent) (requests : List String)

/-- The beginning of an event is a run. -/
theorem begin_becomes {operation : Operation} (event : isEvent operation) :
    Becomes agent requests (agent.begin operation).2
      (requestOfPhase (agent.begin operation).1 ++ requests) := by
  cases operation with
  | find | entry | awaitsStop | size | missConnection | stopListening => exact ⟨rfl, .refl⟩
  | poll payload written =>
    obtain ⟨tally, polled⟩ := agent.exists_tally_poll payload written
    show Becomes agent requests (agent.poll payload written).2 requests
    rw [polled]
    exact ⟨rfl, .refl⟩
  | judge json =>
    simp only [Agent.begin]
    cases Transition.ofDraft .loaded (.ofJson json) with
    | error => exact .refl
    | ok transition => exact judge_becomes agent requests transition
  | receive json =>
    simp only [Agent.begin]
    cases Report.ofDraft .loaded (.ofJson json) with
    | error => exact .refl
    | ok report =>
      have received := receive_becomes agent requests report
      simp only
      generalize agent.receive report = taken at received ⊢
      obtain ⟨attempt, next⟩ := taken
      cases attempt <;> exact received
  | noteCapacity json =>
    simp only [Agent.begin]
    cases Report.ofDraft .loaded (.ofJson json) with
    | error => exact .refl
    | ok report => exact noteCapacity_becomes agent requests report
  | forget name => exact forget_becomes agent requests name
  | request request =>
    have handled := handle_becomes agent requests request
    simp only [Agent.begin]
    generalize Api.handle agent request = taken at handled ⊢
    obtain ⟨outcome, next⟩ := taken
    cases outcome <;> exact handled
  | _ => cases event

/-- The end of an operation that waited is a run. -/
theorem finish_becomes (pending : Pending) (delivered : Bool) :
    Becomes agent (requestOfPhase (.waiting pending) ++ requests)
      (agent.finish pending delivered).2 requests := by
  cases pending with
  | report service => exact settle_becomes agent requests service delivered
  | request request service =>
    have settled := settle_becomes agent requests service delivered
    exact ⟨settled.sameGroup, settled.reaches⟩

end

/-! ## Sessions -/

mutual

/-- Whether a step and all steps taken during it are events. -/
def isEventful : Quiesce.Step → Bool
  | .mk operation _ during => isEvent operation && areEventful during

/-- Whether all steps are. -/
def areEventful : List Quiesce.Step → Bool
  | [] => true
  | step :: rest => isEventful step && areEventful rest

end

mutual

/-- A step is a run, with the runs of the steps during it inside. -/
private theorem takeStep_becomes (agent : Agent) (requests : List String) :
    ∀ step, isEventful step → Becomes agent requests (Session.takeStep agent step).2 requests
  | .mk operation delivered during, eventful => by
    rw [isEventful, Bool.and_eq_true] at eventful
    obtain ⟨event, eventful⟩ := eventful
    have begun := begin_becomes agent requests event
    rw [Session.takeStep]
    generalize agent.begin operation = taken at begun ⊢
    obtain ⟨phase, next⟩ := taken
    cases phase with
    | answered answer => exact begun
    | waiting pending =>
      have inner := takeSteps_becomes next (requestOfPhase (.waiting pending) ++ requests) during
        eventful
      exact (begun.trans inner).trans (finish_becomes _ requests pending delivered)

/-- Steps are runs one after another. -/
private theorem takeSteps_becomes (agent : Agent) (requests : List String) :
    ∀ steps, areEventful steps →
      Becomes agent requests (Session.takeSteps agent steps).2 requests
  | [], _ => by
    rw [Session.takeSteps]
    exact .refl
  | step :: rest, eventful => by
    rw [areEventful, Bool.and_eq_true] at eventful
    obtain ⟨first, later⟩ := eventful
    rw [Session.takeSteps]
    exact (takeStep_becomes agent requests step first).trans
      (takeSteps_becomes _ requests rest later)

end

/-- A session of events on an agent that knows no proxy is a run from the empty scene, at
whose end nothing is under way. -/
theorem session_reaches (group : String) (defaultCapacity : UInt32) (steps : List Quiesce.Step)
    (eventful : areEventful steps) :
    Reaches group (.start defaultCapacity)
      ⟨(Session.takeSteps (.start group defaultCapacity) steps).2.roster, []⟩ :=
  (takeSteps_becomes (.start group defaultCapacity) [] steps eventful).reaches

end Quiesce.Interleaving
