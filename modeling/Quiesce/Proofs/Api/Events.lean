/-
# Posted events

An event that is posted to the API, in its JSON form, does what the event does when it
is handed over directly, whatever the agent's state and whatever is done while a
request for a stop is in flight. `posted_events_refine` says so for transitions, reports
and deletions: the response tells the same outcome, the same stops are requested, and
the agent left behind differs in its counts of requests to the API alone.
-/

import Quiesce.Proofs.Api.Refusal
import Quiesce.Proofs.Drain.Protocol
import Quiesce.Proofs.Interleaving.Sessions
import Quiesce.Proofs.Json.Events

namespace Quiesce

open Http (Request Response Route)
open Json (Draft Fault)

/-- A request posts a JSON value to a path, in a body that is not too long. -/
structure Http.Request.Posts (request : Request) (path : String) (value : Json) : Prop where
  method : request.method = "POST"
  path : Http.pathOf request.target = path.toList
  saysJson : request.saysJson
  body : request.body = Utf8.encode value.render
  short : request.body.length ≤ Api.bodyLimit

/-- Note the capacity that a report gives, then take the report in until it is answered, with
the steps taken while its request for a stop is in flight, if it makes one. -/
def Agent.handleReport (agent : Agent) (report : Report) (delivered : Bool) (during : List Step) :
    Upshot × List Trace × Agent :=
  match (agent.noteCapacity report).receive report with
  | (.settled progress, agent) => (⟨progress, []⟩, [], agent)
  | (.requesting service, agent) =>
    let (inner, agent) := Session.takeSteps agent during
    let (progress, agent) := agent.settle service delivered
    (⟨progress, [service]⟩, inner, agent)

/-! ## Capacities -/

namespace Roster

variable (roster : Roster) (name : String)

/-- Taking in a report changes no record yet. -/
private theorem find?_receive (report : Report) :
    (roster.receive report).2.find? name = roster.find? name := by
  rw [receive]
  cases roster.sight report with
  | settled progress => rfl
  | vacant =>
    simp only [claimStop, takeClaim]
    cases roster.awaitsStop report.service <;> rfl

/-- The answer to a request for a stop changes no capacity. -/
private theorem capacity_settle (service : String) (delivered : Bool) :
    ((roster.settle service delivered).2.find? name).map (·.capacity) =
      (roster.find? name).map (·.capacity) := by
  cases delivered with
  | false => simp [settle]
  | true =>
    by_cases same : service = name
    · subst same
      simp [settle, noteStopped, Function.comp_def]
    · simp [settle, noteStopped, same]

/-- A known proxy takes over the capacity that a report gives. -/
private theorem capacity_noteCapacity {report : Report} {capacity : UInt32}
    (given : report.capacity = some capacity) :
    ((roster.noteCapacity report).find? report.service).map (·.capacity) =
      (roster.find? report.service).map fun _ => capacity := by
  simp [noteCapacity, given, Function.comp_def]

end Roster

namespace Api

variable {request : Request} {path : String} {value : Json}

/-! ## Reading posted events -/

/-- A posted value is what is read from the body. -/
private theorem readBody_of_posts {α : Type} {read : Draft → Except Fault α} {event : α}
    (posts : request.Posts path value) (regular : value.Regular)
    (readBack : read (.ofJson value) = .ok event) : readBody request read = .ok event := by
  refine readBody_of_fits posts.saysJson posts.short ?_
  rw [posts.body, Json.readBytes_render regular, readBack]

/-- A posted event leads to its command, when its route takes posts and reads such events. -/
private theorem commandOf_of_posts {α : Type} {read : Draft → Except Fault α} {event : α}
    {exported : Bool} (route : Route) (toCommand : α → Command) (posts : request.Posts path value)
    (leads : Route.ofSegments? ((path.toList.splitOn '/').map String.ofList) = some route)
    (opened : route.isOpen exported) (allowed : route.methods.contains "POST")
    (reads : commandAt request route = toCommand <$> readBody request read)
    (regular : value.Regular) (readBack : read (.ofJson value) = .ok event) :
    commandOf exported request = .ok (toCommand event) := by
  have target : Route.ofTarget? request.target = some route := by
    rw [Route.ofTarget?, posts.path, leads]
  have found := routeOf?_eq_some target opened
  simp only [commandOf, found, posts.method, if_pos allowed]
  rw [reads, readBody_of_posts posts regular readBack]
  rfl

/-- The response to a posted request is shown whole. -/
private theorem complete_of_posts (posts : request.Posts path value) (response : Response)
    (agent : Agent) :
    complete request response agent = (response, counted agent request response.status) := by
  rw [complete_eq, shown_of_ne_head (by rw [posts.method]; decide)]

/-- What becomes of a posted request with a command. -/
private theorem handle_of_posts (agent : Agent) {command : Command}
    (posts : request.Posts path value) (accepted : commandOf agent.exports request = .ok command) :
    handle agent request =
      match perform agent command with
      | (.answered response, next) => (.answered response, counted next request response.status)
      | (.requesting service, next) => (.requesting service, next) := by
  rcases performed : perform agent command with ⟨response | service, next⟩
  · simp only [handle, accepted, performed, complete_of_posts posts]
  · simp only [handle, accepted, performed]

end Api

namespace Session

open Api (counted)

variable {request : Request} (agent : Agent)

/-- A posted transition is judged. -/
private theorem takeStep_transition (delivered : Bool) (during : List Step)
    {transition : Transition} (posts : request.Posts "/events/lifecycle" transition.toJson) :
    takeStep agent (.mk (.request request) delivered during) =
      (.mk (.response (.json 200
          (.object [("veto", .boolean (agent.judge transition).1.vetoed)])))
          (agent.judge transition).2.roster.entries [],
        counted (agent.judge transition).2 request 200) := by
  have accepted : Api.commandOf agent.exports request = .ok (.judge transition) :=
    Api.commandOf_of_posts .transitions .judge posts rfl rfl rfl rfl transition.regular_toJson
      transition.ofDraft_toJson
  exact takeStep_of_answered delivered during (Api.handle_of_posts agent posts accepted)

/-- A posted report is taken in, after its capacity is noted. -/
private theorem takeStep_report (delivered : Bool) (during : List Step) {report : Report}
    (posts : request.Posts "/events/update" report.toJson) :
    let handled := agent.handleReport report delivered during
    takeStep agent (.mk (.request request) delivered during) =
        (.mk (.response (Api.progressResponse handled.1.progress)) handled.2.2.roster.entries
            handled.2.1,
          counted handled.2.2 request 200) ∧
      Interleaving.requestOfPhase (agent.begin (.request request)).1 = handled.1.requests := by
  intro result
  have accepted : Api.commandOf agent.exports request = .ok (.receive report) :=
    Api.commandOf_of_posts .reports .receive posts rfl rfl rfl rfl report.regular_toJson
      report.ofDraft_toJson
  have handled := Api.handle_of_posts agent posts accepted
  rw [Api.perform] at handled
  simp only [result, Agent.handleReport]
  rcases received : (agent.noteCapacity report).receive report with ⟨progress | service, next⟩
  · rw [received] at handled
    simp only [Agent.begin, handled]
    exact ⟨takeStep_of_answered delivered during handled, rfl⟩
  · rw [received] at handled
    simp only [takeStep, Agent.begin, handled, Agent.finish, Api.resume]
    simp only [Api.complete_of_posts posts]
    exact ⟨rfl, rfl⟩

/-- A posted deletion forgets its service. -/
private theorem takeStep_deletion (delivered : Bool) (during : List Step) {deletion : Deletion}
    (posts : request.Posts "/events/deleted" deletion.toJson) :
    takeStep agent (.mk (.request request) delivered during) =
      (.mk (.response (.bare 204)) (agent.roster.forget deletion.service).entries [],
        counted (agent.withRoster (agent.roster.forget deletion.service)) request 204) := by
  have accepted : Api.commandOf agent.exports request = .ok (.forget deletion.service) :=
    Api.commandOf_of_posts .deletions (fun deletion => .forget deletion.service) posts rfl rfl rfl
      rfl deletion.regular_toJson deletion.ofDraft_toJson
  exact takeStep_of_answered delivered during (Api.handle_of_posts agent posts accepted)

/-- A report gives its capacity to a known proxy, and that stays when the report is taken in
with nothing in between, whether or not the stop is delivered. -/
private theorem capacity_handleReport (report : Report) (delivered : Bool) {capacity : UInt32}
    (given : report.capacity = some capacity) :
    ((agent.handleReport report delivered []).2.2.roster.find? report.service).map (·.capacity) =
      (agent.roster.find? report.service).map fun _ => capacity := by
  rw [← Roster.capacity_noteCapacity agent.roster given]
  have kept : (((agent.noteCapacity report).receive report).2.roster.find? report.service) =
      (agent.roster.noteCapacity report).find? report.service :=
    Roster.find?_receive _ report.service report
  rw [Agent.handleReport]
  rcases received : (agent.noteCapacity report).receive report with ⟨progress | service, next⟩
  · rw [received] at kept
    exact congrArg _ kept
  · rw [received] at kept
    rw [← kept]
    exact Roster.capacity_settle next.roster report.service service delivered

/-- An event that is posted to the API does what it does when it is handed over directly,
whatever is under way and whatever is done while a request for a stop is in flight. A
transition is answered with its veto, and a report, whose capacity is noted first, with its
progress; a deletion is answered with no content. The steps in between come to the same, the
same stops are requested, and the agent left behind has counted the request and is otherwise
the one that the event itself leaves. The capacity is kept even when the stop fails. -/
theorem posted_events_refine (agent : Agent) (request : Request) (delivered : Bool)
    (during : List Step) :
    let taken := takeStep agent (.mk (.request request) delivered during)
    (∀ transition : Transition, request.Posts "/events/lifecycle" transition.toJson →
      let judged := agent.judge transition
      taken = (.mk (.response (.json 200 (.object [("veto", .boolean judged.1.vetoed)])))
        judged.2.roster.entries [], counted judged.2 request 200)) ∧
    (∀ report : Report, request.Posts "/events/update" report.toJson →
      let handled := agent.handleReport report delivered during
      taken = (.mk (.response (.json 200 (.object [("drain", .string handled.1.progress.label)])))
        handled.2.2.roster.entries handled.2.1, counted handled.2.2 request 200) ∧
      Interleaving.requestOfPhase (agent.begin (.request request)).1 = handled.1.requests ∧
      (during = [] → ∀ capacity ∈ report.capacity,
        (taken.2.roster.find? report.service).map (·.capacity) =
          (agent.roster.find? report.service).map fun _ => capacity)) ∧
    ∀ deletion : Deletion, request.Posts "/events/deleted" deletion.toJson →
      let left := agent.withRoster (agent.roster.forget deletion.service)
      taken = (.mk (.response (.bare 204)) left.roster.entries [], counted left request 204) := by
  intro taken
  refine ⟨fun transition posts => takeStep_transition agent delivered during posts, ?_,
    fun deletion posts => takeStep_deletion agent delivered during posts⟩
  intro report posts
  obtain ⟨answered, requested⟩ := takeStep_report agent delivered during posts
  refine ⟨answered, requested, ?_⟩
  rintro rfl capacity given
  rw [congrArg Prod.snd answered]
  exact capacity_handleReport agent report delivered given

/-- A request that posts a value to a path. -/
def posting (path : String) (value : Json) : Request :=
  ⟨"POST", path, some "application/json", Utf8.encode value.render⟩

/-- It does so, when the path is a path alone and the value is not too long. -/
theorem posts_posting {path : String} {value : Json} (plain : Http.pathOf path = path.toList)
    (short : (Utf8.encode value.render).length ≤ Api.bodyLimit) :
    (posting path value).Posts path value :=
  ⟨rfl, plain, Request.saysJson_of_plain rfl, rfl, short⟩

/-- The stop of the occupied lobby is vetoed. When no player is left, the request for its stop
fails, or the lobby is deleted. -/
theorem posted_events_refine_at_lobby :
    let draining := ((Agent.start "Proxy" 10).judge Roster.lobbyStop).2
    let report : Report := ⟨"lobby-1", 0, some 50⟩
    let vetoed := takeStep (.start "Proxy" 10)
      (.mk (.request (posting "/events/lifecycle" Roster.lobbyStop.toJson)) true [])
    let failed := takeStep draining
      (.mk (.request (posting "/events/update" report.toJson)) false [])
    let deleted := takeStep draining
      (.mk (.request (posting "/events/deleted" (Deletion.toJson ⟨"lobby-1"⟩))) true [])
    vetoed.1.answer = .response (.json 200 (.object [("veto", .boolean true)])) ∧
      failed.1.answer = .response (.json 200 (.object [("drain", .string "stop_failed")])) ∧
      (failed.2.roster.find? "lobby-1").map (·.capacity) = some 50 ∧
      deleted.1.answer = .response (.bare 204) := by
  intro draining report vetoed failed deleted
  have judged := (posted_events_refine (.start "Proxy" 10)
    (posting "/events/lifecycle" Roster.lobbyStop.toJson) true []).1 Roster.lobbyStop
    (posts_posting (by decide) (by decide +kernel))
  obtain ⟨reported, -, kept⟩ := (posted_events_refine draining
    (posting "/events/update" report.toJson) false []).2.1 report
    (posts_posting (by decide) (by decide +kernel))
  have forgotten := (posted_events_refine draining
    (posting "/events/deleted" (Deletion.toJson ⟨"lobby-1"⟩)) true []).2.2 ⟨"lobby-1"⟩
    (posts_posting (by decide) (by decide +kernel))
  have vetoes : ((Agent.start "Proxy" 10).judge Roster.lobbyStop).1.vetoed = true := by decide
  have fails : (draining.handleReport report false []).1.progress = .stopFailed := by decide
  have known : (draining.roster.find? "lobby-1").map (fun _ => (50 : UInt32)) = some 50 := by
    decide
  refine ⟨?_, ?_, (kept rfl 50 rfl).trans known, congrArg (·.1.answer) forgotten⟩
  · rw [← vetoes]
    exact congrArg (·.1.answer) judged
  · have answered := congrArg (·.1.answer) reported
    rw [fails] at answered
    exact answered

end Session

end Quiesce
