/-
# A refused request changes nothing

A request to the API is counted whatever becomes of it. Beyond that, a response that
tells of an error goes with no change at all, and so does every request that only
looks. `refused_spares` says so for every agent and every request: each check comes
before the first change, and what is changed is answered with success.
-/

import Quiesce.Roster.Views
import Quiesce.Session

namespace Quiesce

open Http (Request Response Route)

/-- Whether a series counts requests to the API. -/
def Series.isOfApi : Series → Bool
  | .requests _ _ _ | .latencies _ _ _ => true
  | _ => false

/-- An agent has changed in nothing but its counts of requests to the API. -/
structure Agent.Spares (agent next : Agent) : Prop where
  roster : next.roster = agent.roster
  stops : next.stops = agent.stops
  counts : ∀ series, ¬ series.isOfApi → next.tally.count series = agent.tally.count series

namespace Api

/-! ## Counting requests -/

/-- The agent after it has counted a request that was answered with a status. -/
def counted (agent : Agent) (request : Request) (status : Nat) : Agent :=
  (agent.counting (.requests request.method (patternOf agent.exports request) status)).counting
    (.latencies request.method (patternOf agent.exports request) status)

/-- The response as the request asks for it, with its content or without. -/
def shown (request : Request) (response : Response) : Response :=
  if request.method = "HEAD" then response.withoutContent else response

@[simp] theorem status_shown (request : Request) (response : Response) :
    (shown request response).status = response.status := by
  unfold shown
  split <;> rfl

/-- Only a request that asks for no content is shown none. -/
theorem shown_of_ne_head {request : Request} (method : request.method ≠ "HEAD")
    (response : Response) : shown request response = response :=
  if_neg method

theorem complete_eq (request : Request) (response : Response) (agent : Agent) :
    complete request response agent =
      (shown request response, counted agent request response.status) := by
  rw [← status_shown request response]
  rfl

theorem spares_counted (agent : Agent) (request : Request) (status : Nat) :
    agent.Spares (counted agent request status) := by
  refine ⟨rfl, rfl, fun series other => ?_⟩
  have notRequests : series ≠
      .requests request.method (patternOf agent.exports request) status := by
    rintro rfl
    exact other rfl
  have notLatencies : series ≠
      .latencies request.method (patternOf agent.exports request) status := by
    rintro rfl
    exact other rfl
  simp [counted, Agent.counting, Tally.count_bump, notRequests, notLatencies]

/-! ## Commands -/

/-- Whether a command only looks. -/
def Command.isLook : Command → Bool
  | .greet | .list | .show _ | .showCounts => true
  | _ => false

/-- A command that only looks is answered, and changes nothing. -/
theorem perform_of_isLook (agent : Agent) {command : Command} (look : command.isLook) :
    ∃ response, perform agent command = (.answered response, agent) := by
  cases command with
  | greet | list | «show» | showCounts => exact ⟨_, rfl⟩
  | judge | receive | forget | override => cases look

/-- An overridden proxy is known. -/
theorem find?_overrideWith (agent : Agent) (name : String) (standing : Standing)
    (capacity : Option UInt32) :
    (agent.overrideWith name standing capacity).roster.find? name =
      some ⟨standing, capacity.getD (agent.roster.recordOf name).capacity⟩ :=
  (Roster.find?_override _ _ _ _ _).trans (if_pos rfl)

/-- So it is shown. -/
private theorem status_entryResponse_overrideWith (agent : Agent) (name : String)
    (standing : Standing) (capacity : Option UInt32) :
    (entryResponse (agent.overrideWith name standing capacity).roster name).status = 200 := by
  rw [entryResponse, Roster.entry?, find?_overrideWith]
  rfl

/-- A command that is not only a look is answered with success, if it is answered. -/
private theorem status_of_not_isLook (agent : Agent) {command : Command} {response : Response}
    (change : ¬ command.isLook) (answered : (perform agent command).1 = .answered response) :
    response.status = 200 ∨ response.status = 204 := by
  cases command with
  | greet | list | «show» | showCounts => exact absurd rfl change
  | judge transition =>
    obtain rfl := Outcome.answered.inj answered
    exact .inl rfl
  | receive report =>
    rw [perform] at answered
    split at answered
    · obtain rfl := Outcome.answered.inj answered
      exact .inl rfl
    · cases answered
  | forget service =>
    obtain rfl := Outcome.answered.inj answered
    exact .inr rfl
  | override name standing capacity =>
    obtain rfl := Outcome.answered.inj answered
    exact .inl (status_entryResponse_overrideWith agent name standing capacity)

/-- A command that is answered with an error only looks. -/
theorem isLook_of_refused (agent : Agent) {command : Command} {response : Response}
    (answered : (perform agent command).1 = .answered response)
    (refused : 400 ≤ response.status) : command.isLook := by
  apply Decidable.byContradiction
  intro change
  have success := status_of_not_isLook agent change answered
  omega

/-- What is fetched, or asked for without its content, is only looked at. -/
theorem isLook_of_fetched {exported : Bool} {request : Request} {command : Command}
    (fetched : request.method ∈ ["GET", "HEAD"])
    (accepted : commandOf exported request = .ok command) : command.isLook := by
  rw [commandOf] at accepted
  cases found : routeOf? exported request with
  | none =>
    rw [found] at accepted
    cases accepted
  | some route =>
    by_cases allowed : route.methods.contains request.method
    case neg =>
      simp only [found, if_neg allowed] at accepted
      cases accepted
    simp only [found, if_pos allowed] at accepted
    have method := List.contains_iff_mem.mp allowed
    cases route with
    | index | readiness | liveness | proxies | counts =>
      cases accepted
      rfl
    | proxy rawName =>
      rw [commandAt] at accepted
      cases named : readName rawName with
      | error refusal =>
        rw [named] at accepted
        cases accepted
      | ok name =>
        rw [named] at accepted
        cases accepted
        rfl
    | transitions | reports | deletions | proxyStanding =>
      simp only [Route.methods, List.mem_singleton] at method
      simp [method] at fetched

/-- A response to a request that changes something is shown whole. -/
theorem shown_of_change {exported : Bool} {request : Request} {command : Command}
    (accepted : commandOf exported request = .ok command) (change : command.isLook = false)
    (response : Response) : shown request response = response := by
  refine shown_of_ne_head (fun head => ?_) response
  have look := isLook_of_fetched (by simp [head]) accepted
  rw [change] at look
  cases look

/-! ## Requests -/

/-- What is read of a body that says to be JSON, and is not too long, is taken over. -/
theorem readBody_of_fits {α : Type} {request : Request} {read : Json.Draft → Except Json.Fault α}
    {value : α} (saysJson : request.saysJson) (short : request.body.length ≤ bodyLimit)
    (found : Json.readBytes read request.body = .ok value) : readBody request read = .ok value := by
  rw [readBody, if_neg (not_not_intro saysJson), if_neg (Nat.not_lt_of_le short), found]
  rfl

/-- A request whose command only looks, if it has one, is answered and spares the agent. -/
theorem handle_of_isLook (agent : Agent) (request : Request)
    (look : ∀ command, commandOf agent.exports request = .ok command → command.isLook) :
    ∃ response, handle agent request =
      (.answered response, counted agent request response.status) := by
  rw [handle]
  cases accepted : commandOf agent.exports request with
  | error refusal => exact ⟨shown request refusal.response, by simp [complete_eq]⟩
  | ok command =>
    obtain ⟨response, performed⟩ := perform_of_isLook agent (look command accepted)
    exact ⟨shown request response, by simp [performed, complete_eq]⟩

/-- A request that is refused has no command but one that only looks. -/
private theorem isLook_of_handle_refused {agent next : Agent} {request : Request}
    {response : Response} (handled : handle agent request = (.answered response, next))
    (refused : 400 ≤ response.status) {command : Command}
    (accepted : commandOf agent.exports request = .ok command) : command.isLook := by
  rw [handle, accepted] at handled
  rcases performed : perform agent command with ⟨outcome, changed⟩
  cases outcome with
  | requesting service => simp [performed] at handled
  | answered answer =>
    simp only [performed, complete_eq, Prod.mk.injEq, Outcome.answered.injEq] at handled
    obtain ⟨rfl, -⟩ := handled
    rw [status_shown] at refused
    exact isLook_of_refused agent (by rw [performed]) refused

/-- A request that waited for a stop is answered with success. -/
@[simp] theorem status_resume (agent : Agent) (request : Request) (service : String)
    (delivered : Bool) : (resume agent request service delivered).1.status = 200 := by
  simp only [resume, complete_eq, status_shown]
  rfl

end Api

/-- What a step answered. -/
def Trace.answer : Trace → Answer
  | .mk answer _ _ => answer

namespace Session

/-- A request that is answered at once ends its step. -/
theorem takeStep_of_answered {agent next : Agent} {request : Request}
    {response : Response} (delivered : Bool) (during : List Step)
    (handled : Api.handle agent request = (.answered response, next)) :
    takeStep agent (.mk (.request request) delivered during) =
      (.mk (.response response) next.roster.entries [], next) := by
  simp only [takeStep, Agent.begin, handled]

/-- A request to the API is taken in and answered with nothing in between. When it is answered
with an error, nothing has changed but the counts of requests to the API, and no stop was
requested; when it only fetches, nothing else has changed either, whatever the answer. -/
theorem refused_spares (agent : Agent) (request : Request) (delivered : Bool) :
    let taken := takeStep agent (.mk (.request request) delivered [])
    ∃ response, taken.1.answer = .response response ∧
      (400 ≤ response.status →
        agent.Spares taken.2 ∧ (Api.handle agent request).1 = .answered response) ∧
      (request.method ∈ ["GET", "HEAD"] → agent.Spares taken.2) := by
  intro taken
  have look_spares
      (look : ∀ command, Api.commandOf agent.exports request = .ok command → command.isLook) :
      agent.Spares taken.2 := by
    obtain ⟨response, handled⟩ := Api.handle_of_isLook agent request look
    have ended : taken.2 = Api.counted agent request response.status :=
      congrArg Prod.snd (takeStep_of_answered delivered [] handled)
    rw [ended]
    exact Api.spares_counted agent request response.status
  have fetched_spares (fetched : request.method ∈ ["GET", "HEAD"]) : agent.Spares taken.2 :=
    look_spares fun _ accepted => Api.isLook_of_fetched fetched accepted
  rcases handled : Api.handle agent request with ⟨outcome, next⟩
  cases outcome with
  | answered response =>
    have ended : taken = _ := takeStep_of_answered delivered [] handled
    refine ⟨response, by rw [ended, Trace.answer], fun refused => ⟨?_, rfl⟩, fetched_spares⟩
    exact look_spares fun _ accepted => Api.isLook_of_handle_refused handled refused accepted
  | requesting service =>
    -- The report is answered with success, so it is not refused.
    refine ⟨(Api.resume next request service delivered).1, ?_, fun refused => ?_, fetched_spares⟩
    · simp only [taken, takeStep, Agent.begin, handled, takeSteps, Agent.finish, Trace.answer]
    · rw [Api.status_resume] at refused
      exact absurd refused (by decide)

/-- An operator asks for a standing that there is none of. -/
def badOverride : Request :=
  ⟨"PUT", "/proxies/lobby-1/state", some "application/json",
    Utf8.encode (Json.object [("state", .string "ASLEEP")]).render⟩

theorem refused_spares_at_badOverride :
    let agent := (Agent.start "Proxy" 10).overrideWith "lobby-1" .draining none
    let taken := takeStep agent (.mk (.request badOverride) true [])
    ∃ response, taken.1.answer = .response response ∧ response.status = 400 ∧
      agent.Spares taken.2 := by
  obtain ⟨response, answered, refused, -⟩ := refused_spares
    ((Agent.start "Proxy" 10).overrideWith "lobby-1" .draining none) badOverride true
  have told : (takeStep ((Agent.start "Proxy" 10).overrideWith "lobby-1" .draining none)
      (.mk (.request badOverride) true [])).1.answer =
        .response (Api.Refusal.badStanding "ASLEEP").response := by decide +kernel
  obtain rfl := Answer.response.inj (answered.symm.trans told)
  exact ⟨_, answered, rfl, (refused (Nat.le_refl 400)).1⟩

end Session

end Quiesce
