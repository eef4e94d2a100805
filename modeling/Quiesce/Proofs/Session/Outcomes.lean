/-
# Outcomes and the series that count them

An exchange of a session comes to an outcome: a verdict on a transition of a proxy, a stop
that was or could not be requested, an override, what a poll found. Most come to none: a
refused request, a malformed event, a transition of another service, a report that requests
no stop. One series counts the outcome, or two when the answer to a poll cannot be written,
and two more count a request to the API. `Tally.AccountsFor` says what it means that the
counts of a tally are the numbers of exchanges; adding up the series of the exchanges gives
such a tally.
-/

import Quiesce.Proofs.Session.Exchanges

namespace Quiesce

open Api (Command)

/-- The command that an operation comes to, as an event or in a request. -/
def Agent.command? (agent : Agent) : Operation → Option Command
  | .judge event => (Transition.ofDraft .loaded (.ofJson event)).toOption.map .judge
  | .receive event => (Report.ofDraft .loaded (.ofJson event)).toOption.map .receive
  | .forget service => some (.forget service)
  | .request incoming => (Api.commandOf agent.exports incoming).toOption
  | _ => none

namespace Answer

/-- An answer gives a verdict, or a response does. -/
def Gives (answer : Answer) (verdict : Verdict) : Prop :=
  answer = .verdict verdict ∨
    answer = .response (.json 200 (.object [("veto", .boolean verdict.vetoed)]))

/-- An answer tells progress, or a response does. -/
def Tells (answer : Answer) (progress : Progress) : Prop :=
  answer = .progress progress ∨ answer = .response (Api.progressResponse progress)

instance (answer : Answer) (progress : Progress) : Decidable (answer.Tells progress) :=
  inferInstanceAs (Decidable (_ ∨ _))

end Answer

namespace Exchange

variable (exchange : Exchange)

/-! ## Outcomes -/

/-- The command that the operation comes to. -/
def command? : Option Command :=
  exchange.before.command? exchange.operation

/-- The verdict on a transition of a proxy. -/
def verdict? : Option Verdict :=
  match exchange.command? with
  | some (.judge transition) =>
    if transition.inGroup exchange.before.group then some (exchange.before.judge transition).1
    else none
  | _ => none

/-- Whether a report was answered with such progress. -/
def reports (progress : Progress) : Bool :=
  match exchange.command? with
  | some (.receive _) => exchange.answer.Tells progress
  | _ => false

/-- The standing that an override sets which was requested and accepted. -/
def override? : Option Standing :=
  match exchange.command? with
  | some (.override _ standing _) => some standing
  | _ => none

/-- The standing that an override sets, be it requested or made on the roster directly. -/
def standingSet? : Option Standing :=
  match exchange.operation with
  | .assign _ word | .overwrite _ word _ => Standing.ofWord? word
  | _ => exchange.override?

/-- Every stop that the operation requests is answered, once, as one that was or could not be
requested. -/
def SettlesStops : Prop :=
  exchange.issued.length =
    (if exchange.reports .stopped then 1 else 0) + if exchange.reports .stopFailed then 1 else 0

/-- A request to the API is answered with a response. -/
def Responds : Prop :=
  match exchange.operation with
  | .request _ => ∃ response, exchange.answer = .response response
  | _ => True

/-- What a poll finds that sends a name: a standing, or none of an unknown proxy. -/
def sighting? : Option (Option Standing) :=
  match exchange.operation with
  | .poll (some payload) _ =>
    some ((exchange.before.roster.find? (Poll.nameOf payload)).map (·.standing))
  | _ => none

/-- Whether the load balancer polled, with or without an answer. -/
def isPoll : Bool :=
  match exchange.operation with
  | .poll _ _ => true
  | _ => false

/-- Whether a poll sent a name and its answer could not be written. -/
def isUnwritten : Bool :=
  match exchange.operation with
  | .poll (some _) written => !written
  | _ => false

/-- Whether a connection of the load balancer could not be taken. -/
def isMissed : Bool :=
  match exchange.operation with
  | .missConnection => true
  | _ => false

/-- Whether a connection failed: it could not be taken, it was given up, or the answer could
not be written. -/
def isPollError : Bool :=
  match exchange.operation with
  | .poll payload written => payload.isNone || !written
  | .missConnection => true
  | _ => false

/-- The method, the pattern and the final status of a request to the API. -/
def labels? : Option (String × String × Nat) :=
  match exchange.operation, exchange.answer with
  | .request request, .response response =>
    some (request.method, Api.patternOf exchange.before.exports request, response.status)
  | _, _ => none

end Exchange

/-- The number of polls that were counted with what they found. -/
def Tally.polls (tally : Tally) : Nat :=
  tally.count (.polls (some .up)) + tally.count (.polls (some .draining)) +
    tally.count (.polls (some .down)) + tally.count (.polls none)

/-- The counts of a tally are the numbers of exchanges that came to each outcome. -/
structure Tally.AccountsFor (tally : Tally) (exchanges : List Exchange) : Prop where
  decisions (verdict : Verdict) :
    tally.count (.decisions verdict) = exchanges.countP (·.verdict? = some verdict)
  delivered : tally.count (.stopRequests true) = exchanges.countP (·.reports .stopped)
  failed : tally.count (.stopRequests false) = exchanges.countP (·.reports .stopFailed)
  /-- Each stop that was requested counts as delivered or as failed. -/
  stopRequests : tally.count (.stopRequests true) + tally.count (.stopRequests false) =
    (exchanges.flatMap Exchange.issued).length
  overrides (standing : Standing) :
    tally.count (.overrides standing) = exchanges.countP (·.override? = some standing)
  polls (standing : Option Standing) :
    tally.count (.polls standing) = exchanges.countP (·.sighting? = some standing)
  pollErrors : tally.count .pollErrors = exchanges.countP (·.isPollError)
  /-- Each poll counts once, with what it found or as an error, and once more when its answer
  could not be written. A connection that could not be taken counts as an error alone. -/
  connections : tally.polls + tally.count .pollErrors =
    exchanges.countP (·.isPoll) + exchanges.countP (·.isUnwritten) +
      exchanges.countP (·.isMissed)
  requests (method route : String) (status : Nat) :
    tally.count (.requests method route status) =
      exchanges.countP (·.labels? = some (method, route, status))
  latencies (method route : String) (status : Nat) :
    tally.count (.latencies method route status) = tally.count (.requests method route status)

namespace Exchange

variable (exchange : Exchange)

/-! ## Series -/

/-- The series that counts the outcome of an exchange, if one does. -/
def outcomes : List Series :=
  [exchange.verdict?.map .decisions,
    if exchange.reports .stopped then some (.stopRequests true) else none,
    if exchange.reports .stopFailed then some (.stopRequests false) else none,
    exchange.override?.map .overrides,
    exchange.sighting?.map .polls,
    if exchange.isPollError then some .pollErrors else none].filterMap id

/-- The series that count a request to the API. -/
def requestSeries : List Series :=
  [exchange.labels?.map fun (method, route, status) => .requests method route status,
    exchange.labels?.map fun (method, route, status) => .latencies method route status].filterMap id

/-- All series that count an exchange. -/
def series : List Series :=
  exchange.outcomes ++ exchange.requestSeries

/-- What a command counts that is carried out and answered. -/
def commandSeries (agent : Agent) (answer : Answer) : Command → List Series
  | .judge transition =>
    if transition.inGroup agent.group then [.decisions (agent.judge transition).1] else []
  | .receive _ =>
    (if answer.Tells .stopped then [.stopRequests true] else []) ++
      if answer.Tells .stopFailed then [.stopRequests false] else []
  | .override _ standing _ => [.overrides standing]
  | _ => []

/-- Whether a series counts an exchange. -/
def isCountedBy : Series → Bool
  | .decisions verdict => exchange.verdict? = some verdict
  | .stopRequests delivered => exchange.reports (if delivered then .stopped else .stopFailed)
  | .overrides standing => exchange.override? = some standing
  | .polls standing => exchange.sighting? = some standing
  | .pollErrors => exchange.isPollError
  | .requests method route status | .latencies method route status =>
    exchange.labels? = some (method, route, status)

/-- A series that counts an exchange counts it once. -/
theorem count_series (series : Series) :
    exchange.series.count series = if exchange.isCountedBy series then 1 else 0 := by
  rw [Exchange.series, List.count_append, outcomes, requestSeries]
  rw [List.count_filterMap, List.count_filterMap]
  cases series with
  | stopRequests delivered => cases delivered <;> simp [List.countP_cons, isCountedBy]
  | pollErrors => cases failed : exchange.isPollError <;> simp [isCountedBy, failed]
  | requests | latencies =>
    rcases labelled : exchange.labels? with _ | ⟨method, route, status⟩ <;>
      simp [List.countP_cons, isCountedBy, labelled]
  | decisions | overrides | polls => simp [List.countP_cons, isCountedBy]

variable {exchange}

/-- What is no connection of the load balancer comes to the outcome of its command. -/
theorem outcomes_of_noPoll (noSighting : exchange.sighting? = none)
    (noError : exchange.isPollError = false) :
    exchange.outcomes = match exchange.command? with
      | some command => commandSeries exchange.before exchange.answer command
      | none => [] := by
  rw [outcomes, noSighting, noError]
  cases asks : exchange.command? with
  | none =>
    simp only [verdict?, reports, override?, asks]
    rfl
  | some command =>
    cases command with
    | judge transition =>
      simp only [verdict?, reports, override?, asks, commandSeries]
      split <;> rfl
    | receive report =>
      simp only [verdict?, reports, override?, asks, commandSeries]
      by_cases stopped : exchange.answer.Tells .stopped <;>
        by_cases failed : exchange.answer.Tells .stopFailed <;>
          simp [stopped, failed]
    | greet | list | «show» | forget | override | showCounts =>
      simp only [verdict?, reports, override?, asks]
      rfl

end Exchange

/-! ## Adding up -/

namespace Tally

/-- Counting some series raises each count by how often it is among them. -/
theorem count_foldl_bump (tally : Tally) (raised : List Series) (series : Series) :
    (raised.foldl bump tally).count series = tally.count series + raised.count series := by
  induction raised generalizing tally with
  | nil => rfl
  | cons head rest ih =>
    rw [List.foldl_cons, ih, count_bump, List.count_cons]
    simp only [beq_iff_eq, eq_comm (a := head)]
    omega

end Tally

/-- A series is as often among those of some exchanges as it counts one of them. -/
theorem count_flatMap_series (exchanges : List Exchange) (series : Series) :
    (exchanges.flatMap Exchange.series).count series =
      exchanges.countP (·.isCountedBy series) := by
  induction exchanges with
  | nil => rfl
  | cons exchange rest ih =>
    rw [List.flatMap_cons, List.count_append, exchange.count_series, ih, List.countP_cons,
      Nat.add_comm]

/-- What a poll finds is one of the standings, or an unknown proxy. -/
private theorem Exchange.count_sighting (exchange : Exchange) :
    (if exchange.sighting?.isSome then 1 else 0) =
      (if exchange.sighting? = some (some .up) then 1 else 0) +
      (if exchange.sighting? = some (some .draining) then 1 else 0) +
      (if exchange.sighting? = some (some .down) then 1 else 0) +
      if exchange.sighting? = some none then 1 else 0 := by
  rcases exchange.sighting? with _ | _ | _ | _ | _ <;> rfl

/-- A connection that was taken finds something or fails, and only one whose answer could not
be written does both. -/
private theorem Exchange.count_connection (exchange : Exchange) :
    (if exchange.sighting?.isSome then 1 else 0) + (if exchange.isPollError then 1 else 0) =
      (if exchange.isPoll then 1 else 0) + (if exchange.isUnwritten then 1 else 0) +
        if exchange.isMissed then 1 else 0 := by
  obtain ⟨before, operation, answer⟩ := exchange
  cases operation with
  | poll payload written => cases payload <;> cases written <;> rfl
  | _ => rfl

private theorem countP_connections (exchanges : List Exchange) :
    exchanges.countP (·.sighting? = some (some .up)) +
        exchanges.countP (·.sighting? = some (some .draining)) +
        exchanges.countP (·.sighting? = some (some .down)) +
        exchanges.countP (·.sighting? = some none) + exchanges.countP (·.isPollError) =
      exchanges.countP (·.isPoll) + exchanges.countP (·.isUnwritten) +
        exchanges.countP (·.isMissed) := by
  induction exchanges with
  | nil => rfl
  | cons exchange rest ih =>
    have found := exchange.count_sighting
    have connected := exchange.count_connection
    simp only [List.countP_cons, decide_eq_true_eq]
    omega

/-- Requested stops are told as delivered or as failed. -/
private theorem length_issued {exchanges : List Exchange}
    (settles : ∀ exchange ∈ exchanges, exchange.SettlesStops) :
    (exchanges.flatMap Exchange.issued).length =
      exchanges.countP (·.reports .stopped) + exchanges.countP (·.reports .stopFailed) := by
  induction exchanges with
  | nil => rfl
  | cons exchange rest ih =>
    rw [List.flatMap_cons, List.length_append, settles exchange List.mem_cons_self,
      ih fun other among => settles other (List.mem_cons_of_mem _ among), List.countP_cons,
      List.countP_cons]
    omega

/-- What has counted the series of exchanges alone accounts for them. -/
theorem Tally.accountsFor_foldl {exchanges : List Exchange}
    (settles : ∀ exchange ∈ exchanges, exchange.SettlesStops) :
    ((exchanges.flatMap Exchange.series).foldl bump .empty).AccountsFor exchanges := by
  have counts (series : Series) : ((exchanges.flatMap Exchange.series).foldl bump .empty).count
      series = exchanges.countP (·.isCountedBy series) := by
    rw [count_foldl_bump, count_flatMap_series]
    exact Nat.zero_add _
  refine ⟨fun _ => counts _, counts _, counts _, ?_, fun _ => counts _, fun _ => counts _,
    counts _, ?_, fun _ _ _ => counts _, fun method route status => ?_⟩
  · rw [length_issued settles, counts, counts]
    rfl
  · rw [Tally.polls, counts, counts, counts, counts, counts]
    exact countP_connections exchanges
  · exact (counts (.latencies method route status)).trans (counts (.requests ..)).symm

end Quiesce
