/-
# The counts account for every outcome

Whatever a session does, nested or not, as events or over HTTP, its counts at the end are
those of its exchanges. An exchange counts when it is answered, so a report whose request for
a stop is in flight counts after all that is done meanwhile, and the series come in the order
of the exchanges. `begin_accounts` and `finish_accounts` say what one operation counts, and
`outcomes_accounted` adds up what a session does.
-/

import Quiesce.Proofs.Api.Views
import Quiesce.Proofs.Session.Outcomes

namespace Quiesce

open Http (Request Response)
open Api (Command shown counted)

/-! ## Answers -/

/-- Responses tell progress apart by its label. -/
private theorem Api.progressResponse_eq_iff {progress other : Progress} :
    progressResponse progress = progressResponse other ↔ progress.label = other.label := by
  let labels := ["not_draining", "occupied", "already_claimed", "stopped", "stop_failed"]
  have apart : ∀ label ∈ labels, ∀ other ∈ labels,
      Response.json 200 (.object [("drain", .string label)]) =
        .json 200 (.object [("drain", .string other)]) → label = other := by decide
  have known (progress : Progress) : progress.label ∈ labels := by
    cases progress <;> simp [labels, Progress.label]
  refine ⟨apart _ (known progress) _ (known other), fun same => ?_⟩
  rw [progressResponse, progressResponse, same]

/-- An answer that tells progress tells of a request for a stop by the label alone. -/
private theorem Answer.tells_iff {answer : Answer} {progress other : Progress}
    (told : answer.Tells progress) (final : other = .stopped ∨ other = .stopFailed) :
    answer.Tells other ↔ progress.label = other.label := by
  obtain rfl | rfl := told
  · have same : progress = other ↔ progress.label = other.label := by
      obtain rfl | rfl := final <;> cases progress <;> simp [Progress.label]
    simpa [Tells] using same
  · simp [Tells, Api.progressResponse_eq_iff]

/-! ## What an agent counts -/

/-- An agent has counted some series, one after another, and has requested some stops. -/
structure Agent.Counts (agent : Agent) (raised : List Series) (stopped : List String)
    (next : Agent) : Prop where
  group : next.group = agent.group
  exporter : next.exporter = agent.exporter
  tally : next.tally = raised.foldl .bump agent.tally
  stops : next.stops = agent.stops ++ stopped

namespace Agent

theorem Counts.refl (agent : Agent) : agent.Counts [] [] agent :=
  ⟨rfl, rfl, rfl, (List.append_nil _).symm⟩

theorem Counts.trans {agent next last : Agent} {raised later : List Series}
    {stopped more : List String} (first : agent.Counts raised stopped next)
    (second : next.Counts later more last) :
    agent.Counts (raised ++ later) (stopped ++ more) last where
  group := second.group.trans first.group
  exporter := second.exporter.trans first.exporter
  tally := by rw [second.tally, first.tally, List.foldl_append]
  stops := by rw [second.stops, first.stops, List.append_assoc]

section

variable (agent : Agent)

/-- A change of the roster alone counts nothing. -/
private theorem withRoster_counts (roster : Roster) :
    agent.Counts [] [] (agent.withRoster roster) :=
  ⟨rfl, rfl, rfl, (List.append_nil _).symm⟩

private theorem counting_counts (series : Series) :
    agent.Counts [series] [] (agent.counting series) :=
  ⟨rfl, rfl, rfl, (List.append_nil _).symm⟩

private theorem judge_counts (transition : Transition) :
    agent.Counts
      (if transition.inGroup agent.group then [.decisions (agent.judge transition).1] else [])
      [] (agent.judge transition).2 := by
  by_cases inGroup : transition.inGroup agent.group
  · have judged : agent.judge transition = ((agent.roster.judge agent.group transition).1,
        (agent.withRoster _).counting (.decisions (agent.roster.judge agent.group transition).1)) :=
      if_pos inGroup
    rw [if_pos inGroup, judged]
    exact (agent.withRoster_counts _).trans (counting_counts _ _)
  · have judged : agent.judge transition = ((agent.roster.judge agent.group transition).1,
        agent.withRoster _) := if_neg inGroup
    rw [if_neg inGroup, judged]
    exact agent.withRoster_counts _

private theorem receive_counts (report : Report) :
    agent.Counts [] [] (agent.receive report).2 :=
  agent.withRoster_counts _

/-- The capacity that a report gives counts nothing. -/
private theorem of_noteCapacity (report : Report) {raised : List Series} {stopped : List String}
    {next : Agent} (counts : (agent.noteCapacity report).Counts raised stopped next) :
    agent.Counts raised stopped next :=
  (agent.withRoster_counts (agent.roster.noteCapacity report)).trans counts

private theorem settle_counts (service : String) (delivered : Bool) :
    agent.Counts [.stopRequests delivered] [service] (agent.settle service delivered).2 :=
  ⟨rfl, rfl, rfl, rfl⟩

private theorem overrideWith_counts (name : String) (standing : Standing)
    (capacity : Option UInt32) :
    agent.Counts [.overrides standing] [] (agent.overrideWith name standing capacity) :=
  (agent.withRoster_counts _).trans (counting_counts _ _)

private theorem counted_counts (request : Request) (status : Nat) :
    agent.Counts
      [.requests request.method (Api.patternOf agent.exports request) status,
        .latencies request.method (Api.patternOf agent.exports request) status] []
      (counted agent request status) :=
  (agent.counting_counts _).trans (counting_counts _ _)

end

/-- A report that is settled without a request for a stop is not answered as one with it. -/
private theorem label_of_receive_settled {agent next : Agent} {report : Report}
    {progress : Progress} (settled : agent.receive report = (.settled progress, next)) :
    progress.label ≠ Progress.stopped.label ∧ progress.label ≠ Progress.stopFailed.label := by
  have settled : (agent.roster.receive report).1 = .settled progress := congrArg Prod.fst settled
  rw [Roster.receive, Roster.sight] at settled
  by_cases awaits : agent.roster.awaitsStop report.service
  case neg =>
    simp only [awaits] at settled
    obtain rfl := Attempt.settled.inj settled
    decide
  by_cases vacant : report.occupancy = 0
  case neg =>
    simp only [awaits, vacant] at settled
    obtain rfl := Attempt.settled.inj settled
    simp [Progress.label]
  simp only [awaits, vacant, Roster.claimStop] at settled
  rcases claim : agent.roster.takeClaim report.service with ⟨taken | taken, next⟩
  · simp only [claim] at settled
    obtain rfl := Attempt.settled.inj settled
    decide
  · simp [claim] at settled

end Agent

/-! ## Commands -/

/-- A command that came to one agent is carried out by what has become of it: what is counted,
the verdict and the requested stops are those that the answer tells. -/
structure Api.Command.Carried (command : Command) (before agent : Agent) (answer : Answer)
    (stopped : List String) (next : Agent) : Prop where
  group : before.group = agent.group
  counts : agent.Counts (Exchange.commandSeries before answer command) stopped next
  verdict :
    match command with
    | .judge transition => answer.Gives (before.judge transition).1
    | _ => True
  stopped : stopped.length =
    match command with
    | .receive _ =>
      (if answer.Tells .stopped then 1 else 0) + if answer.Tells .stopFailed then 1 else 0
    | _ => 0

namespace Api.Command.Carried

variable {before agent next : Agent} {answer : Answer} {report : Report} {progress : Progress}

private theorem judge (agent : Agent) {transition : Transition}
    (gives : answer.Gives (agent.judge transition).1) :
    Carried (.judge transition) agent agent answer [] (agent.judge transition).2 where
  group := rfl
  counts := agent.judge_counts transition
  verdict := gives
  stopped := rfl

/-- A report that is settled without a request for a stop counts nothing. -/
private theorem receive (settled : agent.receive report = (.settled progress, next))
    (group : before.group = agent.group) (told : answer.Tells progress) :
    Carried (.receive report) before agent answer [] next := by
  obtain ⟨notStopped, notFailed⟩ := Agent.label_of_receive_settled settled
  have stopped : ¬ answer.Tells .stopped := by rwa [Answer.tells_iff told (.inl rfl)]
  have failed : ¬ answer.Tells .stopFailed := by rwa [Answer.tells_iff told (.inr rfl)]
  refine ⟨group, ?_, trivial, by simp [stopped, failed]⟩
  have counts := agent.receive_counts report
  rw [settled] at counts
  simpa [Exchange.commandSeries, stopped, failed] using counts

/-- A request for a stop counts as what it is answered. -/
private theorem settle (service : String) (delivered : Bool) (group : before.group = agent.group)
    (told : answer.Tells (agent.settle service delivered).1) :
    Carried (.receive report) before agent answer [service]
      (agent.settle service delivered).2 := by
  have counts := agent.settle_counts service delivered
  cases delivered with
  | true =>
    have told : answer.Tells .stopped := told
    have notFailed : ¬ answer.Tells .stopFailed := by
      rw [Answer.tells_iff told (.inr rfl)]
      decide
    exact ⟨group, by simpa [Exchange.commandSeries, told, notFailed] using counts, trivial,
      by simp [told, notFailed]⟩
  | false =>
    have told : answer.Tells .stopFailed := told
    have notStopped : ¬ answer.Tells .stopped := by
      rw [Answer.tells_iff told (.inl rfl)]
      decide
    exact ⟨group, by simpa [Exchange.commandSeries, told, notStopped] using counts, trivial,
      by simp [told, notStopped]⟩

/-- A command that is answered at once is carried out. -/
private theorem perform {request : Request} {command : Command} {response : Response}
    (accepted : commandOf agent.exports request = .ok command)
    (performed : Api.perform agent command = (.answered response, next)) :
    command.Carried agent agent (.response (shown request response)) [] next := by
  cases command with
  | greet | list | «show» | showCounts =>
    obtain ⟨-, rfl⟩ := Prod.mk.inj performed
    exact ⟨rfl, .refl _, trivial, rfl⟩
  | judge transition =>
    obtain ⟨answered, rfl⟩ := Prod.mk.inj performed
    obtain rfl := Outcome.answered.inj answered
    rw [shown_of_change accepted rfl]
    exact judge agent (.inr rfl)
  | forget service =>
    obtain ⟨-, rfl⟩ := Prod.mk.inj performed
    exact ⟨rfl, agent.withRoster_counts _, trivial, rfl⟩
  | override name standing capacity =>
    obtain ⟨-, rfl⟩ := Prod.mk.inj performed
    exact ⟨rfl, agent.overrideWith_counts name standing capacity, trivial, rfl⟩
  | receive report =>
    rw [Api.perform] at performed
    rcases received : (agent.noteCapacity report).receive report with ⟨progress | service, after⟩
    · rw [received] at performed
      obtain ⟨answered, rfl⟩ := Prod.mk.inj performed
      obtain rfl := Outcome.answered.inj answered
      rw [shown_of_change accepted rfl]
      -- The capacity that the report gives is noted before the report is taken in.
      have carried : Carried (.receive report) agent (agent.noteCapacity report) _ [] after :=
        receive received rfl (.inr rfl)
      exact ⟨rfl, agent.of_noteCapacity report carried.counts, trivial, carried.stopped⟩
    · rw [received] at performed
      cases (Prod.mk.inj performed).1

end Api.Command.Carried

/-! ## Exchanges -/

/-- What is so for every exchange with an agent of a group that shows its counts so. -/
structure Exchange.Fits (exchange : Exchange) (group : String)
    (exporter : Option (Tally → String)) : Prop where
  group : exchange.before.group = group
  exporter : exchange.before.exporter = exporter
  /-- The verdict on a transition is what the answer gives. -/
  verdict : ∀ verdict ∈ exchange.verdict?, exchange.answer.Gives verdict
  stops : exchange.SettlesStops
  responds : exchange.Responds

/-- One agent has become another by exchanges, and has counted them and nothing else. -/
structure Agent.Accounts (agent : Agent) (exchanges : List Exchange) (next : Agent) : Prop where
  counts : agent.Counts (exchanges.flatMap Exchange.series) (exchanges.flatMap Exchange.issued) next
  fits : ∀ exchange ∈ exchanges, exchange.Fits agent.group agent.exporter

namespace Agent.Accounts

variable {agent next last : Agent} {first later : List Exchange} {exchange : Exchange}

theorem nothing (agent : Agent) : agent.Accounts [] agent :=
  ⟨.refl agent, by simp⟩

theorem append (before : agent.Accounts first next) (after : next.Accounts later last) :
    agent.Accounts (first ++ later) last where
  counts := by
    rw [List.flatMap_append, List.flatMap_append]
    exact before.counts.trans after.counts
  fits exchange among := by
    rcases List.mem_append.mp among with among | among
    · exact before.fits exchange among
    · exact before.counts.group ▸ before.counts.exporter ▸ after.fits exchange among

private theorem single (counts : agent.Counts exchange.series exchange.issued next)
    (fits : exchange.Fits agent.group agent.exporter) : agent.Accounts [exchange] next :=
  ⟨by simpa using counts, by simpa using fits⟩

/-- An exchange about a command that is carried out, and that is counted as a request besides
if it came in one. -/
private theorem of_command {command : Command} (noSighting : exchange.sighting? = none)
    (noError : exchange.isPollError = false) (asks : exchange.command? = some command)
    (exporter : exchange.before.exporter = agent.exporter)
    (carried : command.Carried exchange.before agent exchange.answer exchange.issued next)
    (requested : next.Counts exchange.requestSeries [] last)
    (responds : exchange.Responds) :
    agent.Accounts [exchange] last := by
  have outcomes := exchange.outcomes_of_noPoll noSighting noError
  rw [asks] at outcomes
  refine single ?_ ⟨carried.group, exporter, ?_, ?_, responds⟩
  · have counts := carried.counts.trans requested
    rw [Exchange.series, outcomes]
    simpa using counts
  · intro verdict given
    rw [Exchange.verdict?, asks] at given
    cases command with
    | judge transition =>
      obtain ⟨-, same⟩ := Option.ite_none_right_eq_some.mp given
      obtain rfl := Option.some.inj same
      exact carried.verdict
    | _ => cases given
  · rw [Exchange.SettlesStops, carried.stopped]
    cases command <;> simp [Exchange.reports, asks]

/-- An exchange without a command comes to no verdict and settles no stop. -/
private theorem of_no_command (asks : exchange.command? = none) (issued : exchange.issued = [])
    (before : exchange.before = agent) (counts : agent.Counts exchange.series [] next)
    (responds : exchange.Responds) : agent.Accounts [exchange] next := by
  refine single ?_ ⟨congrArg Agent.group before, congrArg Agent.exporter before, ?_, ?_,
    responds⟩
  · rwa [issued]
  · simp [Exchange.verdict?, asks]
  · simp [Exchange.SettlesStops, issued, Exchange.reports, asks]

/-- It comes to no outcome at all, unless it is a connection of the load balancer. -/
private theorem of_no_outcome (noSighting : exchange.sighting? = none)
    (noError : exchange.isPollError = false) (asks : exchange.command? = none)
    (issued : exchange.issued = []) (before : exchange.before = agent)
    (requested : agent.Counts exchange.requestSeries [] next)
    (responds : exchange.Responds) : agent.Accounts [exchange] next := by
  have outcomes := exchange.outcomes_of_noPoll noSighting noError
  rw [asks] at outcomes
  refine of_no_command asks issued before ?_ responds
  rwa [Exchange.series, outcomes]

end Agent.Accounts

/-! ## Operations -/

namespace Agent

variable {agent next between : Agent} {operation : Operation} {answer : Answer}
  {pending : Pending}

private theorem issued_of_answered (begun : agent.begin operation = (.answered answer, next)) :
    Exchange.issued ⟨agent, operation, answer⟩ = [] := by
  rw [Exchange.issued, begun]
  rfl

/-- A request to the API counts itself, with the final status. -/
private theorem counted_accounts {before : Agent} (agent : Agent)
    (exporter : before.exporter = agent.exporter) (request : Request) (response : Response) :
    agent.Counts
      (Exchange.requestSeries ⟨before, .request request, .response (shown request response)⟩) []
      (counted agent request response.status) := by
  have exports : before.exports = agent.exports := congrArg Option.isSome exporter
  rw [← Api.status_shown request response]
  simp only [Exchange.requestSeries, Exchange.labels?, exports]
  exact agent.counted_counts request _

/-- A request to the API that is answered at once counts itself after its command. -/
private theorem request_accounts {request : Request}
    (begun : agent.begin (.request request) = (.answered answer, next)) :
    agent.Accounts [⟨agent, .request request, answer⟩] next := by
  have issued := issued_of_answered begun
  simp only [begin, Api.handle] at begun
  cases accepted : Api.commandOf agent.exports request with
  | error refusal =>
    have asks : agent.command? (.request request) = none := congrArg Except.toOption accepted
    simp only [accepted, Api.complete_eq] at begun
    obtain ⟨⟨⟩, rfl⟩ := begun
    exact .of_no_outcome rfl rfl asks issued rfl (counted_accounts agent rfl request _) ⟨_, rfl⟩
  | ok command =>
    have asks : agent.command? (.request request) = some command :=
      congrArg Except.toOption accepted
    rcases performed : Api.perform agent command with ⟨response | service, after⟩
    · simp only [accepted, performed, Api.complete_eq] at begun
      obtain ⟨⟨⟩, rfl⟩ := begun
      have carried : command.Carried agent agent _ [] after := .perform accepted performed
      refine .of_command rfl rfl asks rfl ?_
        (counted_accounts after carried.counts.exporter.symm request response) ⟨_, rfl⟩
      rw [issued]
      exact carried
    · simp [accepted, performed] at begun

/-- An event that fits its type comes to its command. -/
private theorem judge_accounts {event : Json}
    (begun : agent.begin (.judge event) = (.answered answer, next)) :
    agent.Accounts [⟨agent, .judge event, answer⟩] next := by
  have issued := issued_of_answered begun
  simp only [begin] at begun
  cases read : Transition.ofDraft .loaded (.ofJson event) with
  | error fault =>
    have asks : agent.command? (.judge event) = none :=
      congrArg (·.toOption.map Command.judge) read
    simp only [read] at begun
    obtain ⟨⟨⟩, rfl⟩ := begun
    exact .of_no_outcome rfl rfl asks issued rfl (.refl _) trivial
  | ok transition =>
    have asks : agent.command? (.judge event) = some (.judge transition) :=
      congrArg (·.toOption.map Command.judge) read
    simp only [read] at begun
    obtain ⟨⟨⟩, rfl⟩ := begun
    refine .of_command rfl rfl asks rfl ?_ (.refl _) trivial
    rw [issued]
    exact .judge agent (.inl rfl)

private theorem receive_accounts {event : Json}
    (begun : agent.begin (.receive event) = (.answered answer, next)) :
    agent.Accounts [⟨agent, .receive event, answer⟩] next := by
  have issued := issued_of_answered begun
  simp only [begin] at begun
  cases read : Report.ofDraft .loaded (.ofJson event) with
  | error fault =>
    have asks : agent.command? (.receive event) = none :=
      congrArg (·.toOption.map Command.receive) read
    simp only [read] at begun
    obtain ⟨⟨⟩, rfl⟩ := begun
    exact .of_no_outcome rfl rfl asks issued rfl (.refl _) trivial
  | ok report =>
    have asks : agent.command? (.receive event) = some (.receive report) :=
      congrArg (·.toOption.map Command.receive) read
    rcases received : agent.receive report with ⟨progress | service, after⟩
    · simp only [read, received] at begun
      obtain ⟨⟨⟩, rfl⟩ := begun
      refine .of_command rfl rfl asks rfl ?_ (.refl _) trivial
      rw [issued]
      exact .receive received rfl (.inl rfl)
    · simp [read, received] at begun

/-- A poll counts what it finds, and one that fails counts as an error. -/
private theorem poll_accounts {payload : Option (List UInt8)} {written : Bool}
    (begun : agent.begin (.poll payload written) = (.answered answer, next)) :
    agent.Accounts [⟨agent, .poll payload written, answer⟩] next := by
  refine .of_no_command rfl (issued_of_answered begun) rfl ?_ trivial
  cases payload <;> cases written <;> obtain ⟨-, rfl⟩ := Prod.mk.inj begun <;>
    exact ⟨rfl, rfl, rfl, (List.append_nil _).symm⟩

/-- An operation that is answered at once is counted with its outcome. -/
theorem begin_accounts (begun : agent.begin operation = (.answered answer, next)) :
    agent.Accounts [⟨agent, operation, answer⟩] next := by
  have issued := issued_of_answered begun
  cases operation with
  | request request => exact request_accounts begun
  | poll payload written => exact poll_accounts begun
  | missConnection =>
    obtain ⟨-, rfl⟩ := Prod.mk.inj begun
    exact .of_no_command rfl issued rfl ⟨rfl, rfl, rfl, (List.append_nil _).symm⟩ trivial
  | judge event => exact judge_accounts begun
  | receive event => exact receive_accounts begun
  | forget service =>
    obtain ⟨-, rfl⟩ := Prod.mk.inj begun
    refine .of_command rfl rfl rfl rfl ?_ (.refl _) trivial
    rw [issued]
    exact ⟨rfl, agent.withRoster_counts _, trivial, rfl⟩
  | assign name word =>
    simp only [begin] at begun
    split at begun <;> obtain ⟨-, rfl⟩ := Prod.mk.inj begun <;>
      exact .of_no_outcome rfl rfl rfl issued rfl (agent.withRoster_counts _) trivial
  | overwrite name word capacity =>
    simp only [begin] at begun
    split at begun <;> obtain ⟨-, rfl⟩ := Prod.mk.inj begun <;>
      exact .of_no_outcome rfl rfl rfl issued rfl (agent.withRoster_counts _) trivial
  | noteCapacity event =>
    simp only [begin] at begun
    split at begun <;> obtain ⟨-, rfl⟩ := Prod.mk.inj begun
    · exact .of_no_outcome rfl rfl rfl issued rfl (.refl _) trivial
    · exact .of_no_outcome rfl rfl rfl issued rfl (agent.withRoster_counts _) trivial
  | _ =>
    obtain ⟨-, rfl⟩ := Prod.mk.inj begun
    exact .of_no_outcome rfl rfl rfl issued rfl ⟨rfl, rfl, rfl, (List.append_nil _).symm⟩ trivial

/-- An operation that waits counts nothing yet. It is a report, as an event or in a request. -/
private theorem report_of_waiting (begun : agent.begin operation = (.waiting pending, next)) :
    agent.Counts [] [] next ∧
      match pending with
      | .report _ => ∃ event report,
        operation = .receive event ∧ agent.command? operation = some (.receive report)
      | .request request _ => ∃ report,
        operation = .request request ∧
          Api.commandOf agent.exports request = .ok (.receive report) := by
  cases operation with
  | receive event =>
    simp only [begin] at begun
    cases read : Report.ofDraft .loaded (.ofJson event) with
    | error fault => simp [read] at begun
    | ok report =>
      have counts := agent.receive_counts report
      rcases received : agent.receive report with ⟨progress | service, after⟩
      · simp [read, received] at begun
      · rw [received] at counts
        simp only [read, received] at begun
        obtain ⟨⟨⟩, rfl⟩ := begun
        exact ⟨counts, event, report, rfl, congrArg (·.toOption.map Command.receive) read⟩
  | request request =>
    simp only [begin, Api.handle] at begun
    cases accepted : Api.commandOf agent.exports request with
    | error refusal => simp [accepted] at begun
    | ok command =>
      rcases performed : Api.perform agent command with ⟨response | service, after⟩
      · simp [accepted, performed] at begun
      · simp only [accepted, performed] at begun
        obtain ⟨⟨⟩, rfl⟩ := begun
        cases command with
        | receive report =>
          refine ⟨agent.of_noteCapacity report ?_, report, rfl, accepted⟩
          have counts := (agent.noteCapacity report).receive_counts report
          rw [Api.perform] at performed
          rcases received : (agent.noteCapacity report).receive report with ⟨_ | _, left⟩
          · simp [received] at performed
          · simp only [received] at performed
            rw [received] at counts
            obtain ⟨-, rfl⟩ := Prod.mk.inj performed
            exact counts
        | _ => cases (Prod.mk.inj performed).1
  | assign | overwrite | noteCapacity | judge =>
    simp only [begin] at begun
    split at begun <;> cases (Prod.mk.inj begun).1
  | _ => cases (Prod.mk.inj begun).1

/-- The answer to a request for a stop is counted as the outcome of what waited for it. -/
theorem finish_accounts (begun : agent.begin operation = (.waiting pending, next))
    (group : agent.group = between.group) (exporter : agent.exporter = between.exporter)
    (delivered : Bool) :
    between.Accounts [⟨agent, operation, (between.finish pending delivered).1⟩]
      (between.finish pending delivered).2 := by
  obtain ⟨-, came⟩ := report_of_waiting begun
  cases pending with
  | report service =>
    obtain ⟨event, report, rfl, asks⟩ := came
    refine .of_command rfl rfl asks exporter ?_ (.refl _) trivial
    rw [Exchange.issued, begun]
    exact .settle service delivered group (.inl rfl)
  | request request service =>
    obtain ⟨report, rfl, accepted⟩ := came
    have asks : agent.command? (.request request) = some (.receive report) :=
      congrArg Except.toOption accepted
    simp only [finish, Api.resume, Api.complete_eq]
    have requested (response : Response) :=
      counted_accounts (between.settle service delivered).2 exporter request response
    refine .of_command rfl rfl asks exporter ?_ (requested _) ⟨_, rfl⟩
    rw [Exchange.issued, begun, Api.shown_of_change accepted rfl]
    exact .settle service delivered group (.inr rfl)

end Agent

/-- What each operation counts, whole sessions count. -/
private theorem accounts_stepwise : Session.Stepwise Agent.Accounts where
  nothing := .nothing
  append := .append
  answered := Agent.begin_accounts
  waited delivered begun inner := by
    -- What waits has counted nothing when the steps during it begin, and counts after them.
    obtain ⟨begins, -⟩ := Agent.report_of_waiting begun
    have waiting : Agent.Accounts _ [] _ := ⟨begins, by simp⟩
    have meanwhile := waiting.append inner
    exact meanwhile.append (Agent.finish_accounts begun meanwhile.counts.group.symm
      meanwhile.counts.exporter.symm delivered)

namespace Session

/-- The counts at the end of a session account for all that was done in it, whatever the steps
and whatever was done while requests for stops were in flight. Whoever fetches the counts then
is shown them, if the API shows them at all. -/
theorem outcomes_accounted (group : String) (defaultCapacity : UInt32)
    (exporter : Option (Tally → String)) (steps : List Step) :
    let start := Agent.start group defaultCapacity exporter
    let taken := takeSteps start steps
    let exchanges := exchanges start steps
    exchanges.map Exchange.told = toldBy steps taken.1 ∧
    (∀ exchange ∈ exchanges, exchange.Fits group exporter) ∧
    taken.2.stops = exchanges.flatMap Exchange.issued ∧
    taken.2.tally.AccountsFor exchanges ∧
    ∀ write, exporter = some write → ∀ request : Request, request.Fetches .counts →
      (Api.handle taken.2 request).1 = .answered (.plain 200 (write taken.2.tally)) := by
  intro start taken exchanges
  have accounts : start.Accounts exchanges taken.2 := accounts_stepwise.exchanges start steps
  refine ⟨exchanges_told start steps, accounts.fits, accounts.counts.stops, ?_, ?_⟩
  · rw [accounts.counts.tally]
    exact Tally.accountsFor_foldl fun exchange among => (accounts.fits exchange among).stops
  · intro write exported request fetches
    have exporter := accounts.counts.exporter.trans exported
    exact congrArg Prod.fst (Api.handle_of_fetches_counts exporter fetches)

/-- Not every override is counted, and not every connection once. A standing that is set on the
roster directly counts as no override. A poll whose answer cannot be written counts twice, and a
connection that could not be taken counts without being one. -/
theorem outcomes_miscounted :
    let start := Agent.start "Proxy" 10
    let assigned := [Step.mk (.assign "lobby-1" "drain") true []]
    let unwritten := [Step.mk (.poll (some (Utf8.encode "lobby-1")) false) true []]
    let missed := [Step.mk .missConnection true []]
    (takeSteps start assigned).2.tally.count (.overrides .draining) ≠
        (exchanges start assigned).countP (·.standingSet? = some .draining) ∧
      (takeSteps start unwritten).2.tally.polls +
          (takeSteps start unwritten).2.tally.count .pollErrors ≠
        (exchanges start unwritten).countP (·.isPoll) ∧
      (takeSteps start missed).2.tally.polls + (takeSteps start missed).2.tally.count .pollErrors ≠
        (exchanges start missed).countP (·.isPoll) := by
  decide +kernel

/-- The occupied lobby is drained, and the load balancer polls it while the request for its
stop, which will fail, is in flight. -/
example :
    let event := Transition.toJson ⟨"lobby-1", ["Proxy"], .running, .stopped, 3⟩
    let stop := Step.mk (.judge event) true []
    let poll := Step.mk (.poll (some (Utf8.encode "lobby-1"))) true []
    let report := Step.mk (.receive (Report.toJson ⟨"lobby-1", 0, none⟩)) false [poll]
    (takeSteps (.start "Proxy" 10) [stop, report]).2.tally.counts =
      [(.decisions .veto, 1), (.polls (some .draining), 1), (.stopRequests false, 1)] := by
  decide +kernel

/-- The counts are fetched from an agent that shows them, and from one that does not. -/
example :
    let fetch := Step.mk (.request ⟨"GET", "/metrics", none, []⟩) true []
    let counts (exporter : Option (Tally → String)) :=
      (takeSteps (.start "Proxy" 10 exporter) [fetch]).2.tally.counts
    counts (some Tally.text) =
        [(.requests "GET" "/metrics" 200, 1), (.latencies "GET" "/metrics" 200, 1)] ∧
      counts none =
        [(.requests "GET" "unmatched" 404, 1), (.latencies "GET" "unmatched" 404, 1)] := by
  decide +kernel

end Session

end Quiesce
