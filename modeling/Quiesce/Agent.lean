/-
# The agent

The agent joins the roster with the gate, the drains and the polls, and counts
what it does. A request for a stop that is under way is not part of its state:
whoever began it settles it later, and the agent may do anything in between.
-/

import Quiesce.Drain
import Quiesce.Poll
import Quiesce.Tally

namespace Quiesce

/-- The state of the agent. -/
structure Agent where
  /-- The group whose services are proxies. -/
  group : String
  roster : Roster
  tally : Tally
  /-- The services whose stop was requested, in the order of the answers. -/
  stops : List String
  /-- Whether the socket for polls is open. -/
  listening : Bool
  /-- How the counts are written where the API shows them; none where it does not, and
  nobody is told the counts. -/
  exporter : Option (Tally → String)

namespace Agent

/-- An agent that knows no proxy. -/
def start (group : String) (defaultCapacity : UInt32)
    (exporter : Option (Tally → String) := none) : Agent :=
  ⟨group, .empty defaultCapacity, .empty, [], false, exporter⟩

variable (agent : Agent)

/-- Whether the API shows the counts. -/
def exports : Bool :=
  agent.exporter.isSome

/-- Replace the roster. -/
def withRoster (roster : Roster) : Agent :=
  { agent with roster := roster }

/-- Count a series once more. -/
def counting (series : Series) : Agent :=
  { agent with tally := agent.tally.bump series }

/-- Judge a transition. Only transitions of proxies are counted. -/
def judge (transition : Transition) : Verdict × Agent :=
  let (verdict, roster) := agent.roster.judge agent.group transition
  let agent := agent.withRoster roster
  if transition.inGroup agent.group then (verdict, agent.counting (.decisions verdict))
  else (verdict, agent)

/-- Take over the capacity that a report gives. -/
def noteCapacity (report : Report) : Agent :=
  agent.withRoster (agent.roster.noteCapacity report)

/-- Take in a report, up to the request for a stop if it leads to one. -/
def receive (report : Report) : Attempt × Agent :=
  let (attempt, roster) := agent.roster.receive report
  (attempt, agent.withRoster roster)

/-- Take in the answer to a request for a stop. -/
def settle (service : String) (delivered : Bool) : Progress × Agent :=
  let (progress, roster) := agent.roster.settle service delivered
  let agent := { agent with roster := roster, stops := agent.stops ++ [service] }
  (progress, agent.counting (.stopRequests delivered))

/-- Forget a service that was deleted. -/
def forget (service : String) : Agent :=
  agent.withRoster (agent.roster.forget service)

/-- Set the standing of a proxy, and its capacity if one is given, on behalf of
an operator. -/
def overrideWith (name : String) (standing : Standing) (capacity : Option UInt32) : Agent :=
  (agent.withRoster (agent.roster.override name standing capacity)).counting (.overrides standing)

/-- Open the socket for polls if it is not open. -/
def listen : Agent :=
  { agent with listening := true }

/-- Close the socket for polls. Tells whether it was open. -/
def stopListening : Bool × Agent :=
  (agent.listening, { agent with listening := false })

/-- Answer a poll. A peer that sends nothing, not even the end of its data, gets
no answer, and neither does one to which the answer cannot be written. What a poll
finds is counted before its answer is written, so an answer that cannot be written
counts as an error besides. -/
def poll (payload : Option (List UInt8)) (written : Bool := true) : String × Agent :=
  let agent := agent.listen
  match payload with
  | none => ("", agent.counting .pollErrors)
  | some payload =>
    let record := agent.roster.find? (Poll.nameOf payload)
    let agent := agent.counting (.polls (record.map (·.standing)))
    if written then (Poll.reply record, agent) else ("", agent.counting .pollErrors)

/-- A poll opens the socket and counts, and changes nothing else. -/
theorem exists_tally_poll (payload : Option (List UInt8)) (written : Bool) :
    ∃ tally, (agent.poll payload written).2 = { agent.listen with tally } := by
  cases payload <;> cases written <;> exact ⟨_, rfl⟩

/-- Miss a connection that the socket for polls fails to take. -/
def missConnection : Agent :=
  agent.listen.counting .pollErrors

end Agent

end Quiesce
