/-
# Sessions

A session is a list of steps taken on one agent, with what each of them
answered and what the roster held afterwards. A step that requests a stop is
under way until the request is answered, and other steps may be taken in the
meantime; such a step names them, and the answer to its own request.
-/

import Quiesce.Api

namespace Quiesce

open Json (Fault)

/-- What a step does. Standings come as words that may mean none, and events as
JSON values that may be malformed. -/
inductive Operation where
  | enrol (name : String)
  | find (name : String)
  | entry (name : String)
  | awaitsStop (name : String)
  | openDrain (name : String)
  | closeDrain (name : String)
  | concludeDrain (name : String)
  | takeClaim (name : String)
  | returnClaim (name : String)
  | noteStopped (name : String)
  | forget (name : String)
  | assign (name word : String)
  | resize (name : String) (capacity : UInt32)
  | overwrite (name word : String) (capacity : UInt32)
  | size
  | judge (event : Json)
  | receive (event : Json)
  | noteCapacity (event : Json)
  | request (request : Http.Request)
  /-- The load balancer polls; its peer may take no answer. -/
  | poll (payload : Option (List UInt8)) (written : Bool := true)
  /-- A connection of the load balancer cannot be taken. -/
  | missConnection
  | stopListening

/-- What a step answers. -/
inductive Answer where
  | nothing
  | flag (value : Bool)
  | standing (value : Option Standing)
  | record (value : Option Record)
  | entry (value : Option Entry)
  | size (value : Nat)
  | notAStanding (word : String)
  | fault (fault : Fault)
  | verdict (verdict : Verdict)
  | progress (progress : Progress)
  | response (response : Http.Response)
  | line (text : String)
  /-- Whether a socket for polls was closed. -/
  | closed (value : Bool)
  deriving DecidableEq, Repr

/-- What waits for the answer to a request for a stop. -/
inductive Pending where
  | report (service : String)
  | request (request : Http.Request) (service : String)

/-- A step is answered at once, or waits. -/
inductive Phase where
  | answered (answer : Answer)
  | waiting (pending : Pending)

namespace Agent

variable (agent : Agent)

/-- Change the roster and answer at once. -/
def changed (answer : Answer) (roster : Roster) : Phase × Agent :=
  (.answered answer, agent.withRoster roster)

/-- Change the roster and answer whether something was the case. -/
def flagged (result : Bool × Roster) : Phase × Agent :=
  agent.changed (.flag result.1) result.2

/-- The standing of a proxy, as an answer. -/
def standingAnswer (name : String) : Answer :=
  .standing ((agent.roster.find? name).map (·.standing))

/-- Begin an operation. -/
def begin (operation : Operation) : Phase × Agent :=
  let roster := agent.roster
  match operation with
  | .enrol name => agent.changed (.record (some (roster.recordOf name))) (roster.enrol name)
  | .find name => agent.changed (.record (roster.find? name)) roster
  | .entry name => agent.changed (.entry (roster.entry? name)) roster
  | .awaitsStop name => agent.changed (.flag (roster.awaitsStop name)) roster
  | .openDrain name => agent.changed .nothing (roster.openDrain name)
  | .closeDrain name => agent.changed (agent.standingAnswer name) (roster.closeDrain name)
  | .concludeDrain name => agent.flagged (roster.concludeDrain name)
  | .takeClaim name => agent.flagged (roster.takeClaim name)
  | .returnClaim name => agent.flagged (roster.returnClaim name)
  | .noteStopped name => agent.changed (agent.standingAnswer name) (roster.noteStopped name)
  | .forget name => agent.changed (.record (roster.find? name)) (roster.forget name)
  | .assign name word =>
    match Standing.ofWord? word with
    | some standing => agent.changed (agent.standingAnswer name) (roster.assign name standing)
    | none => agent.changed (.notAStanding word) roster
  | .resize name capacity =>
    agent.changed (.flag (roster.find? name).isSome) (roster.resize name capacity)
  | .overwrite name word capacity =>
    match Standing.ofWord? word with
    | some standing =>
      agent.changed (.record (roster.find? name)) (roster.overwrite name ⟨standing, capacity⟩)
    | none => agent.changed (.notAStanding word) roster
  | .size => agent.changed (.size roster.size) roster
  | .judge event =>
    match Transition.ofDraft .loaded (.ofJson event) with
    | .error fault => (.answered (.fault fault), agent)
    | .ok transition =>
      let (verdict, agent) := agent.judge transition
      (.answered (.verdict verdict), agent)
  | .receive event =>
    match Report.ofDraft .loaded (.ofJson event) with
    | .error fault => (.answered (.fault fault), agent)
    | .ok report =>
      match agent.receive report with
      | (.settled progress, agent) => (.answered (.progress progress), agent)
      | (.requesting service, agent) => (.waiting (.report service), agent)
  | .noteCapacity event =>
    match Report.ofDraft .loaded (.ofJson event) with
    | .error fault => (.answered (.fault fault), agent)
    | .ok report => (.answered .nothing, agent.noteCapacity report)
  | .request request =>
    match Api.handle agent request with
    | (.answered response, agent) => (.answered (.response response), agent)
    | (.requesting service, agent) => (.waiting (.request request service), agent)
  | .poll payload written =>
    let (line, agent) := agent.poll payload written
    (.answered (.line line), agent)
  | .missConnection => (.answered .nothing, agent.missConnection)
  | .stopListening =>
    let (closed, agent) := agent.stopListening
    (.answered (.closed closed), agent)

/-- Finish an operation that waited for the answer to a request for a stop. -/
def finish (pending : Pending) (delivered : Bool) : Answer × Agent :=
  match pending with
  | .report service =>
    let (progress, agent) := agent.settle service delivered
    (.progress progress, agent)
  | .request request service =>
    let (response, agent) := Api.resume agent request service delivered
    (.response response, agent)

end Agent

/-- A step of a session. -/
inductive Step where
  /-- The answer to the step's request for a stop and the steps taken before it;
  both are idle when the step requests none. -/
  | mk (operation : Operation) (delivered : Bool) (during : List Step)

/-- What came of a step. -/
inductive Trace where
  /-- The answer, the roster afterwards, and what came of the steps in between. -/
  | mk (answer : Answer) (entries : List Entry) (during : List Trace)

namespace Session

mutual

/-- Take one step. -/
def takeStep (agent : Agent) : Step → Trace × Agent
  | .mk operation delivered during =>
    match agent.begin operation with
    | (.answered answer, agent) => (.mk answer agent.roster.entries [], agent)
    | (.waiting pending, agent) =>
      let (inner, agent) := takeSteps agent during
      let (answer, agent) := agent.finish pending delivered
      (.mk answer agent.roster.entries inner, agent)

/-- Take steps one after another. -/
def takeSteps (agent : Agent) : List Step → List Trace × Agent
  | [] => ([], agent)
  | step :: rest =>
    let (trace, agent) := takeStep agent step
    let (traces, agent) := takeSteps agent rest
    (trace :: traces, agent)

end

end Session

end Quiesce
