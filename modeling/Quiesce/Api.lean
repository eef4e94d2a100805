/-
# The HTTP API

The orchestrator sends its events to the API, and operators look at proxies and
override them. A request is refused before anything is changed, or carried out.
A report that leads to a request for a stop is answered only when that request
is, so carrying out a request may leave it pending. An agent that exports its
counts shows them here too.
-/

import Quiesce.Agent
import Quiesce.Encoding
import Quiesce.Http.Message
import Quiesce.Http.Route

namespace Quiesce.Api

open Json (Draft Fault)
open Http (Request Response Route)

/-- The number of bytes a body may have. -/
def bodyLimit : Nat :=
  2097152

/-- Why a request is refused. -/
inductive Refusal where
  /-- No route has this path. -/
  | unknownPath
  /-- The route does not allow the method. -/
  | wrongMethod (route : Route)
  /-- The name in the path is no text. -/
  | badName
  /-- The body is not said to be JSON. -/
  | notJson
  | bodyTooLong
  | badBody (fault : Fault)
  /-- The word for a standing means none. -/
  | badStanding (word : String)
  /-- The proxy is not known. -/
  | unknownProxy (name : String)
  deriving DecidableEq, Repr

/-- An error as JSON. -/
def errorJson (message : String) : Json :=
  .object [("error", .string message)]

namespace Refusal

/-- The response to a refused request. -/
def response : Refusal → Response
  | .unknownPath => .bare 404
  | .wrongMethod route => { Response.bare 405 with allow := some (",".intercalate route.methods) }
  | .badName => .plain 400 "Invalid URL: Invalid UTF-8 in `name`"
  | .notJson => .plain 415 "Expected request with `Content-Type: application/json`"
  | .bodyTooLong => .plain 413 "Failed to buffer the request body: length limit exceeded"
  | .badBody .malformed => .plain 400 "Failed to parse the request body as JSON"
  | .badBody (.misfit path cause) =>
    .plain 422 ("Failed to deserialize the JSON body into the target type: " ++
      Fault.placedMessage path cause)
  | .badStanding word => .json 400 (errorJson (Standing.refusal word))
  | .unknownProxy name => .json 404 (errorJson ("unknown proxy " ++ name))

end Refusal

/-- What a request asks for, once its path, method and body are accepted. -/
inductive Command where
  | greet
  | list
  | show (name : String)
  | judge (transition : Transition)
  | receive (report : Report)
  | forget (service : String)
  | override (name : String) (standing : Standing) (capacity : Option UInt32)
  | showCounts
  deriving DecidableEq, Repr

/-- Read the body of a request. -/
def readBody {α : Type} (request : Request) (read : Draft → Except Fault α) : Except Refusal α :=
  if ¬ request.saysJson then .error .notJson
  else if bodyLimit < request.body.length then .error .bodyTooLong
  else (Json.readBytes read request.body).mapError .badBody

/-- The name of a proxy in a path. -/
def readName (rawName : List Char) : Except Refusal String :=
  match Http.nameOf? rawName with
  | some name => .ok name
  | none => .error .badName

/-- What a request to a route asks for, when the route allows the method. The
name in the path is read before the body. -/
def commandAt (request : Request) : Route → Except Refusal Command
  | .index | .readiness | .liveness => .ok .greet
  | .proxies => .ok .list
  | .proxy rawName => do
    let name ← readName rawName
    return .show name
  | .transitions => do
    let transition ← readBody request (Transition.ofDraft .text)
    return .judge transition
  | .reports => do
    let report ← readBody request (Report.ofDraft .text)
    return .receive report
  | .deletions => do
    let deletion ← readBody request (Deletion.ofDraft .text)
    return .forget deletion.service
  | .proxyStanding rawName => do
    let name ← readName rawName
    let override ← readBody request (Override.ofDraft .text)
    match Standing.ofWord? override.word with
    | some standing => return .override name standing override.capacity
    | none => throw (.badStanding override.word)
  | .counts => .ok .showCounts

/-- The open route that the target of a request leads to. -/
def routeOf? (exported : Bool) (request : Request) : Option Route :=
  (Route.ofTarget? request.target).filter (·.isOpen exported)

/-- What a target leads to is the route of its request, if it is open. -/
theorem routeOf?_eq_some {exported : Bool} {request : Request} {route : Route}
    (target : Route.ofTarget? request.target = some route) (opened : route.isOpen exported) :
    routeOf? exported request = some route := by
  rw [routeOf?, target, Option.filter_some, if_pos opened]

/-- The command of a request. -/
def commandOf (exported : Bool) (request : Request) : Except Refusal Command :=
  match routeOf? exported request with
  | none => .error .unknownPath
  | some route =>
    if route.methods.contains request.method then commandAt request route
    else .error (.wrongMethod route)

/-- A response, or the service whose stop has to be requested first. -/
inductive Outcome where
  | answered (response : Response)
  | requesting (service : String)
  deriving DecidableEq, Repr

/-- The response that tells how far a report has brought a drain. -/
def progressResponse (progress : Progress) : Response :=
  .json 200 (.object [("drain", .string progress.label)])

/-- The response that shows a proxy. -/
def entryResponse (roster : Roster) (name : String) : Response :=
  match roster.entry? name with
  | some entry => .json 200 entry.toJson
  | none => Refusal.response (.unknownProxy name)

/-- The response that shows the counts. -/
def countsResponse (agent : Agent) : Response :=
  match agent.exporter with
  | some write => .plain 200 (write agent.tally)
  | none => Refusal.response .unknownPath

/-- Carry out a command. -/
def perform (agent : Agent) : Command → Outcome × Agent
  | .greet => (.answered (.plain 200 "proxy drain agent"), agent)
  | .list => (.answered (.json 200 (.array (agent.roster.entries.map Entry.toJson))), agent)
  | .show name => (.answered (entryResponse agent.roster name), agent)
  | .judge transition =>
    let (verdict, agent) := agent.judge transition
    (.answered (.json 200 (.object [("veto", .boolean verdict.vetoed)])), agent)
  | .receive report =>
    match (agent.noteCapacity report).receive report with
    | (.settled progress, agent) => (.answered (progressResponse progress), agent)
    | (.requesting service, agent) => (.requesting service, agent)
  | .forget service => (.answered (.bare 204), agent.forget service)
  | .override name standing capacity =>
    let agent := agent.overrideWith name standing capacity
    (.answered (entryResponse agent.roster name), agent)
  | .showCounts => (.answered (countsResponse agent), agent)

/-- The pattern by which a request is counted. -/
def patternOf (exported : Bool) (request : Request) : String :=
  match routeOf? exported request with
  | some route => route.pattern
  | none => "unmatched"

/-- Complete a response: a request for no content gets none, and the request is
counted with its latency. -/
def complete (request : Request) (response : Response) (agent : Agent) : Response × Agent :=
  let response := if request.method = "HEAD" then response.withoutContent else response
  let pattern := patternOf agent.exports request
  (response, (agent.counting (.requests request.method pattern response.status)).counting
    (.latencies request.method pattern response.status))

/-- Take in a request. A report may leave it pending, and uncounted, until
the request for a stop is answered. -/
def handle (agent : Agent) (request : Request) : Outcome × Agent :=
  match commandOf agent.exports request with
  | .error refusal =>
    let (response, agent) := complete request refusal.response agent
    (.answered response, agent)
  | .ok command =>
    match perform agent command with
    | (.answered response, agent) =>
      let (response, agent) := complete request response agent
      (.answered response, agent)
    | (.requesting service, agent) => (.requesting service, agent)

/-- Take in the answer to the request for a stop that a request waits for. -/
def resume (agent : Agent) (request : Request) (service : String) (delivered : Bool) :
    Response × Agent :=
  let (progress, agent) := agent.settle service delivered
  complete request (progressResponse progress) agent

end Quiesce.Api
