/-
# The agent at a console

Starts the agent with the variables of the environment and takes requests to
the API from standard input, one a line: a method, a target, and perhaps a JSON
body, separated by blanks. The end of the input ends the agent like a signal.
A console reaches no orchestrator, so a stop that is requested there fails.
-/

import Quiesce.Api
import Quiesce.Launch

namespace Quiesce.Console

/-- The variables that the agent reads. -/
def variableNames : List String :=
  ["RUST_LOG", "BIND_HOST", "BIND_PORT", "AGENT_CHECK_HOST", "AGENT_CHECK_PORT",
   "AGENT_CHECK_TIMEOUT", "PROXY_GROUP", "DEFAULT_MAX_PLAYERS", "ORCHESTRATOR_URL",
   "REQUEST_TIMEOUT", "STOP_RETRY_BACKOFF_COEFFICIENT", "STOP_RETRY_INITIAL_INTERVAL",
   "STOP_RETRY_MAXIMUM_INTERVAL", "STOP_RETRY_MAX_ATTEMPTS", "EXPORT_PROMETHEUS"]

/-- The variables that are set. -/
def readEnvironment : IO Environment := do
  let mut found : List (String × String) := []
  for name in variableNames do
    if let some value ← IO.getEnv name then
      found := (name, value) :: found
  return fun name => found.lookup name

/-- The request that a line writes down. -/
def requestOf (line : List Char) : Http.Request :=
  let isBlank (c : Char) : Bool := c = ' '
  let word (text : List Char) : List Char := text.takeWhile (!isBlank ·)
  let later (text : List Char) : List Char := (text.dropWhile (!isBlank ·)).dropWhile isBlank
  let body := String.ofList (later (later line))
  { method := String.ofList (word line)
    target := String.ofList (word (later line))
    contentType := if body.isEmpty then none else some "application/json"
    body := Utf8.encode body }

/-- Answer a request where no orchestrator can be reached. -/
def answer (setup : Launch.Setup) (agent : Agent) (request : Http.Request) :
    Http.Response × Agent :=
  match Api.handle agent request with
  | (.answered response, agent) => (response, agent)
  | (.requesting service, agent) =>
    let delivery :=
      StopRequest.deliver setup.settings.backoff setup.orchestrator service fun _ => .unreachable
    Api.resume agent request service delivery.result.toBool

/-- Answer requests until the input ends. -/
partial def serve (setup : Launch.Setup) (agent : Agent) (input : IO.FS.Stream) : IO Unit := do
  let line ← input.getLine
  if line.isEmpty then return
  let (response, agent) := answer setup agent (requestOf (line.toList.filter (· ≠ '\n')))
  IO.println s!"{Http.statusText response.status} {response.content}"
  serve setup agent input

/-- Write the lines that the filter lets through. -/
def writeLog (environment : Environment) (lines : List Launch.Line) : IO Unit :=
  for line in Launch.passing environment lines do
    IO.println line.text

/-- Run the agent at the console. The result is the exit code. -/
def run : IO UInt32 := do
  let environment ← readEnvironment
  match Launch.prepare environment with
  | .error refusal =>
    IO.eprintln s!"Error: {refusal.message}"
    return 1
  | .ok setup =>
    writeLog environment Launch.Course.openingLines
    let settings := setup.settings
    let exporter := if settings.exportCounters then some Tally.text else none
    let agent := Agent.start settings.proxyGroup settings.defaultCapacity exporter
    serve setup agent (← IO.getStdin)
    writeLog environment (Launch.Course.closingLines .terminate)
    return 0

end Quiesce.Console

/-- Run the agent. -/
def main : IO UInt32 :=
  Quiesce.Console.run
