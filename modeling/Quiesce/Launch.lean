/-
# Running the agent

The agent reads its settings, opens its sockets, and serves until it is sent one
of two signals. It refuses to start when a setting cannot be read, or else when
no stop can be requested from its orchestrator's URL.
-/

import Quiesce.LogFilter
import Quiesce.Settings
import Quiesce.StopRequest

namespace Quiesce.Launch

/-- A signal that ends the agent. -/
inductive EndSignal where
  | terminate
  | interrupt
  deriving DecidableEq, Repr

namespace EndSignal

/-- The name of a signal. -/
def name : EndSignal → String
  | .terminate => "SIGTERM"
  | .interrupt => "SIGINT"

/-- The signal of a given name. All other signals are ignored. -/
def ofName? : String → Option EndSignal
  | "SIGTERM" => some .terminate
  | "SIGINT" => some .interrupt
  | _ => none

/-- What is logged when a signal ends the agent. -/
def message (signal : EndSignal) : String :=
  "received " ++ signal.name

end EndSignal

/-- The signal that ends the agent when signals of these names are sent. -/
def awaitEnd (names : List String) : Option EndSignal :=
  names.findSome? EndSignal.ofName?

/-- Why the agent refuses to start. -/
inductive Refusal where
  | badSetting (error : SettingsError)
  | badOrchestrator (failure : StopRequest.Failure)
  deriving DecidableEq, Repr

/-- The wording of a refusal. -/
def Refusal.message : Refusal → String
  | .badSetting error => error.message
  | .badOrchestrator failure => failure.message

/-- What the agent needs to start. -/
structure Setup where
  settings : Settings
  /-- The URL to which requests for a stop go. -/
  orchestrator : Url

/-- Read the settings, and then the orchestrator's URL. -/
def prepare (environment : Environment) : Except Refusal Setup := do
  let settings ← (Settings.read environment).mapError .badSetting
  let orchestrator ← (StopRequest.readBase settings.orchestratorUrl).mapError .badOrchestrator
  return ⟨settings, orchestrator⟩

/-- A line of the log. -/
structure Line where
  target : String
  message : String
  /-- The names of what the line carries besides its message. -/
  details : List String
  deriving DecidableEq, Repr

/-- A line as it is written. Every line is an information. -/
def Line.text (line : Line) : String :=
  s!"INFO {line.target}: {line.message}"

/-- The fields of a line; the message is one. -/
def Line.fields (line : Line) : List String :=
  "message" :: line.details

/-- The filter for the log; one that cannot be read counts as not given. -/
def readFilter (environment : Environment) : LogFilter :=
  ((environment "RUST_LOG").bind LogFilter.ofText?).getD .standard

/-- The course of a run. -/
inductive Course where
  | refused (refusal : Refusal)
  | serving
  | ended (signal : EndSignal)
  deriving DecidableEq, Repr

namespace Course

/-- The lines logged when the agent starts to serve. -/
def openingLines : List Line :=
  [⟨"proxy_drain::agent_check", "running HAProxy agent-check", ["address"]⟩,
   ⟨"drain_agent", "serving drain agent API", ["address"]⟩]

/-- The lines logged when a signal ends the agent. -/
def closingLines (signal : EndSignal) : List Line :=
  [⟨"drain_agent::shutdown", signal.message, []⟩,
   ⟨"proxy_drain::agent_check", "agent-check server stopped", []⟩,
   ⟨"drain_agent", "drain agent stopped", []⟩]

/-- The lines logged in a run. -/
def lines : Course → List Line
  | .refused _ => []
  | .serving => openingLines
  | .ended signal => openingLines ++ closingLines signal

/-- The exit code of a run that is over. -/
def exitCode? : Course → Option Nat
  | .refused _ => some 1
  | .serving => none
  | .ended _ => some 0

/-- The first line of a text, without the carriage return that may end it. -/
def firstLine (text : String) : String :=
  let line := text.toList.takeWhile (· ≠ '\n')
  String.ofList (if line.getLast? = some '\r' then line.dropLast else line)

/-- The first line of what a run reports as its error. -/
def errorLine? : Course → Option String
  | .refused refusal => some (firstLine ("Error: " ++ refusal.message))
  | .serving | .ended _ => none

end Course

/-- Run the agent; the signal is sent while it serves. -/
def run (environment : Environment) (signal : Option EndSignal) : Course :=
  match prepare environment with
  | .error refusal => .refused refusal
  | .ok _ =>
    match signal with
    | some signal => .ended signal
    | none => .serving

/-- The lines that the filter lets through. -/
def passing (environment : Environment) (lines : List Line) : List Line :=
  lines.filter fun line => (readFilter environment).admits line.target line.fields .info

/-- The lines of a run that the filter lets through. -/
def log (environment : Environment) (course : Course) : List Line :=
  passing environment course.lines

end Quiesce.Launch
