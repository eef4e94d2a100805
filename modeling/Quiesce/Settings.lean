/-
# Settings

The agent is set up by environment variables. Each has a default and is read on
its own; a variable that is set has to be readable, even when it is empty. They
are read in a fixed order, and the first that cannot be read is reported.
-/

import Quiesce.Backoff
import Quiesce.Text.Unsigned

namespace Quiesce

/-- A set of environment variables. -/
abbrev Environment := String → Option String

/-- The settings of the agent. -/
structure Settings where
  bindHost : String
  bindPort : UInt16
  pollHost : String
  pollPort : UInt16
  pollTimeout : Duration
  /-- The group whose services are proxies. -/
  proxyGroup : String
  defaultCapacity : UInt32
  orchestratorUrl : String
  requestTimeout : Duration
  /-- How requests for a stop are repeated. -/
  backoff : Backoff
  /-- Whether the counters are exported. -/
  exportCounters : Bool
  deriving DecidableEq, Repr

/-- The first variable that could not be read. -/
structure SettingsError where
  name : String
  deriving DecidableEq, Repr

namespace SettingsError

/-- The wording of the error. -/
def message (error : SettingsError) : String :=
  "Failed to parse environment variable " ++ error.name

end SettingsError

namespace Settings

/-- A duration given as a number of milliseconds. -/
def readMillis? (text : String) : Option Duration :=
  (Unsigned.read64? text).map Duration.ofMillis

/-- A text that is not empty. -/
def readNonEmpty? (text : String) : Option String :=
  if text.isEmpty then none else some text

/-- A truth value, written in lower case. -/
def readBool? (text : String) : Option Bool :=
  match text with
  | "true" => some true
  | "false" => some false
  | _ => none

/-- Read a variable, or take the default when it is not set. -/
def lookup {α : Type} (environment : Environment) (name : String) (read? : String → Option α)
    (default : α) : Except SettingsError α :=
  match environment name with
  | none => .ok default
  | some text =>
    match read? text with
    | some value => .ok value
    | none => .error ⟨name⟩

/-- How requests for a stop are repeated. At least one attempt is made. -/
def readBackoff (environment : Environment) : Except SettingsError Backoff := do
  let coefficient ← lookup environment "STOP_RETRY_BACKOFF_COEFFICIENT" Unsigned.read32? 2
  let initial ← lookup environment "STOP_RETRY_INITIAL_INTERVAL" readMillis? (.ofMillis 1000)
  let maximum ← lookup environment "STOP_RETRY_MAXIMUM_INTERVAL" readMillis? (.ofMillis 30000)
  let attempts ← lookup environment "STOP_RETRY_MAX_ATTEMPTS" Unsigned.read32? 3
  return .make coefficient initial (some maximum) attempts

/-- All settings. -/
def read (environment : Environment) : Except SettingsError Settings := do
  let bindHost ← lookup environment "BIND_HOST" some "0.0.0.0"
  let bindPort ← lookup environment "BIND_PORT" Unsigned.read16? 3310
  let pollHost ← lookup environment "AGENT_CHECK_HOST" some "0.0.0.0"
  let pollPort ← lookup environment "AGENT_CHECK_PORT" Unsigned.read16? 7331
  let pollTimeout ← lookup environment "AGENT_CHECK_TIMEOUT" readMillis? (.ofMillis 5000)
  let proxyGroup ← lookup environment "PROXY_GROUP" readNonEmpty? "Proxy"
  let defaultCapacity ← lookup environment "DEFAULT_MAX_PLAYERS" Unsigned.read32? 0
  let orchestratorUrl ← lookup environment "ORCHESTRATOR_URL" some "http://localhost:2812"
  let requestTimeout ← lookup environment "REQUEST_TIMEOUT" readMillis? (.ofMillis 5000)
  let backoff ← readBackoff environment
  let exportCounters ← lookup environment "EXPORT_PROMETHEUS" readBool? true
  return {
    bindHost, bindPort, pollHost, pollPort, pollTimeout, proxyGroup, defaultCapacity,
    orchestratorUrl, requestTimeout, backoff, exportCounters }

/-- A host and a port joined by a colon. -/
def address (host : String) (port : UInt16) : String :=
  s!"{host}:{decimal port.toNat}"

/-- The address on which the API is served. -/
def bindAddress (settings : Settings) : String :=
  address settings.bindHost settings.bindPort

/-- The address on which polls are answered. -/
def pollAddress (settings : Settings) : String :=
  address settings.pollHost settings.pollPort

end Settings

end Quiesce
