/-
# The variables of the settings

Settings are made of the values of variables. Each variable has a default for when it is not set,
and a notation for the texts that it may be set to. `Kind.Denotes` is the notation without the
readers: a value is read from the texts that denote it, and from no others.
-/

import Quiesce.Proofs.Backoff.Wait
import Quiesce.Proofs.Text.Unsigned
import Quiesce.Settings

namespace Quiesce

/-! ## Milliseconds -/

namespace Duration

/-- A duration is known by its length. -/
theorem toNanos_injective : Function.Injective toNanos := by
  intro first second same
  obtain ⟨seconds, nanos, bounded⟩ := first
  obtain ⟨otherSeconds, otherNanos, otherBounded⟩ := second
  simp only [toNanos, nanosPerSecond] at same bounded otherBounded
  have sameSeconds : seconds = otherSeconds := UInt64.toNat_inj.mp (by omega)
  have sameNanos : nanos = otherNanos := UInt32.toNat_inj.mp (by omega)
  subst sameSeconds sameNanos
  rfl

/-- Milliseconds are converted exactly. -/
theorem toNanos_ofMillis (millis : UInt64) :
    (ofMillis millis).toNanos = millis.toNat * 10 ^ 6 := by
  rw [ofMillis, toNanos_ofParts, UInt64.toNat_div]
  have thousand : (1000 : UInt64).toNat = 1000 := rfl
  rw [thousand]
  simp only [nanosPerSecond]
  omega

end Duration

namespace Backoff

/-- The number of attempts that a backoff allows when that many are asked for. -/
def allowed (attempts : UInt32) : UInt32 :=
  if attempts = 0 then 1 else attempts

theorem allowed_pos (attempts : UInt32) : 0 < allowed attempts := by
  unfold allowed
  split
  · decide
  next given => exact UInt32.pos_iff_ne_zero.mpr given

/-- A backoff is made as it is asked for, but for the number of attempts. -/
theorem make_eq (coefficient : UInt32) (initial : Duration) (maximum : Option Duration)
    (attempts : UInt32) : make coefficient initial maximum attempts =
      ⟨coefficient, initial, maximum, allowed attempts, allowed_pos attempts⟩ := by
  unfold make
  split
  next positive => simp only [allowed, if_neg (UInt32.pos_iff_ne_zero.mp positive)]
  next none =>
    have zero : attempts = 0 := by
      apply Decidable.byContradiction
      intro given
      exact none (UInt32.pos_iff_ne_zero.mpr given)
    simp only [allowed, if_pos zero]

end Backoff

/-! ## Notations -/

namespace Settings

/-- The kinds of values that variables have. -/
inductive Kind where
  | anyText
  | someText
  | word16
  | word32
  | millis
  | truth
  deriving DecidableEq, Repr

namespace Kind

/-- The values of a kind. -/
def Value : Kind → Type
  | .anyText | .someText => String
  | .word16 => UInt16
  | .word32 => UInt32
  | .millis => Duration
  | .truth => Bool

/-- A text denotes a value. Numbers are spelled in digits, and milliseconds in a number of at most
64 bits. -/
def Denotes : (kind : Kind) → String → kind.Value → Prop
  | .anyText, text, value => value = text
  | .someText, text, value => text ≠ "" ∧ value = text
  | .word16, text, value => Unsigned.Spells text.toList (UInt16.toNat value)
  | .word32, text, value => Unsigned.Spells text.toList (UInt32.toNat value)
  | .millis, text, value => ∃ millis < 2 ^ 64, Unsigned.Spells text.toList millis ∧
      Duration.toNanos value = millis * 10 ^ 6
  | .truth, text, value => text = cond value "true" "false"

/-- How the values of a kind are read. -/
def read? : (kind : Kind) → String → Option kind.Value
  | .anyText => some
  | .someText => readNonEmpty?
  | .word16 => Unsigned.read16?
  | .word32 => Unsigned.read32?
  | .millis => readMillis?
  | .truth => readBool?

theorem readNonEmpty?_eq_some_iff {text value : String} :
    readNonEmpty? text = some value ↔ text ≠ "" ∧ value = text := by
  rw [readNonEmpty?, Option.ite_none_left_eq_some, String.isEmpty_iff, Option.some_inj]
  exact and_congr_right' eq_comm

theorem readMillis?_eq_some_iff {text : String} {duration : Duration} :
    readMillis? text = some duration ↔ ∃ millis < 2 ^ 64,
      Unsigned.Spells text.toList millis ∧ duration.toNanos = millis * 10 ^ 6 := by
  rw [readMillis?, Option.map_eq_some_iff]
  constructor
  · intro read
    obtain ⟨millis, spelled, same⟩ := read
    refine ⟨millis.toNat, millis.toNat_lt, Unsigned.read64?_eq_some_iff.mp spelled, ?_⟩
    rw [← same, Duration.toNanos_ofMillis]
  · intro denotes
    obtain ⟨millis, small, spelled, same⟩ := denotes
    have exact : (UInt64.ofNat millis).toNat = millis := UInt64.toNat_ofNat_of_lt' small
    refine ⟨UInt64.ofNat millis, Unsigned.read64?_eq_some_iff.mpr (by rwa [exact]), ?_⟩
    apply Duration.toNanos_injective
    rw [Duration.toNanos_ofMillis, exact, same]

theorem readBool?_eq_some_iff {text : String} {value : Bool} :
    readBool? text = some value ↔ text = cond value "true" "false" := by
  unfold readBool?
  split
  next => cases value <;> decide
  next => cases value <;> decide
  next notTrue notFalse =>
    have other : text ≠ cond value "true" "false" := by
      cases value with
      | false => exact notFalse
      | true => exact notTrue
    simp only [other, reduceCtorEq]

/-- A value is read from the texts that denote it, and from no others. -/
theorem read?_eq_some_iff {kind : Kind} {text : String} {value : kind.Value} :
    kind.read? text = some value ↔ kind.Denotes text value := by
  cases kind with
  | anyText => exact Option.some_inj.trans eq_comm
  | someText => exact readNonEmpty?_eq_some_iff
  | word16 => exact Unsigned.read16?_eq_some_iff
  | word32 => exact Unsigned.read32?_eq_some_iff
  | millis => exact readMillis?_eq_some_iff
  | truth => exact readBool?_eq_some_iff

end Kind

/-! ## Variables -/

/-- The variables that settings are read from. -/
inductive Variable where
  | bindHost
  | bindPort
  | pollHost
  | pollPort
  | pollTimeout
  | proxyGroup
  | defaultCapacity
  | orchestratorUrl
  | requestTimeout
  | coefficient
  | initialWait
  | maximumWait
  | attempts
  | exportCounters
  deriving DecidableEq, Repr

namespace Variable

/-- All variables, in the order in which they are looked up. -/
def declared : List Variable :=
  [.bindHost, .bindPort, .pollHost, .pollPort, .pollTimeout, .proxyGroup, .defaultCapacity,
    .orchestratorUrl, .requestTimeout, .coefficient, .initialWait, .maximumWait, .attempts,
    .exportCounters]

theorem mem_declared (v : Variable) : v ∈ declared := by
  cases v <;> decide

def name : Variable → String
  | .bindHost => "BIND_HOST"
  | .bindPort => "BIND_PORT"
  | .pollHost => "AGENT_CHECK_HOST"
  | .pollPort => "AGENT_CHECK_PORT"
  | .pollTimeout => "AGENT_CHECK_TIMEOUT"
  | .proxyGroup => "PROXY_GROUP"
  | .defaultCapacity => "DEFAULT_MAX_PLAYERS"
  | .orchestratorUrl => "ORCHESTRATOR_URL"
  | .requestTimeout => "REQUEST_TIMEOUT"
  | .coefficient => "STOP_RETRY_BACKOFF_COEFFICIENT"
  | .initialWait => "STOP_RETRY_INITIAL_INTERVAL"
  | .maximumWait => "STOP_RETRY_MAXIMUM_INTERVAL"
  | .attempts => "STOP_RETRY_MAX_ATTEMPTS"
  | .exportCounters => "EXPORT_PROMETHEUS"

def kind : Variable → Kind
  | .bindHost | .pollHost | .orchestratorUrl => .anyText
  | .proxyGroup => .someText
  | .bindPort | .pollPort => .word16
  | .defaultCapacity | .coefficient | .attempts => .word32
  | .pollTimeout | .requestTimeout | .initialWait | .maximumWait => .millis
  | .exportCounters => .truth

/-- The value of a variable that is not set. -/
def default : (v : Variable) → v.kind.Value
  | .bindHost | .pollHost => "0.0.0.0"
  | .bindPort => (3310 : UInt16)
  | .pollPort => (7331 : UInt16)
  | .pollTimeout | .requestTimeout => Duration.ofMillis 5000
  | .proxyGroup => "Proxy"
  | .defaultCapacity => (0 : UInt32)
  | .orchestratorUrl => "http://localhost:2812"
  | .coefficient => (2 : UInt32)
  | .initialWait => Duration.ofMillis 1000
  | .maximumWait => Duration.ofMillis 30000
  | .attempts => (3 : UInt32)
  | .exportCounters => true

/-- What settings hold of a variable. Of a backoff the longest wait may be missing. -/
def field : (v : Variable) → Settings → Option v.kind.Value
  | .bindHost, settings => some settings.bindHost
  | .bindPort, settings => some settings.bindPort
  | .pollHost, settings => some settings.pollHost
  | .pollPort, settings => some settings.pollPort
  | .pollTimeout, settings => some settings.pollTimeout
  | .proxyGroup, settings => some settings.proxyGroup
  | .defaultCapacity, settings => some settings.defaultCapacity
  | .orchestratorUrl, settings => some settings.orchestratorUrl
  | .requestTimeout, settings => some settings.requestTimeout
  | .coefficient, settings => some settings.backoff.coefficient
  | .initialWait, settings => some settings.backoff.initial
  | .maximumWait, settings => settings.backoff.maximum
  | .attempts, settings => some settings.backoff.attempts
  | .exportCounters, settings => some settings.exportCounters

/-- What is held of a value: the value itself, but at least one attempt. -/
def held : (v : Variable) → v.kind.Value → v.kind.Value
  | .attempts, value => Backoff.allowed value
  | _, value => value

variable (v : Variable) (environment : Environment)

/-- A variable has a value: its default when it is not set, and otherwise what its text denotes. -/
def HasValue (value : v.kind.Value) : Prop :=
  match environment v.name with
  | none => value = v.default
  | some text => v.kind.Denotes text value

/-- A variable is set to a text that denotes no value. -/
def Offends : Prop :=
  ∃ text, environment v.name = some text ∧ ∀ value, ¬ v.kind.Denotes text value

/-- The value of a variable, if it has one. -/
def value? : Option v.kind.Value :=
  match environment v.name with
  | none => some v.default
  | some text => v.kind.read? text

variable {v environment}

theorem value?_eq_some_iff {value : v.kind.Value} :
    v.value? environment = some value ↔ v.HasValue environment value := by
  unfold value? HasValue
  split
  · exact Option.some_inj.trans eq_comm
  · exact Kind.read?_eq_some_iff

theorem isNone_value?_iff : (v.value? environment).isNone ↔ v.Offends environment := by
  rw [Option.isNone_iff_eq_none]
  unfold value? Offends
  cases environment v.name with
  | none => simp
  | some text =>
    simp only [Option.some.injEq, exists_eq_left', Option.eq_none_iff_forall_ne_some, ne_eq,
      Kind.read?_eq_some_iff]

theorem not_isNone_value?_iff :
    (!(v.value? environment).isNone) = true ↔ ¬ v.Offends environment := by
  rw [Bool.not_eq_true', ← isNone_value?_iff, Bool.not_eq_true]

/-- A variable that does not offend is not set, or set to a text that denotes a value. -/
theorem not_offends_iff : ¬ v.Offends environment ↔
    ∀ text, environment v.name = some text → ∃ value, v.kind.Denotes text value := by
  simp only [Offends, not_exists, not_and, not_forall, not_not]

/-- The value of a variable depends on that variable alone. -/
theorem value?_congr {other : Environment} (same : other v.name = environment v.name) :
    v.value? other = v.value? environment := by
  rw [value?, same, value?]

end Variable

/-- The settings that are made of the values of all variables. -/
def ofValues (value : (v : Variable) → v.kind.Value) : Settings where
  bindHost := value .bindHost
  bindPort := value .bindPort
  pollHost := value .pollHost
  pollPort := value .pollPort
  pollTimeout := value .pollTimeout
  proxyGroup := value .proxyGroup
  defaultCapacity := value .defaultCapacity
  orchestratorUrl := value .orchestratorUrl
  requestTimeout := value .requestTimeout
  backoff := .make (value .coefficient) (value .initialWait) (some (value .maximumWait))
    (value .attempts)
  exportCounters := value .exportCounters

/-- They hold of each variable what is held of its value. -/
theorem field_ofValues (value : (v : Variable) → v.kind.Value) (v : Variable) :
    v.field (ofValues value) = some (v.held (value v)) := by
  have backoff : (ofValues value).backoff = ⟨value .coefficient, value .initialWait,
      some (value .maximumWait), Backoff.allowed (value .attempts), Backoff.allowed_pos _⟩ :=
    Backoff.make_eq _ _ _ _
  cases v with
  | coefficient => exact congrArg (fun backoff : Backoff => some backoff.coefficient) backoff
  | initialWait => exact congrArg (fun backoff : Backoff => some backoff.initial) backoff
  | maximumWait => exact congrArg Backoff.maximum backoff
  | attempts => exact congrArg (fun backoff : Backoff => some backoff.attempts) backoff
  | _ => rfl

/-- Settings are known by what they hold of all variables. -/
theorem eq_of_field {settings other : Settings}
    (same : ∀ v : Variable, v.field settings = v.field other) : settings = other := by
  have alike (v : Variable) {value otherValue : v.kind.Value} (held : v.field settings = some value)
      (otherHeld : v.field other = some otherValue) : value = otherValue :=
    Option.some.inj (held.symm.trans ((same v).trans otherHeld))
  have backoff : settings.backoff = other.backoff := by
    have coefficient := alike .coefficient rfl rfl
    have initial := alike .initialWait rfl rfl
    have maximum : settings.backoff.maximum = other.backoff.maximum := same .maximumWait
    have attempts := alike .attempts rfl rfl
    generalize settings.backoff = first at coefficient initial maximum attempts
    generalize other.backoff = second at coefficient initial maximum attempts
    cases first
    cases second
    exact Backoff.mk.injEq .. ▸ ⟨coefficient, initial, maximum, attempts⟩
  have bindHost := alike .bindHost rfl rfl
  have bindPort := alike .bindPort rfl rfl
  have pollHost := alike .pollHost rfl rfl
  have pollPort := alike .pollPort rfl rfl
  have pollTimeout := alike .pollTimeout rfl rfl
  have proxyGroup := alike .proxyGroup rfl rfl
  have defaultCapacity := alike .defaultCapacity rfl rfl
  have orchestratorUrl := alike .orchestratorUrl rfl rfl
  have requestTimeout := alike .requestTimeout rfl rfl
  have exportCounters := alike .exportCounters rfl rfl
  cases settings
  cases other
  exact Settings.mk.injEq .. ▸ ⟨bindHost, bindPort, pollHost, pollPort, pollTimeout, proxyGroup,
    defaultCapacity, orchestratorUrl, requestTimeout, backoff, exportCounters⟩

end Settings

end Quiesce
