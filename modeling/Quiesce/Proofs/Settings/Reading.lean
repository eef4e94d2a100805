/-
# Settings are read in the order of their variables

The variables are looked up one after another in the order of `Variable.declared`, those of the
backoff in their place among the others. `LooksUp` follows such a computation: the first variable
whose text denotes nothing is its error, and without one it comes to its value. Settings are
read that way, so what they hold of a variable comes from that variable alone.
`settings_read_in_order` says so for every environment.
-/

import Quiesce.Proofs.Settings.Variables

namespace Quiesce

namespace Settings

/-! ## Looking up -/

/-- A computation looks up variables in order: it comes to a value, unless one of them offends,
and the first that does is its error. -/
def LooksUp {α : Type} (environment : Environment) (order : List Variable) (value : α)
    (computation : Except SettingsError α) : Prop :=
  computation = match order.find? fun v => (v.value? environment).isNone with
    | none => .ok value
    | some v => .error ⟨v.name⟩

/-- The value of a variable, or the default when it offends. -/
def Variable.valueIn (environment : Environment) (v : Variable) : v.kind.Value :=
  (v.value? environment).getD v.default

theorem Variable.hasValue_iff {environment : Environment} {v : Variable} {value : v.kind.Value} :
    v.HasValue environment value ↔ ¬ v.Offends environment ∧ v.valueIn environment = value := by
  rw [← value?_eq_some_iff, ← isNone_value?_iff, valueIn]
  cases v.value? environment <;> simp

namespace LooksUp

variable {α β : Type} {environment : Environment}

theorem nothing (value : α) : LooksUp environment [] value (.ok value) :=
  rfl

theorem single (v : Variable) :
    LooksUp environment [v] (v.valueIn environment)
      (lookup environment v.name v.kind.read? v.default) := by
  have looked : lookup environment v.name v.kind.read? v.default =
      match v.value? environment with
      | some value => .ok value
      | none => .error ⟨v.name⟩ := by
    unfold lookup Variable.value?
    cases environment v.name with
    | none => rfl
    | some text =>
      dsimp only
      cases v.kind.read? text <;> rfl
  rw [LooksUp, looked, Variable.valueIn, List.find?_singleton]
  cases v.value? environment <;> rfl

/-- What is looked up later counts only when nothing offends before. -/
theorem bind {before after : List Variable} {first : α} {second : β}
    {computation : Except SettingsError α} {next : α → Except SettingsError β}
    (looks : LooksUp environment before first computation)
    (thenLooks : LooksUp environment after second (next first)) :
    LooksUp environment (before ++ after) second (computation >>= next) := by
  unfold LooksUp at looks thenLooks ⊢
  rw [List.find?_append, looks]
  cases before.find? fun v => (v.value? environment).isNone with
  | none => exact thenLooks
  | some v => rfl

theorem cons (v : Variable) {after : List Variable} {value : α}
    {next : v.kind.Value → Except SettingsError α}
    (thenLooks : LooksUp environment after value (next (v.valueIn environment))) :
    LooksUp environment (v :: after) value
      (lookup environment v.name v.kind.read? v.default >>= next) :=
  (single v).bind thenLooks

end LooksUp

section

variable (environment : Environment)

theorem readBackoff_looksUp :
    LooksUp environment [.coefficient, .initialWait, .maximumWait, .attempts]
      (ofValues (Variable.valueIn environment)).backoff (readBackoff environment) :=
  .cons .coefficient <| .cons .initialWait <| .cons .maximumWait <| .cons .attempts <| .nothing _

theorem read_looksUp :
    LooksUp environment Variable.declared (ofValues (Variable.valueIn environment))
      (read environment) :=
  .cons .bindHost <| .cons .bindPort <| .cons .pollHost <| .cons .pollPort <|
    .cons .pollTimeout <| .cons .proxyGroup <| .cons .defaultCapacity <|
    .cons .orchestratorUrl <| .cons .requestTimeout <|
    (readBackoff_looksUp environment).bind <| .cons .exportCounters <| .nothing _

/-! ## Settings -/

/-- No variable offends exactly when none is found that does. -/
private theorem find?_eq_none_iff :
    (Variable.declared.find? fun v => (v.value? environment).isNone) = none ↔
      ∀ v : Variable, ¬ v.Offends environment := by
  rw [List.find?_eq_none]
  constructor
  · intro none v offends
    exact none v v.mem_declared (Variable.isNone_value?_iff.mpr offends)
  · intro sound v _ missing
    exact sound v (Variable.isNone_value?_iff.mp missing)

/-- Without a variable that offends, the settings are made of the values of all. -/
theorem read_eq_ok (sound : ∀ v : Variable, ¬ v.Offends environment) :
    read environment = .ok (ofValues (Variable.valueIn environment)) := by
  have looksUp := read_looksUp environment
  rw [LooksUp, (find?_eq_none_iff environment).mpr sound] at looksUp
  exact looksUp

/-- The error is the first variable that offends. -/
theorem read_eq_error_iff {error : SettingsError} :
    read environment = .error error ↔
      ∃ before v after, Variable.declared = before ++ v :: after ∧ error = ⟨v.name⟩ ∧
        v.Offends environment ∧ ∀ earlier ∈ before, ¬ earlier.Offends environment := by
  have looksUp := read_looksUp environment
  rw [LooksUp] at looksUp
  rw [looksUp]
  constructor
  · intro failed
    split at failed
    next => cases failed
    next v found =>
      obtain ⟨offends, before, after, split, sound⟩ := List.find?_eq_some_iff_append.mp found
      exact ⟨before, v, after, split, (Except.error.inj failed).symm,
        Variable.isNone_value?_iff.mp offends, fun earlier among =>
          Variable.not_isNone_value?_iff.mp (sound earlier among)⟩
  · intro first
    obtain ⟨before, v, after, split, same, offends, sound⟩ := first
    have found : (Variable.declared.find? fun v => (v.value? environment).isNone) = some v :=
      List.find?_eq_some_iff_append.mpr ⟨Variable.isNone_value?_iff.mpr offends, before, after,
        split, fun earlier among => Variable.not_isNone_value?_iff.mpr (sound earlier among)⟩
    rw [found, same]

/-- There are settings unless a variable offends. -/
theorem exists_read_eq_ok_iff :
    (∃ settings, read environment = .ok settings) ↔
      ∀ v : Variable, ¬ v.Offends environment := by
  constructor
  · intro given v offends
    obtain ⟨settings, given⟩ := given
    have looksUp := read_looksUp environment
    rw [LooksUp, given] at looksUp
    split at looksUp
    next none => exact (find?_eq_none_iff environment).mp none v offends
    next => cases looksUp
  · intro sound
    exact ⟨_, read_eq_ok environment sound⟩

/-- What settings hold of each variable is what is held of its value. -/
theorem read_eq_ok_iff {settings : Settings} :
    read environment = .ok settings ↔
      ∀ v : Variable, ∃ value, v.HasValue environment value ∧
        v.field settings = some (v.held value) := by
  simp only [Variable.hasValue_iff]
  constructor
  · intro given v
    have sound := (exists_read_eq_ok_iff environment).mp ⟨settings, given⟩
    have same := (read_eq_ok environment sound).symm.trans given
    rw [← Except.ok.inj same]
    exact ⟨_, ⟨sound v, rfl⟩, field_ofValues _ v⟩
  · intro holds
    have sound : ∀ v : Variable, ¬ v.Offends environment := by
      intro v
      obtain ⟨value, ⟨sound, -⟩, -⟩ := holds v
      exact sound
    rw [read_eq_ok environment sound]
    apply congrArg Except.ok
    apply eq_of_field
    intro v
    obtain ⟨value, ⟨-, same⟩, held⟩ := holds v
    rw [field_ofValues, held, same]

/-- Variables that are not declared make no difference. -/
theorem read_congr {other : Environment}
    (same : ∀ v : Variable, other v.name = environment v.name) :
    read other = read environment := by
  have values (v : Variable) : v.value? other = v.value? environment :=
    Variable.value?_congr (same v)
  have valueIn : Variable.valueIn other = Variable.valueIn environment := by
    funext v
    rw [Variable.valueIn, values, Variable.valueIn]
  have looksUp := read_looksUp environment
  have otherLooksUp := read_looksUp other
  simp only [LooksUp, values, valueIn] at looksUp otherLooksUp
  rw [looksUp, otherLooksUp]

/-- What settings hold of a variable depends on that variable alone. -/
theorem field_congr {other : Environment} {settings otherSettings : Settings}
    (given : read environment = .ok settings) (otherGiven : read other = .ok otherSettings)
    {v : Variable} (same : other v.name = environment v.name) :
    v.field otherSettings = v.field settings := by
  obtain ⟨value, hasValue, held⟩ := (read_eq_ok_iff environment).mp given v
  obtain ⟨otherValue, otherHasValue, otherHeld⟩ := (read_eq_ok_iff other).mp otherGiven v
  have sameValue : some otherValue = some value := by
    rw [← Variable.value?_eq_some_iff.mpr hasValue, ← Variable.value?_congr same]
    exact (Variable.value?_eq_some_iff.mpr otherHasValue).symm
  rw [otherHeld, held, Option.some.inj sameValue]

end

/-- Settings are read from an environment exactly when no variable is set to a text that denotes
nothing. Then they hold of each variable what it is set to, or else its default: two environments
that agree on a variable lead to the same there, whatever the other variables are, and variables
that are not declared make no difference at all. At least one attempt is allowed, and no wait
passes the longest. Otherwise the error is the first variable, in the order of declaration, that is
set to such a text. -/
theorem settings_read_in_order (environment : Environment) :
    ((∃ settings, read environment = .ok settings) ↔
      ∀ v : Variable, ∀ text, environment v.name = some text →
        ∃ value, v.kind.Denotes text value) ∧
    (∀ settings, read environment = .ok settings ↔
      ∀ v : Variable, ∃ value, v.HasValue environment value ∧
        v.field settings = some (v.held value)) ∧
    (∀ settings, read environment = .ok settings →
      ∀ other otherSettings, read other = .ok otherSettings →
        ∀ v : Variable, other v.name = environment v.name →
          v.field otherSettings = v.field settings) ∧
    (∀ other : Environment, (∀ v : Variable, other v.name = environment v.name) →
      read other = read environment) ∧
    (∀ settings, read environment = .ok settings → 1 ≤ settings.backoff.attempts ∧
      ∃ longest : Duration, Variable.maximumWait.HasValue environment longest ∧
        ∀ attempt preferred, settings.backoff.wait attempt preferred ≤ longest) ∧
    ∀ error, read environment = .error error ↔
      ∃ before v after, Variable.declared = before ++ v :: after ∧ error = ⟨v.name⟩ ∧
        (∃ text, environment v.name = some text ∧ ∀ value, ¬ v.kind.Denotes text value) ∧
        ∀ earlier ∈ before, ∀ text, environment earlier.name = some text →
          ∃ value, earlier.kind.Denotes text value := by
  simp only [← Variable.not_offends_iff]
  refine ⟨exists_read_eq_ok_iff environment, fun settings => read_eq_ok_iff environment, ?_,
    fun other => read_congr environment, ?_, fun error => read_eq_error_iff environment⟩
  · intro settings given other otherSettings otherGiven v
    exact field_congr environment given otherGiven
  · intro settings given
    obtain ⟨longest, hasValue, held⟩ := (read_eq_ok_iff environment).mp given .maximumWait
    refine ⟨settings.backoff.attempts_pos, longest, hasValue, fun attempt preferred => ?_⟩
    exact Backoff.wait_le_maximum held attempt preferred

/-- An environment in which the variables of a list are set. -/
def listed (entries : List (String × String)) : Environment :=
  fun name => entries.lookup name

/-- The waits of a backoff are given with a unit, which no text of a number has, and the last
variable is no truth value either. The first of them is reported. With both mended there are
settings, and whoever asks for no attempt gets one. -/
theorem settings_read_in_order_at_units :
    let mended := [("AGENT_CHECK_PORT", "+0017331"), ("STOP_RETRY_MAX_ATTEMPTS", "0"),
      ("STOP_RETRY_MAXIMUM_INTERVAL", "18446744073709551615"), ("UNRELATED", "")]
    let faulty := [("EXPORT_PROMETHEUS", "yes"), ("STOP_RETRY_INITIAL_INTERVAL", "1s")]
    read (listed (mended ++ faulty)) = .error ⟨"STOP_RETRY_INITIAL_INTERVAL"⟩ ∧
      ∃ settings, read (listed mended) = .ok settings ∧
        settings.pollPort = 17331 ∧ settings.backoff.attempts = 1 := by
  intro mended faulty
  obtain ⟨-, -, -, -, -, fails⟩ := settings_read_in_order (listed (mended ++ faulty))
  obtain ⟨succeeds, reads, -⟩ := settings_read_in_order (listed mended)
  have readable : ∀ v ∈ Variable.declared, (!(v.value? (listed mended)).isNone) = true := by
    decide +kernel
  have sound (v : Variable) : ¬ v.Offends (listed mended) :=
    Variable.not_isNone_value?_iff.mp (readable v v.mem_declared)
  obtain ⟨settings, given⟩ := succeeds.mpr fun v => Variable.not_offends_iff.mp (sound v)
  have holds {v : Variable} {value : v.kind.Value} (known : v.value? (listed mended) = some value) :
      v.field settings = some (v.held value) := by
    obtain ⟨other, hasValue, held⟩ := (reads settings).mp given v
    rw [held, Option.some.inj (known.symm.trans (Variable.value?_eq_some_iff.mpr hasValue))]
  refine ⟨(fails _).mpr ⟨Variable.declared.take 10, .initialWait, Variable.declared.drop 11, rfl,
    rfl, ⟨"1s", by decide +kernel, fun value denotes => ?_⟩, fun earlier among => ?_⟩, settings,
    given, ?_, ?_⟩
  · cases (Kind.read?_eq_some_iff.mpr denotes).symm.trans
      (by decide +kernel : Kind.read? .millis "1s" = none)
  · have readable : ∀ v ∈ Variable.declared.take 10,
        (!(v.value? (listed (mended ++ faulty))).isNone) = true := by decide +kernel
    exact Variable.not_offends_iff.mp (Variable.not_isNone_value?_iff.mp (readable earlier among))
  · have port : Variable.pollPort.value? (listed mended) = some (17331 : UInt16) := rfl
    exact Option.some.inj (holds port)
  · have none : Variable.attempts.value? (listed mended) = some (0 : UInt32) := rfl
    exact Option.some.inj (holds none)

end Settings

end Quiesce
