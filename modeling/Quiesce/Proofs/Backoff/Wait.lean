/-
# How long a backoff waits

Durations are computed in parts: seconds and nanoseconds are multiplied apart, with a carry, and
the factor is a power by repeated squaring. Both stop at a limit instead of wrapping. Counted in
nanoseconds none of this shows: the initial wait times a power, up to the two limits, is bounded
by the preference from below and then by the maximum from above. `wait_exact` says so for every
backoff, every attempt and every preference.
-/

import Mathlib.Algebra.Ring.Nat
import Quiesce.Backoff

namespace Quiesce

/-! ## Durations in nanoseconds -/

namespace Duration

/-- The length of the longest duration in nanoseconds. -/
def longestNanos : Nat :=
  18446744073709551615 * 10 ^ 9 + 999999999

theorem le_iff_toNanos_le {first second : Duration} :
    first ≤ second ↔ first.toNanos ≤ second.toNanos :=
  Iff.rfl

@[simp] theorem toNanos_min (first second : Duration) :
    (min first second).toNanos = min first.toNanos second.toNanos := by
  rw [Nat.min_def]
  exact apply_ite toNanos _ _ _

@[simp] theorem toNanos_max (first second : Duration) :
    (max first second).toNanos = max first.toNanos second.toNanos := by
  rw [Nat.max_def]
  exact apply_ite toNanos _ _ _

theorem toNanos_ofParts (seconds : UInt64) (nanos : Nat) :
    (ofParts seconds nanos).toNanos =
      seconds.toNat * nanosPerSecond + nanos % nanosPerSecond := by
  have small : nanos % nanosPerSecond < UInt32.size :=
    Nat.lt_trans (Nat.mod_lt _ (by decide)) (by decide)
  rw [toNanos, ofParts, UInt32.toNat_ofNat_of_lt' small]

/-- The nanoseconds of a multiple fit 64 bits before their seconds are carried over. -/
theorem nanos_mul_lt (duration : Duration) (count : UInt32) :
    duration.nanos.toNat * count.toNat < UInt64.size := by
  calc
    duration.nanos.toNat * count.toNat ≤ nanosPerSecond * UInt32.size :=
      Nat.mul_le_mul (Nat.le_of_lt duration.nanos_lt) (Nat.le_of_lt count.toNat_lt)
    _ < UInt64.size := by decide

/-- A multiple of a duration is exact, up to the longest duration. -/
theorem toNanos_times (duration : Duration) (count : UInt32) :
    (duration.times count).toNanos = min (duration.toNanos * count.toNat) longestNanos := by
  unfold times
  have parts : duration.toNanos * count.toNat =
      duration.seconds.toNat * count.toNat * nanosPerSecond +
        duration.nanos.toNat * count.toNat := by
    rw [toNanos, Nat.add_mul, Nat.mul_right_comm]
  rw [parts]
  generalize duration.nanos.toNat * count.toNat = nanos
  generalize duration.seconds.toNat * count.toNat = seconds
  simp only [longestNanos, UInt64.size]
  split
  next fits =>
    rw [toNanos_ofParts, UInt64.toNat_ofNat_of_lt' fits]
    simp only [nanosPerSecond] at fits ⊢
    omega
  next tooLong =>
    have all : longest.toNanos = 18446744073709551615 * 10 ^ 9 + 999999999 := by decide
    rw [all]
    simp only [nanosPerSecond] at tooLong ⊢
    omega

end Duration

namespace Backoff

/-! ## The factor -/

/-- A product may stop at a limit before or after its last factor does. -/
private theorem min_mul_min (first second limit : Nat) :
    min (first * min second limit) limit = min (first * second) limit := by
  rcases Nat.le_total second limit with small | large
  · rw [Nat.min_eq_left small]
  rw [Nat.min_eq_right large]
  rcases Nat.eq_zero_or_pos first with rfl | positive
  · rw [Nat.zero_mul, Nat.zero_mul]
  have least : limit ≤ first * limit := Nat.le_mul_of_pos_left limit positive
  rw [Nat.min_eq_right least,
    Nat.min_eq_right (Nat.le_trans least (Nat.mul_le_mul_left first large))]

/-- So may a power. -/
private theorem min_pow_min (base exponent limit : Nat) :
    min (min base limit ^ exponent) limit = min (base ^ exponent) limit := by
  induction exponent with
  | zero => rw [Nat.pow_zero, Nat.pow_zero]
  | succ exponent ih =>
    rw [Nat.pow_succ, min_mul_min, Nat.mul_comm, ← min_mul_min, ih, min_mul_min, Nat.mul_comm,
      ← Nat.pow_succ]

/-- Repeated squaring gives the power, up to the largest factor. -/
theorem cappedPower_eq (base exponent : Nat) :
    cappedPower base exponent = min (base ^ exponent) largestFactor := by
  induction base, exponent using cappedPower.induct with
  | case1 base =>
    rw [cappedPower, if_pos rfl, Nat.pow_zero]
    rfl
  | case2 base exponent positive even ih =>
    have halves : 2 * (exponent / 2) = exponent := by omega
    rw [cappedPower, if_neg positive]
    simp only [if_pos even]
    rw [ih, min_pow_min, ← Nat.pow_two, ← Nat.pow_mul, halves]
  | case3 base exponent positive odd ih =>
    have halves : (2 * (exponent / 2)).succ = exponent := by omega
    rw [cappedPower, if_neg positive]
    simp only [if_neg odd]
    rw [ih, min_pow_min, min_mul_min, ← Nat.pow_two, ← Nat.pow_mul, ← Nat.pow_succ', halves]

/-- The factor at an attempt is a power of the coefficient, up to the largest factor. -/
theorem toNat_factor (backoff : Backoff) (attempt : Nat) :
    (backoff.factor attempt).toNat = min (backoff.coefficient.toNat ^ attempt) largestFactor := by
  rw [factor, cappedPower_eq]
  refine UInt32.toNat_ofNat_of_lt' (Nat.lt_of_le_of_lt (Nat.min_le_right _ _) ?_)
  decide

/-! ## The wait -/

/-- How far the initial wait has grown at an attempt, in nanoseconds. -/
def grownNanos (backoff : Backoff) (attempt : Nat) : Nat :=
  min (backoff.initial.toNanos * min (backoff.coefficient.toNat ^ attempt) (2 ^ 32 - 1))
    Duration.longestNanos

/-- A wait that is no shorter than the preferred one, if there is one, and then no longer than the
maximum, if there is one. -/
def bounded (wait : Nat) : Option Nat → Option Nat → Nat
  | none, none => wait
  | none, some maximum => min wait maximum
  | some preferred, none => max wait preferred
  | some preferred, some maximum => min (max wait preferred) maximum

/-- In nanoseconds the wait is the initial one, grown and then bounded. -/
theorem toNanos_wait (backoff : Backoff) (attempt : Nat) (preferred : Option Duration) :
    (backoff.wait attempt preferred).toNanos =
      bounded (backoff.grownNanos attempt) (preferred.map Duration.toNanos)
        (backoff.maximum.map Duration.toNanos) := by
  have grown : (backoff.initial.times (backoff.factor attempt)).toNanos =
      backoff.grownNanos attempt := by
    rw [Duration.toNanos_times, toNat_factor]
    rfl
  unfold wait
  cases preferred with
  | none =>
    cases backoff.maximum with
    | none => exact grown
    | some maximum => simp [bounded, grown]
  | some preferred =>
    cases backoff.maximum with
    | none => simp [bounded, grown]
    | some maximum =>
      -- The maximum is applied before the preference as well, and that makes no difference.
      simp only [Duration.toNanos_min, Duration.toNanos_max, grown, bounded, Option.map_some]
      omega

/-- The wait after an attempt is exact but for two limits: the factor stops at the largest 32-bit
number, and the grown wait at the longest duration. It is read as a number of nanoseconds, of
which its seconds and nanoseconds are the quotient and the remainder. No word on the way to it
overflows: the factor fits 32 bits, and the nanoseconds of the product fit 64 bits. -/
theorem wait_exact (backoff : Backoff) (attempt : Nat) (preferred : Option Duration) :
    let grown := min
      (backoff.initial.toNanos * min (backoff.coefficient.toNat ^ attempt) (2 ^ 32 - 1))
      (18446744073709551615 * 10 ^ 9 + 999999999)
    let wait := backoff.wait attempt preferred
    wait.toNanos =
        (match preferred, backoff.maximum with
        | none, none => grown
        | none, some maximum => min grown maximum.toNanos
        | some preferred, none => max grown preferred.toNanos
        | some preferred, some maximum => min (max grown preferred.toNanos) maximum.toNanos) ∧
      wait.seconds.toNat = wait.toNanos / 10 ^ 9 ∧ wait.nanos.toNat = wait.toNanos % 10 ^ 9 ∧
      (backoff.factor attempt).toNat = min (backoff.coefficient.toNat ^ attempt) (2 ^ 32 - 1) ∧
      backoff.initial.nanos.toNat * (backoff.factor attempt).toNat < 2 ^ 64 := by
  intro grown wait
  have exact : wait.toNanos = bounded grown (preferred.map Duration.toNanos)
      (backoff.maximum.map Duration.toNanos) := backoff.toNanos_wait attempt preferred
  have normalised := wait.nanos_lt
  simp only [nanosPerSecond] at normalised
  refine ⟨?_, ?_, ?_, backoff.toNat_factor attempt, backoff.initial.nanos_mul_lt _⟩
  · rw [exact]
    cases preferred <;> cases backoff.maximum <;> rfl
  · simp only [Duration.toNanos, nanosPerSecond]
    omega
  · simp only [Duration.toNanos, nanosPerSecond]
    omega

/-! ## The order of waits -/

section

variable {backoff : Backoff} {maximum : Duration}

/-- No wait passes the maximum. -/
theorem wait_le_maximum (limited : backoff.maximum = some maximum) (attempt : Nat)
    (preferred : Option Duration) : backoff.wait attempt preferred ≤ maximum := by
  rw [Duration.le_iff_toNanos_le, toNanos_wait, limited]
  cases preferred with
  | none => exact Nat.min_le_right _ _
  | some preferred => exact Nat.min_le_right _ _

/-- A wait undercuts the preferred one only by the maximum. -/
theorem min_le_wait (limited : backoff.maximum = some maximum) (attempt : Nat)
    (preferred : Duration) : min preferred maximum ≤ backoff.wait attempt (some preferred) := by
  rw [Duration.le_iff_toNanos_le, toNanos_wait, limited, Duration.toNanos_min]
  simp only [bounded, Option.map_some]
  omega

end

section

variable {less more : Nat}

/-- A bounded wait grows with the wait. -/
private theorem bounded_le_bounded (grows : less ≤ more) (preferred maximum : Option Nat) :
    bounded less preferred maximum ≤ bounded more preferred maximum := by
  cases preferred <;> cases maximum <;> simp only [bounded] <;> omega

/-- It grows with the preference. -/
private theorem bounded_some_le_bounded_some (grows : less ≤ more) (wait : Nat)
    (maximum : Option Nat) :
    bounded wait (some less) maximum ≤ bounded wait (some more) maximum := by
  cases maximum <;> simp only [bounded] <;> omega

/-- Any preference lengthens it. -/
private theorem bounded_none_le_bounded_some (wait preferred : Nat) (maximum : Option Nat) :
    bounded wait none maximum ≤ bounded wait (some preferred) maximum := by
  cases maximum <;> simp only [bounded] <;> omega

end

variable (backoff : Backoff)

/-- The initial wait grows from one attempt to the next, unless the coefficient is zero. -/
private theorem grownNanos_le_grownNanos (grows : 1 ≤ backoff.coefficient) {earlier later : Nat}
    (order : earlier ≤ later) : backoff.grownNanos earlier ≤ backoff.grownNanos later := by
  have power : backoff.coefficient.toNat ^ earlier ≤ backoff.coefficient.toNat ^ later :=
    Nat.pow_le_pow_right grows order
  have factor : min (backoff.coefficient.toNat ^ earlier) (2 ^ 32 - 1) ≤
      min (backoff.coefficient.toNat ^ later) (2 ^ 32 - 1) := by omega
  have product := Nat.mul_le_mul_left backoff.initial.toNanos factor
  unfold grownNanos
  omega

/-- Later attempts wait no shorter, unless the coefficient is zero. -/
theorem wait_le_wait_of_le (grows : 1 ≤ backoff.coefficient) {earlier later : Nat}
    (order : earlier ≤ later) (preferred : Option Duration) :
    backoff.wait earlier preferred ≤ backoff.wait later preferred := by
  rw [Duration.le_iff_toNanos_le, toNanos_wait, toNanos_wait]
  exact bounded_le_bounded (backoff.grownNanos_le_grownNanos grows order) _ _

/-- A longer preference shortens no wait. -/
theorem wait_some_le_wait_some (attempt : Nat) {shorter longer : Duration}
    (order : shorter ≤ longer) :
    backoff.wait attempt (some shorter) ≤ backoff.wait attempt (some longer) := by
  rw [Duration.le_iff_toNanos_le, toNanos_wait, toNanos_wait]
  exact bounded_some_le_bounded_some order _ _

/-- Neither does a preference where there was none. -/
theorem wait_none_le_wait_some (attempt : Nat) (preferred : Duration) :
    backoff.wait attempt none ≤ backoff.wait attempt (some preferred) := by
  rw [Duration.le_iff_toNanos_le, toNanos_wait, toNanos_wait]
  exact bounded_none_le_bounded_some _ _ _

end Backoff

end Quiesce
