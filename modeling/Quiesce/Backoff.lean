/-
# Backoff between attempts

A failed attempt is repeated after a wait that grows by a constant factor from
one attempt to the next, up to a maximum. The other side may prefer a wait of
its own; a preference lengthens the wait, but not beyond the maximum. The
number of attempts is limited.
-/

import Quiesce.Duration

namespace Quiesce

/-- The rule for repeating a failed attempt. -/
structure Backoff where
  coefficient : UInt32
  initial : Duration
  maximum : Option Duration
  /-- The number of attempts, counting the first one. -/
  attempts : UInt32
  attempts_pos : 0 < attempts
  deriving DecidableEq, Repr

namespace Backoff

/-- A rule with at least one attempt. -/
def make (coefficient : UInt32) (initial : Duration) (maximum : Option Duration)
    (attempts : UInt32) : Backoff :=
  if positive : 0 < attempts then ⟨coefficient, initial, maximum, attempts, positive⟩
  else ⟨coefficient, initial, maximum, 1, by decide⟩

/-- The rule used when nothing else is set. -/
def standard : Backoff :=
  make 2 (.ofSeconds 1) (some (.ofSeconds 30)) 3

/-- The largest factor by which the initial wait grows. -/
def largestFactor : Nat :=
  UInt32.size - 1

/-- A power that stops at the largest factor, by repeated squaring. -/
def cappedPower (base exponent : Nat) : Nat :=
  if exponent = 0 then 1
  else
    let half := cappedPower (min (base * base) largestFactor) (exponent / 2)
    if exponent % 2 = 0 then half else min (base * half) largestFactor
termination_by exponent
decreasing_by omega

/-- The factor by which the initial wait has grown at an attempt. -/
def factor (backoff : Backoff) (attempt : Nat) : UInt32 :=
  UInt32.ofNat (cappedPower backoff.coefficient.toNat attempt)

/-- Whether an attempt may be repeated after a failure. Attempts count from zero. -/
def mayRetry (backoff : Backoff) (attempt : Nat) : Bool :=
  attempt + 1 < backoff.attempts.toNat

/-- The wait after an attempt that failed, given the wait the other side prefers. -/
def wait (backoff : Backoff) (attempt : Nat) (preferred : Option Duration) : Duration :=
  let grown := backoff.initial.times (backoff.factor attempt)
  match preferred, backoff.maximum with
  | none, none => grown
  | none, some maximum => min grown maximum
  | some preferred, none => max grown preferred
  | some preferred, some maximum => min (max (min grown maximum) preferred) maximum

end Backoff

end Quiesce
