/-
# Durations

A duration is a 64-bit number of seconds and less than a thousand million
nanoseconds. Multiplication stops at the longest duration instead of wrapping.
-/

import Quiesce.Text.Digits

namespace Quiesce

/-- The number of nanoseconds in a second. -/
def nanosPerSecond : Nat :=
  1000000000

/-- A span of time. -/
structure Duration where
  seconds : UInt64
  nanos : UInt32
  nanos_lt : nanos.toNat < nanosPerSecond
  deriving DecidableEq, Repr

namespace Duration

/-- The duration of that many seconds and nanoseconds; whole seconds among the
nanoseconds are dropped. -/
def ofParts (seconds : UInt64) (nanos : Nat) : Duration :=
  ⟨seconds, UInt32.ofNat (nanos % nanosPerSecond), by
    have bound : nanos % nanosPerSecond < nanosPerSecond := Nat.mod_lt _ (by decide)
    have small : nanos % nanosPerSecond < 2 ^ 32 := Nat.lt_trans bound (by decide)
    rw [UInt32.toNat_ofNat']
    exact Nat.lt_of_le_of_lt (Nat.mod_le _ _) bound⟩

/-- A whole number of seconds. -/
def ofSeconds (seconds : UInt64) : Duration :=
  ofParts seconds 0

/-- A whole number of milliseconds. -/
def ofMillis (millis : UInt64) : Duration :=
  ofParts (millis / 1000) (millis.toNat % 1000 * 1000000)

/-- The longest duration. -/
def longest : Duration :=
  ofParts (UInt64.ofNat (UInt64.size - 1)) (nanosPerSecond - 1)

/-- The length of a duration in nanoseconds. -/
def toNanos (duration : Duration) : Nat :=
  duration.seconds.toNat * nanosPerSecond + duration.nanos.toNat

instance : LE Duration :=
  ⟨fun first second => first.toNanos ≤ second.toNanos⟩

instance (first second : Duration) : Decidable (first ≤ second) :=
  inferInstanceAs (Decidable (first.toNanos ≤ second.toNanos))

instance : Min Duration :=
  ⟨fun first second => if first ≤ second then first else second⟩

instance : Max Duration :=
  ⟨fun first second => if first ≤ second then second else first⟩

/-- A multiple of a duration, or the longest duration when it is beyond that. Seconds
and nanoseconds are multiplied apart and the carry is added to the seconds. -/
def times (duration : Duration) (count : UInt32) : Duration :=
  let nanos := duration.nanos.toNat * count.toNat
  let seconds := duration.seconds.toNat * count.toNat + nanos / nanosPerSecond
  if seconds < UInt64.size then ofParts (UInt64.ofNat seconds) nanos else longest

/-- A number with `places` digits after the point, less trailing zeros. -/
def decimalText (whole fraction places : Nat) : List Char :=
  let digits := Digits.ofNat fraction
  let padded := List.replicate (places - digits.length) '0' ++ digits.text
  let kept := (padded.reverse.dropWhile (· = '0')).reverse
  (Digits.ofNat whole).text ++ if kept.isEmpty then [] else '.' :: kept

/-- A duration in the largest unit of which it holds at least one. -/
def text (duration : Duration) : String :=
  let nanos := duration.nanos.toNat
  let (characters, unit) :=
    if duration.seconds ≠ 0 then (decimalText duration.seconds.toNat nanos 9, "s")
    else if 1000000 ≤ nanos then (decimalText (nanos / 1000000) (nanos % 1000000) 6, "ms")
    else if 1000 ≤ nanos then (decimalText (nanos / 1000) (nanos % 1000) 3, "µs")
    else (decimalText nanos 0 0, "ns")
  String.ofList characters ++ unit

end Duration

end Quiesce
