/-
# Hexadecimal digits

Writing chooses a case; reading accepts both. Digits are read from bytes,
because they occur in percent-encoded paths and in escapes, where the bytes
around them need not be text.
-/

namespace Quiesce.Hex

/-- The lower-case digit of a value below sixteen. -/
def lower (value : Nat) : Char :=
  if value < 10 then Char.ofNat ('0'.toNat + value) else Char.ofNat ('a'.toNat + (value - 10))

/-- The upper-case digit of a value below sixteen. -/
def upper (value : Nat) : Char :=
  if value < 10 then Char.ofNat ('0'.toNat + value) else Char.ofNat ('A'.toNat + (value - 10))

/-- The value of a digit of either case. -/
def value? (byte : UInt8) : Option Nat :=
  if 0x30 ≤ byte ∧ byte ≤ 0x39 then some (byte.toNat - 0x30)
  else if 0x41 ≤ byte ∧ byte ≤ 0x46 then some (byte.toNat - 0x41 + 10)
  else if 0x61 ≤ byte ∧ byte ≤ 0x66 then some (byte.toNat - 0x61 + 10)
  else none

/-- A number in lower-case digits without leading zeros. -/
def text (n : Nat) : List Char :=
  if n < 16 then [lower n] else text (n / 16) ++ [lower (n % 16)]
termination_by n
decreasing_by omega

end Quiesce.Hex
