/-
# Reading unsigned numbers

Settings and header values hold unsigned decimal numbers: an optional plus sign
and at least one ASCII digit, nothing else. Leading zeros are allowed in any
number, and a value that does not fit its width is refused.
-/

import Quiesce.Text.Digits

namespace Quiesce.Unsigned

/-- Drop one leading plus sign. -/
def dropPlus : List Char → List Char
  | '+' :: rest => rest
  | text => text

/-- The number that a text spells, whatever its size. -/
def value? (text : String) : Option Nat :=
  match Digits.ofText? (dropPlus text.toList) with
  | none | some [] => none
  | some digits => some digits.value

/-- The number that a text spells, when it is below `bound`. -/
def below? (bound : Nat) (text : String) : Option Nat :=
  (value? text).filter (· < bound)

/-- A 16-bit number, such as a port. -/
def read16? (text : String) : Option UInt16 :=
  (below? UInt16.size text).map UInt16.ofNat

/-- A 32-bit number, such as a capacity. -/
def read32? (text : String) : Option UInt32 :=
  (below? UInt32.size text).map UInt32.ofNat

/-- A 64-bit number, such as a count of milliseconds. -/
def read64? (text : String) : Option UInt64 :=
  (below? UInt64.size text).map UInt64.ofNat

end Quiesce.Unsigned
