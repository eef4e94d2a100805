/-
# JSON numbers

A numeral is a JSON number as it is written. An integral numeral is a natural
or a negative integer as long as it fits 64 bits; every other numeral, and
minus zero, is a fraction. A fraction is read from the leading digits that fit
64 bits and a power of ten, and one too large for a double-precision number is
not a number at all.
-/

import Quiesce.Text.Shortest

namespace Quiesce.Json

/-- A JSON number as written: sign, digits before the point, digits after it,
and the exponent with its sign. -/
structure Numeral where
  negative : Bool
  whole : Digits
  fraction : Digits
  exponent : Option (Bool × Digits)
  deriving DecidableEq, Repr

/-- What a numeral stands for. -/
inductive Number where
  /-- A natural number of at most 64 bits. -/
  | natural (value : Nat)
  /-- The negation of a positive number, at least `-2 ^ 63`. -/
  | negative (magnitude : Nat)
  /-- Any other number, by its shortest text. -/
  | fraction (text : String)
  deriving DecidableEq, Repr

namespace Numeral

/-- The numeral of a natural number. -/
def ofNat (n : Nat) : Numeral :=
  ⟨false, Digits.ofNat n, [], none⟩

/-- The characters of a numeral. -/
def text (numeral : Numeral) : List Char :=
  let sign := if numeral.negative then ['-'] else []
  let fraction := match numeral.fraction with
    | [] => []
    | digits => '.' :: Digits.text digits
  let exponent := match numeral.exponent with
    | none => []
    | some (negative, digits) => 'e' :: (if negative then '-' else '+') :: digits.text
  sign ++ numeral.whole.text ++ fraction ++ exponent

/-- Append digits to a significand as long as it stays within 64 bits. Returns
the significand and the number of digits left out. -/
def absorb (significand : Nat) : Digits → Nat × Nat
  | [] => (significand, 0)
  | digit :: rest =>
    let longer := significand * 10 + digit.val
    if longer < UInt64.size then absorb longer rest else (significand, rest.length + 1)

/-- A significand times a power of ten. Powers beyond 308 are applied in steps
when they divide, and are out of range when they multiply; `steps` bounds the
number of divisions. -/
def scale (significand : Float) (power : Int) : Nat → Option Float
  | 0 => some significand
  | steps + 1 =>
    if power.natAbs ≤ 308 then
      let factor := Float.ofScientific 1 false power.natAbs
      if power < 0 then some (significand / factor)
      else
        let product := significand * factor
        if product.isInf then none else some product
    else if significand == 0 then some significand
    else if 0 < power then none
    else scale (significand / Float.ofScientific 1 false 308) (power + 308) steps

/-- Exponents from here on are beyond 31 bits. -/
def exponentLimit : Nat :=
  2147483648

/-- The magnitude of a numeral as a double-precision number; `none` when it is
out of range. An exponent beyond 31 bits is out of range unless it only makes
the number smaller or the number is zero. -/
def magnitude? (numeral : Numeral) : Option Float :=
  let (whole, dropped) := absorb 0 numeral.whole
  let (significand, left) := absorb whole numeral.fraction
  let power : Int := Int.ofNat dropped - Int.ofNat (numeral.fraction.length - left)
  match numeral.exponent with
  | none => scale significand.toUInt64.toFloat power 3
  | some (negative, digits) =>
    if digits.value < exponentLimit then
      let exponent := if negative then -Int.ofNat digits.value else Int.ofNat digits.value
      scale significand.toUInt64.toFloat (power + exponent) 10
    else if significand ≠ 0 ∧ ¬ negative then none
    else some 0

/-- The number a numeral stands for; `none` when it is out of range. -/
def number? (numeral : Numeral) : Option Number :=
  let value := numeral.whole.value
  let integral := numeral.fraction.isEmpty && numeral.exponent.isNone
  if integral ∧ ¬ numeral.negative ∧ value < UInt64.size then some (.natural value)
  else if integral ∧ numeral.negative ∧ 0 < value ∧ value ≤ UInt64.size / 2 then
    some (.negative value)
  else
    numeral.magnitude?.map fun magnitude =>
      .fraction (Shortest.text (if numeral.negative then -magnitude else magnitude))

end Numeral

end Quiesce.Json
