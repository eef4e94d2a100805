/-
# Shortest decimal text of a binary fraction

A double-precision number stands for all reals that round to it. Its shortest
text is the decimal with the fewest digits in that interval, and of those the
one nearest to the number itself. The search is exact: bounds and candidates
are compared as integers, never as rounded fractions.
-/

import Quiesce.Text.Digits

namespace Quiesce.Shortest

/-- A positive number `significand · 2 ^ exponent`, and whether the gap below
it is half the gap above it, as at a power of two. -/
structure Binary where
  significand : Nat
  exponent : Int
  narrowBelow : Bool
  deriving DecidableEq, Repr

/-- The leading bit of a significand, which patterns leave out. -/
def hiddenBit : Nat :=
  Nat.pow 2 52

/-- The sign and magnitude of a finite number, from its bit pattern. -/
def decode (bits : UInt64) : Bool × Binary :=
  let fraction : Nat := bits.toNat % hiddenBit
  let biased : Nat := bits.toNat / hiddenBit % 2048
  let magnitude : Binary :=
    if biased = 0 then ⟨fraction, -1074, false⟩
    else ⟨hiddenBit + fraction, Int.ofNat biased - 1075, fraction = 0 && biased ≠ 1⟩
  (bits.toNat / hiddenBit / 2048 = 1, magnitude)

/-- `count · 10 ^ power`, as an integer on the scale shared with `onBinaryScale`. -/
def onDecimalScale (count : Nat) (power : Int) (exponent : Int) : Nat :=
  count * Nat.pow 10 power.toNat * Nat.pow 2 (-exponent).toNat

/-- `count · 2 ^ exponent`, as an integer on the scale shared with `onDecimalScale`. -/
def onBinaryScale (count : Nat) (power : Int) (exponent : Int) : Nat :=
  count * Nat.pow 2 exponent.toNat * Nat.pow 10 (-power).toNat

/-- Whether `count · 10 ^ power` rounds to the number. The ends of the interval
belong to it exactly when the significand is even. -/
def rounds (number : Binary) (count : Nat) (power : Int) : Bool :=
  let quarter := number.exponent - 2
  let candidate := onDecimalScale count power quarter
  let halfGapBelow := if number.narrowBelow then 1 else 2
  let low := onBinaryScale (4 * number.significand - halfGapBelow) power quarter
  let high := onBinaryScale (4 * number.significand + 2) power quarter
  if number.significand % 2 = 0 then low ≤ candidate && candidate ≤ high
  else low < candidate && candidate < high

/-- The decimal exponent of the number's first digit. -/
def leadingPower (number : Binary) : Int :=
  let shift : Nat := 1100
  let scaled := number.significand * Nat.pow 10 shift * Nat.pow 2 number.exponent.toNat /
    Nat.pow 2 (-number.exponent).toNat
  Int.ofNat (Digits.ofNat scaled).length - 1 - shift

/-- The neighbours of the number among the multiples of `10 ^ power`, the
nearer one first. -/
def neighbours (number : Binary) (power : Int) : List Nat :=
  let value := onBinaryScale number.significand power number.exponent
  let unit := onDecimalScale 1 power number.exponent
  let below := value / unit
  if 2 * (value % unit) ≤ unit then [below, below + 1] else [below + 1, below]

/-- Search with one digit, then two, and so on; `budget` digits are tried at most. -/
def search (number : Binary) (leading : Int) (digits : Nat) : Nat → Nat × Int
  | 0 => (number.significand, 0)
  | budget + 1 =>
    let power := leading - digits
    match (neighbours number power).find? (fun count => rounds number count power) with
    | some count => (count, power)
    | none => search number leading (digits + 1) budget

/-- The shortest decimal `count · 10 ^ power` that rounds to the number. Seventeen
digits always suffice. -/
def shortest (number : Binary) : Nat × Int :=
  search number (leadingPower number) 0 18

/-- Which decimal exponents are written positionally. -/
structure Layout where
  lowestPositional : Int
  highestPositional : Int

/-- Positional digits from 0.00001 up to sixteen digits before the point. -/
def layout : Layout := ⟨-5, 15⟩

/-- Strip the trailing zeros of a run of digits. -/
def trimZeros (digits : Digits) : Digits :=
  (digits.reverse.dropWhile (·.val = 0)).reverse

/-- A positive decimal with the given digits and the exponent of its first digit. A
positional text always has a point and a digit after it. -/
def place (layout : Layout) (digits : Digits) (leading : Int) : List Char :=
  if layout.lowestPositional ≤ leading ∧ leading ≤ layout.highestPositional then
    if leading < 0 then
      '0' :: '.' :: (List.replicate ((-leading).toNat - 1) '0' ++ digits.text)
    else
      let whole := leading.toNat + 1
      let fraction := digits.drop whole
      Digits.text (digits.take whole) ++ List.replicate (whole - digits.length) '0' ++
        '.' :: (if fraction.isEmpty then ['0'] else Digits.text fraction)
  else
    let sign := if leading < 0 then '-' else '+'
    let fraction := match digits.drop 1 with
      | [] => []
      | rest => '.' :: Digits.text rest
    Digits.text (digits.take 1) ++ fraction ++ 'e' :: sign :: (Digits.ofNat leading.natAbs).text

/-- The shortest text of a finite number. -/
def text (number : Float) : String :=
  let (negative, magnitude) := decode number.toBits
  let sign := if negative then ['-'] else []
  let body :=
    if magnitude.significand = 0 then ['0', '.', '0']
    else
      let (count, power) := shortest magnitude
      let digits := Digits.ofNat count
      place layout (trimZeros digits) (power + Int.ofNat digits.length - 1)
  String.ofList (sign ++ body)

end Quiesce.Shortest
