/-
# Ranges of code points

Classes of characters are given by ranges of code points, with both ends
included and in ascending order, so that a search can stop at the first range
that lies beyond the character.
-/

namespace Quiesce.Text

/-- Ranges of code points in ascending order, with both ends included. -/
abbrev Ranges := List (Nat × Nat)

namespace Ranges

/-- Whether a code point lies in one of the ranges. -/
def holdsCode : Ranges → Nat → Bool
  | [], _ => false
  | (first, last) :: rest, code => first ≤ code && (code ≤ last || holdsCode rest code)

/-- Whether a character lies in one of the ranges. -/
def holds (ranges : Ranges) (c : Char) : Bool :=
  ranges.holdsCode c.toNat

end Ranges

end Quiesce.Text
