/-
# Decimal digits

A decimal digit is a number below ten, and a run of digits is a list of them
with the most significant first. Writing a number gives its shortest run, so it
has no leading zeros; reading accepts any run.
-/

namespace Quiesce

/-- A run of decimal digits, most significant first. -/
abbrev Digits := List (Fin 10)

namespace Digits

/-- The number that a run of digits spells. -/
def value (digits : Digits) : Nat :=
  digits.foldl (fun total digit => total * 10 + digit.val) 0

/-- The shortest run of digits that spells a number. -/
def ofNat (n : Nat) : Digits :=
  if n < 10 then [Fin.ofNat 10 n] else ofNat (n / 10) ++ [Fin.ofNat 10 n]
termination_by n
decreasing_by omega

/-- Writing a number and reading its digits gives the number back. -/
@[simp] theorem value_ofNat (n : Nat) : (ofNat n).value = n := by
  induction n using ofNat.induct with
  | case1 n small =>
    rw [ofNat, if_pos small]
    simp [value, Nat.mod_eq_of_lt small]
  | case2 n large ih =>
    rw [ofNat, if_neg large]
    unfold value at ih ⊢
    rw [List.foldl_append, ih]
    simp only [List.foldl_cons, List.foldl_nil, Fin.ofNat]
    omega

/-- The character of a digit. -/
def digitChar (digit : Fin 10) : Char :=
  Char.ofNat ('0'.toNat + digit.val)

/-- The digit that an ASCII character stands for. -/
def digit? (c : Char) : Option (Fin 10) :=
  if '0' ≤ c ∧ c ≤ '9' then some (Fin.ofNat 10 (c.toNat - '0'.toNat)) else none

/-- A digit is read back from its character. -/
@[simp] theorem digit?_digitChar (digit : Fin 10) : digit? (digitChar digit) = some digit := by
  revert digit
  decide

/-- The characters of a run of digits. -/
def text (digits : Digits) : List Char :=
  digits.map digitChar

/-- The run of digits that a text consists of, if it has no other character. -/
def ofText? (text : List Char) : Option Digits :=
  text.mapM digit?

end Digits

/-- A number in decimal notation. -/
def decimal (n : Nat) : String :=
  String.ofList (Digits.ofNat n).text

end Quiesce
