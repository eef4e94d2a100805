/-
# The shortest digits of a number

A number is written in the shortest digits that spell it, that is, without a leading zero
unless it is zero. No other digits of that kind spell it, so what is read without leading zeros
can be written back as it was.
-/

import Mathlib.Data.List.Induction
import Quiesce.Text.Digits

namespace Quiesce.Digits

/-- Whether digits are no more than their value needs: there are some, and the first of several
is not zero. -/
def isShortest : Digits → Bool
  | [] => false
  | [_] => true
  | digit :: _ :: _ => digit.val ≠ 0

/-- A digit after others adds a place. -/
theorem value_concat (digits : Digits) (last : Fin 10) :
    value (digits ++ [last]) = digits.value * 10 + last.val := by
  rw [value, List.foldl_append]
  rfl

/-- A digit is written as itself. -/
theorem ofNat_digit (digit : Fin 10) : ofNat digit.val = [digit] := by
  rw [ofNat, if_pos digit.isLt, Fin.ofNat_val_eq_self]

theorem ofNat_zero : ofNat 0 = [0] :=
  ofNat_digit 0

/-- A number with one more place is written with one more digit. -/
theorem ofNat_mul_add {n : Nat} (positive : 0 < n) (last : Fin 10) :
    ofNat (n * 10 + last.val) = ofNat n ++ [last] := by
  have bounded := last.isLt
  have before : (n * 10 + last.val) / 10 = n := by omega
  have place : Fin.ofNat 10 (n * 10 + last.val) = last := by
    apply Fin.ext
    rw [Fin.val_ofNat]
    omega
  rw [ofNat, if_neg (by omega), before, place]

/-- The digits of a number start with a zero only when it is zero. -/
theorem exists_ofNat_eq_cons {n : Nat} (positive : 0 < n) :
    ∃ digit more, ofNat n = digit :: more ∧ digit ≠ 0 := by
  induction n using ofNat.induct with
  | case1 n small =>
    rw [ofNat, if_pos small]
    refine ⟨_, [], rfl, fun zero => ?_⟩
    have value : n % 10 = 0 := congrArg Fin.val zero
    omega
  | case2 n large ih =>
    obtain ⟨digit, more, digits, nonzero⟩ := ih (by omega)
    rw [ofNat, if_neg large, digits]
    exact ⟨digit, _, rfl, nonzero⟩

/-- Digits that are written are the shortest. -/
theorem isShortest_ofNat (n : Nat) : (ofNat n).isShortest := by
  cases n with
  | zero =>
    rw [ofNat_zero]
    rfl
  | succ n =>
    obtain ⟨digit, more, digits, nonzero⟩ := exists_ofNat_eq_cons (Nat.succ_pos n)
    rw [digits]
    cases more with
    | nil => rfl
    | cons next more => exact decide_eq_true (Fin.val_ne_zero_iff.mpr nonzero)

/-- Digits before others are the shortest, when they all are and there are some. -/
private theorem isShortest_of_concat {digit last : Fin 10} {more : Digits}
    (shortest : isShortest (digit :: more ++ [last])) :
    isShortest (digit :: more) ∧ digit ≠ 0 := by
  cases more with
  | nil => exact ⟨rfl, Fin.val_ne_zero_iff.mp (of_decide_eq_true shortest)⟩
  | cons next more => exact ⟨shortest, Fin.val_ne_zero_iff.mp (of_decide_eq_true shortest)⟩

/-- The shortest digits are those that are written. -/
theorem ofNat_value {digits : Digits} (shortest : digits.isShortest) :
    ofNat digits.value = digits := by
  induction digits using List.reverseRecOn with
  | nil => nomatch shortest
  | append_singleton digits last ih =>
    rw [value_concat]
    cases digits with
    | nil =>
      have single : value [] * 10 + last.val = last.val := Nat.zero_add last.val
      rw [single, ofNat_digit, List.nil_append]
    | cons digit more =>
      obtain ⟨shortest, nonzero⟩ := isShortest_of_concat shortest
      have written := ih shortest
      have positive : 0 < value (digit :: more) := by
        apply Nat.pos_of_ne_zero
        intro zero
        rw [zero, ofNat_zero] at written
        exact nonzero (List.cons.inj written).1.symm
      rw [ofNat_mul_add positive, written]

end Quiesce.Digits
