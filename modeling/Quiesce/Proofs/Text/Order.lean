/-
# Texts are ordered as their bytes

The first byte of a scalar value's encoding grows with the number of bytes, and within one
number of bytes they carry the value from its highest bits down. So the first character in
which two texts differ decides between their bytes as it does between the texts.
-/

import Mathlib.Data.List.Lex
import Quiesce.Proofs.Text.Utf8

namespace Quiesce.Utf8

/-! ## Bytes of one scalar value -/

/-- The first byte decides when it differs. -/
private theorem cons_lt_of_lt {a b : Nat} (less : a < b) (small : b < 256)
    (left right : List UInt8) : UInt8.ofNat a :: left < UInt8.ofNat b :: right := by
  refine List.Lex.rel ?_
  rw [UInt8.lt_iff_toNat_lt, UInt8.toNat_ofNat', UInt8.toNat_ofNat', Nat.mod_eq_of_lt small,
    Nat.mod_eq_of_lt (Nat.lt_trans less small)]
  exact less

/-- Equally many bytes decide when they differ, whatever follows them. -/
private theorem map_append_lt_of_lt {first second : List Nat} (less : first < second)
    (sameLength : first.length = second.length) (small : ∀ b ∈ second, b < 256)
    (left right : List UInt8) :
    first.map UInt8.ofNat ++ left < second.map UInt8.ofNat ++ right := by
  induction less with
  | nil => nomatch sameLength
  | rel less => exact cons_lt_of_lt less (small _ List.mem_cons_self) _ _
  | cons _ ih =>
    obtain ⟨-, small⟩ := List.forall_mem_cons.mp small
    exact List.Lex.cons (ih (Nat.succ.inj sameLength) small)

/-- What four bytes carry makes up the value. -/
private theorem eq_of_four {n : Nat} (most : n < 0x110000) :
    n = ((n / 262144 % 8 * 64 + n / 4096 % 64) * 64 + n / 64 % 64) * 64 + n % 64 := by
  omega

private theorem digits_lt (n : Nat) : n / 4096 % 64 < 64 ∧ n / 64 % 64 < 64 ∧ n % 64 < 64 := by
  omega

/-- The bytes of a smaller scalar value come first, whatever follows either. -/
theorem utf8EncodeChar_append_lt {c d : Char} (less : c < d) (left right : List UInt8) :
    String.utf8EncodeChar c ++ left < String.utf8EncodeChar d ++ right := by
  have less : c.val.toNat < d.val.toNat := less
  have most : d.val.toNat < 0x110000 := by
    have valid := d.valid
    omega
  simp only [String.utf8EncodeChar]
  generalize c.val.toNat = m at less
  generalize d.val.toNat = n at less most
  -- Fewer bytes begin with a smaller one; within one number of bytes all of them count.
  by_cases one : n ≤ 0x7F
  · rw [if_pos one, if_pos (by omega)]
    exact cons_lt_of_lt less (by omega) left right
  by_cases two : n ≤ 0x7FF
  · rw [if_neg one, if_pos two]
    split
    · exact cons_lt_of_lt (by omega) (by omega) _ _
    rw [if_pos (by omega)]
    have order : [m / 64 % 32 + 192, m % 64 + 128] < [n / 64 % 32 + 192, n % 64 + 128] := by
      simp only [List.cons_lt_cons_iff, List.not_lt_nil, and_false, or_false]
      omega
    exact map_append_lt_of_lt order rfl (by simp; omega) left right
  by_cases three : n ≤ 0xFFFF
  · rw [if_neg one, if_neg two, if_pos three]
    split
    · exact cons_lt_of_lt (by omega) (by omega) _ _
    split
    · exact cons_lt_of_lt (by omega) (by omega) _ _
    rw [if_pos (by omega)]
    have order : [m / 4096 % 16 + 224, m / 64 % 64 + 128, m % 64 + 128] <
        [n / 4096 % 16 + 224, n / 64 % 64 + 128, n % 64 + 128] := by
      simp only [List.cons_lt_cons_iff, List.not_lt_nil, and_false, or_false]
      omega
    exact map_append_lt_of_lt order rfl (by simp; omega) left right
  · rw [if_neg one, if_neg two, if_neg three]
    split
    · exact cons_lt_of_lt (by omega) (by omega) _ _
    split
    · exact cons_lt_of_lt (by omega) (by omega) _ _
    split
    · exact cons_lt_of_lt (by omega) (by omega) _ _
    have order : [m / 262144 % 8 + 240, m / 4096 % 64 + 128, m / 64 % 64 + 128, m % 64 + 128] <
        [n / 262144 % 8 + 240, n / 4096 % 64 + 128, n / 64 % 64 + 128, n % 64 + 128] := by
      have valueM := eq_of_four (Nat.lt_trans less most)
      have valueN := eq_of_four most
      have smallM := digits_lt m
      have smallN := digits_lt n
      simp only [List.cons_lt_cons_iff, List.not_lt_nil, and_false, or_false]
      generalize m / 262144 % 8 = a, m / 4096 % 64 = b, m / 64 % 64 = c, m % 64 = d at *
      generalize n / 262144 % 8 = e, n / 4096 % 64 = f, n / 64 % 64 = g, n % 64 = h at *
      omega
    exact map_append_lt_of_lt order rfl (by simp; omega) left right

/-! ## Texts -/

/-- Encoding keeps the order of texts. -/
theorem encode_lt_encode {text other : String} (less : text < other) :
    encode text < encode other := by
  have less : text.toList < other.toList := String.lt_iff.mp less
  unfold encode
  generalize text.toList = first at less
  generalize other.toList = second at less
  induction less with
  | @nil c rest =>
    obtain ⟨lead, more, bytes, -⟩ := chunk_utf8EncodeChar c []
    rw [List.flatMap_cons, bytes]
    exact List.Lex.nil
  | rel less => exact utf8EncodeChar_append_lt less _ _
  | cons _ ih => exact List.Lex.append_left _ ih _

/-- The lossy reading gives every text back. -/
@[simp] theorem decodeLossy_encode (text : String) : decodeLossy (encode text) = text := by
  rw [decodeLossy, chunks_encode, List.map_map]
  have shown : (fun chunk : Option Char => chunk.getD '\uFFFD') ∘ some = id := rfl
  rw [shown, List.map_id, String.ofList_toList]

end Quiesce.Utf8
