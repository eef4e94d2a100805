/-
# Percent-encoded texts

A text in which the percent sign is encoded is read back as it is, whatever is encoded besides. An
encoded text is made of the characters that are left as they are and of those that write bytes.
-/

import Quiesce.Proofs.Text.Utf8
import Quiesce.Text.Percent

namespace Quiesce.Percent

variable {escaped : Char → Bool}

/-- The characters that write bytes. -/
def marks : List Char :=
  "%0123456789ABCDEF".toList

/-- What is found to hold of all of them holds of each. -/
theorem of_mem_marks (p : Char → Prop) [DecidablePred p] (found : marks.all (p ·)) {c : Char}
    (mem : c ∈ marks) : p c :=
  of_decide_eq_true (List.all_eq_true.mp found c mem)

/-- A digit of a percent-encoded byte is one byte, which is read as its value. -/
private theorem upper_spec : ∀ value < 16,
    (∃ byte, String.utf8EncodeChar (Hex.upper value) = [byte] ∧ Hex.value? byte = some value) ∧
      Hex.upper value ∈ marks := by
  intro value small
  refine ⟨⟨UInt8.ofNat (Hex.upper value).toNat, ?_⟩, ?_⟩ <;> revert value <;> decide

/-! ## Reading back -/

/-- A percent-encoded byte is read back. -/
private theorem decode_encodeByte (byte : UInt8) (rest : List UInt8) :
    decode ((encodeByte byte).flatMap String.utf8EncodeChar ++ rest) = byte :: decode rest := by
  have bounded := byte.toNat_lt
  obtain ⟨⟨high, encodedHigh, isHigh⟩, -⟩ := upper_spec (byte.toNat / 16) (by omega)
  obtain ⟨⟨low, encodedLow, isLow⟩, -⟩ := upper_spec (byte.toNat % 16) (by omega)
  have value : byte.toNat / 16 * 16 + byte.toNat % 16 = byte.toNat := by omega
  have bytes : (encodeByte byte).flatMap String.utf8EncodeChar ++ rest =
      0x25 :: high :: low :: rest := by
    simp only [encodeByte, List.flatMap_cons, List.flatMap_nil, encodedHigh, encodedLow]
    rfl
  rw [bytes, decode, isHigh, isLow]
  simp only [value, UInt8.ofNat_toNat]

/-- So are all bytes of a text. -/
private theorem decode_flatMap_encodeByte (bytes rest : List UInt8) :
    decode ((bytes.flatMap encodeByte).flatMap String.utf8EncodeChar ++ rest) =
      bytes ++ decode rest := by
  induction bytes with
  | nil => rfl
  | cons byte more ih =>
    rw [List.flatMap_cons, List.flatMap_append, List.append_assoc, decode_encodeByte, ih,
      List.cons_append]

/-- Bytes other than the percent sign stand for themselves. -/
private theorem decode_append {bytes : List UInt8} (plain : 0x25 ∉ bytes) (rest : List UInt8) :
    decode (bytes ++ rest) = bytes ++ decode rest := by
  induction bytes with
  | nil => rfl
  | cons byte more ih =>
    obtain ⟨other, plain⟩ := List.ne_and_not_mem_of_not_mem_cons plain
    rw [List.cons_append, decode, ih plain, List.cons_append]
    rintro _ _ _ rfl -
    exact other rfl

/-- The byte of the percent sign is in no other character. -/
private theorem eq_percent_of_mem {c : Char} (mem : 0x25 ∈ String.utf8EncodeChar c) : c = '%' := by
  have number : c.val.toNat = 0x25 := by
    simp only [String.utf8EncodeChar] at mem
    generalize c.val.toNat = n at mem
    repeat' split at mem
    all_goals
      simp only [List.mem_cons, List.not_mem_nil, or_false, ← UInt8.toNat_inj,
        UInt8.toNat_ofNat', UInt8.reduceToNat] at mem
      omega
  exact Char.ext (UInt32.toNat_inj.mp number)

/-- A character is read back, encoded or not, when the percent sign is encoded. -/
private theorem decode_encodeChar (guarded : escaped '%') (c : Char) (rest : List UInt8) :
    decode ((encodeChar escaped c).flatMap String.utf8EncodeChar ++ rest) =
      String.utf8EncodeChar c ++ decode rest := by
  rw [encodeChar]
  split
  · exact decode_flatMap_encodeByte _ rest
  next unescaped =>
    rw [List.flatMap_singleton]
    refine decode_append (fun mem => ?_) rest
    rw [eq_percent_of_mem mem] at unescaped
    exact unescaped guarded

/-- A text is read back when the percent sign is encoded in it. -/
theorem decode_encode (guarded : escaped '%') (text : List Char) :
    decode (Utf8.encode (String.ofList (encode escaped text))) =
      Utf8.encode (String.ofList text) := by
  simp only [Utf8.encode, String.toList_ofList]
  induction text with
  | nil => rfl
  | cons c rest ih =>
    rw [encode, List.flatMap_cons, List.flatMap_append, decode_encodeChar guarded,
      List.flatMap_cons, ← ih, encode]

/-! ## What an encoded text is made of -/

/-- A character of an encoded text was there before and is not one to encode, or it writes a
byte. -/
theorem mem_of_mem_encode {c : Char} {text : List Char} (mem : c ∈ encode escaped text) :
    (c ∈ text ∧ escaped c = false) ∨ c ∈ marks := by
  obtain ⟨d, among, mem⟩ := List.mem_flatMap.mp mem
  rw [encodeChar] at mem
  split at mem
  next =>
    right
    obtain ⟨byte, -, mem⟩ := List.mem_flatMap.mp mem
    have bounded := byte.toNat_lt
    simp only [encodeByte, List.mem_cons, List.not_mem_nil, or_false] at mem
    rcases mem with rfl | rfl | rfl
    · decide
    · exact (upper_spec _ (by omega)).2
    · exact (upper_spec _ (by omega)).2
  next unescaped =>
    left
    obtain rfl := List.mem_singleton.mp mem
    exact ⟨among, Bool.eq_false_iff.mpr unescaped⟩

end Quiesce.Percent
