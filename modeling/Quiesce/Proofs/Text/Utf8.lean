/-
# Every text is read back from its bytes

The first byte of a scalar value's encoding tells how many bytes follow and carries
the highest bits of the value; each byte that follows carries six bits more. Reading
takes the same bits off again, so the encoding is one chunk whatever comes after it,
and the chunks of a text's bytes are the text's characters. `decode?_encode` says so
for the strict reading.
-/

import Quiesce.Text.Utf8

namespace Quiesce.Utf8

/-! ## First bytes -/

private theorem toNat_ofNat {n : Nat} (small : n < 256) : (UInt8.ofNat n).toNat = n := by
  rw [UInt8.toNat_ofNat', Nat.mod_eq_of_lt small]

private theorem continuation?_one {lead : UInt8} (most : lead.toNat < 0x80) :
    continuation? lead = some ⟨0, 0x80, 0xBF⟩ := by
  simp [continuation?, UInt8.lt_iff_toNat_lt, most]

private theorem continuation?_two {lead : UInt8} (least : 0xC2 ≤ lead.toNat)
    (most : lead.toNat < 0xE0) : continuation? lead = some ⟨1, 0x80, 0xBF⟩ := by
  simp only [continuation?, UInt8.lt_iff_toNat_lt]
  grind

/-- Three bytes: what follows `E0` is no overlong form, and what follows `ED` is no surrogate. -/
private theorem continuation?_three {lead : UInt8} (least : 0xE0 ≤ lead.toNat)
    (most : lead.toNat < 0xF0) :
    continuation? lead = some ⟨2, if lead.toNat = 0xE0 then 0xA0 else 0x80,
      if lead.toNat = 0xED then 0x9F else 0xBF⟩ := by
  simp only [continuation?, UInt8.lt_iff_toNat_lt, ← UInt8.toNat_inj]
  grind

/-- Four bytes: what follows `F0` is no overlong form, and what follows `F4` is in range. -/
private theorem continuation?_four {lead : UInt8} (least : 0xF0 ≤ lead.toNat)
    (most : lead.toNat ≤ 0xF4) :
    continuation? lead = some ⟨3, if lead.toNat = 0xF0 then 0x90 else 0x80,
      if lead.toNat = 0xF4 then 0x8F else 0xBF⟩ := by
  simp only [continuation?, UInt8.lt_iff_toNat_lt, ← UInt8.toNat_inj]
  grind

/-! ## One scalar value -/

/-- The byte that carries the lowest six bits of a number is taken as a continuation, when it
lies within the bounds. -/
private theorem takeContinuation_cons (count : Nat) {low high : UInt8} (value bits : Nat)
    (rest : List UInt8) (above : low.toNat ≤ bits % 64 + 128)
    (below : bits % 64 + 128 ≤ high.toNat) :
    takeContinuation (count + 1) low high value (UInt8.ofNat (bits % 64 + 128) :: rest) =
      takeContinuation count 0x80 0xBF (value * 64 + bits % 64) rest := by
  have carried : (UInt8.ofNat (bits % 64 + 128)).toNat = bits % 64 + 128 :=
    toNat_ofNat (by omega)
  have bounded : low ≤ UInt8.ofNat (bits % 64 + 128) ∧ UInt8.ofNat (bits % 64 + 128) ≤ high := by
    rw [UInt8.le_iff_toNat_le, UInt8.le_iff_toNat_le, carried]
    exact ⟨above, below⟩
  have lowest : (bits % 64 + 128) % 64 = bits % 64 := by omega
  rw [takeContinuation, if_pos bounded, carried, lowest]

/-- A byte without narrower bounds before it is always taken. -/
private theorem takeContinuation_cons_wide (count value bits : Nat) (rest : List UInt8) :
    takeContinuation (count + 1) 0x80 0xBF value (UInt8.ofNat (bits % 64 + 128) :: rest) =
      takeContinuation count 0x80 0xBF (value * 64 + bits % 64) rest :=
  takeContinuation_cons count value bits rest (Nat.le_add_left _ _)
    (Nat.add_le_of_le_sub (by decide) (Nat.le_of_lt_succ (Nat.mod_lt _ (by decide))))

section

variable {n : Nat} (rest : List UInt8)

private theorem chunk_one (most : n ≤ 0x7F) :
    chunk (UInt8.ofNat n) rest = (some (Char.ofNat n), rest) := by
  have lead : (UInt8.ofNat n).toNat = n := toNat_ofNat (by omega)
  rw [chunk, continuation?_one (by omega)]
  simp only [takeContinuation, leadBits, lead]

private theorem chunk_two (least : 0x7F < n) (most : n ≤ 0x7FF) :
    chunk (UInt8.ofNat (n / 64 % 32 + 192)) (UInt8.ofNat (n % 64 + 128) :: rest) =
      (some (Char.ofNat n), rest) := by
  have lead : (UInt8.ofNat (n / 64 % 32 + 192)).toNat = n / 64 % 32 + 192 :=
    toNat_ofNat (by omega)
  have value : (n / 64 % 32 + 192) % 0x20 * 64 + n % 64 = n := by omega
  rw [chunk, continuation?_two (by omega) (by omega)]
  simp only [leadBits, lead]
  rw [takeContinuation_cons_wide, takeContinuation, value]

private theorem chunk_three (least : 0x7FF < n) (most : n ≤ 0xFFFF)
    (noSurrogate : n < 0xD800 ∨ 0xDFFF < n) :
    chunk (UInt8.ofNat (n / 4096 % 16 + 224))
        (UInt8.ofNat (n / 64 % 64 + 128) :: UInt8.ofNat (n % 64 + 128) :: rest) =
      (some (Char.ofNat n), rest) := by
  have lead : (UInt8.ofNat (n / 4096 % 16 + 224)).toNat = n / 4096 % 16 + 224 :=
    toNat_ofNat (by omega)
  have value : ((n / 4096 % 16 + 224) % 0x10 * 64 + n / 64 % 64) * 64 + n % 64 = n := by omega
  rw [chunk, continuation?_three (by omega) (by omega)]
  simp only [leadBits, lead]
  rw [takeContinuation_cons]
  · rw [takeContinuation_cons_wide, takeContinuation, value]
  · split <;> simp
    omega
  · split <;> simp <;> omega

private theorem chunk_four (least : 0xFFFF < n) (most : n < 0x110000) :
    chunk (UInt8.ofNat (n / 262144 % 8 + 240))
        (UInt8.ofNat (n / 4096 % 64 + 128) :: UInt8.ofNat (n / 64 % 64 + 128) ::
          UInt8.ofNat (n % 64 + 128) :: rest) =
      (some (Char.ofNat n), rest) := by
  have lead : (UInt8.ofNat (n / 262144 % 8 + 240)).toNat = n / 262144 % 8 + 240 :=
    toNat_ofNat (by omega)
  have value : (((n / 262144 % 8 + 240) % 0x08 * 64 + n / 4096 % 64) * 64 + n / 64 % 64) * 64 +
      n % 64 = n := by omega
  rw [chunk, continuation?_four (by omega) (by omega)]
  simp only [leadBits, lead]
  rw [takeContinuation_cons]
  · rw [takeContinuation_cons_wide, takeContinuation_cons_wide, takeContinuation, value]
  · split <;> simp
    omega
  · split <;> simp <;> omega

end

/-- The encoding of a scalar value is one chunk, whatever follows it. -/
theorem chunk_utf8EncodeChar (c : Char) (rest : List UInt8) :
    ∃ lead more, String.utf8EncodeChar c = lead :: more ∧
      chunk lead (more ++ rest) = (some c, rest) := by
  have valid : c.val.toNat < 0xD800 ∨ 0xDFFF < c.val.toNat ∧ c.val.toNat < 0x110000 := c.valid
  have value : Char.ofNat c.val.toNat = c := Char.ofNat_toNat c
  rw [String.utf8EncodeChar]
  generalize c.val.toNat = n at valid value
  subst value
  split
  case isTrue most => exact ⟨_, _, rfl, chunk_one rest most⟩
  split
  case isTrue most => exact ⟨_, _, rfl, chunk_two rest (by omega) most⟩
  split
  case isTrue most => exact ⟨_, _, rfl, chunk_three rest (by omega) most (by omega)⟩
  case isFalse => exact ⟨_, _, rfl, chunk_four rest (by omega) (by omega)⟩

/-! ## Texts -/

/-- The chunks of the bytes of characters are these characters. -/
private theorem chunks_go_flatMap (seen : List (Option Char)) (text : List Char) :
    chunks.go seen (text.flatMap String.utf8EncodeChar) = seen.reverse ++ text.map some := by
  induction text generalizing seen with
  | nil => simp [chunks.go]
  | cons c rest ih =>
    obtain ⟨lead, more, bytes, read⟩ :=
      chunk_utf8EncodeChar c (rest.flatMap String.utf8EncodeChar)
    rw [List.flatMap_cons, bytes, List.cons_append, chunks.go, read, ih]
    simp

/-- The chunks of a text's bytes are its characters. -/
theorem chunks_encode (text : String) : chunks (encode text) = text.toList.map some := by
  rw [chunks, encode, chunks_go_flatMap, List.reverse_nil, List.nil_append]

/-- The strict reading gives every text back. -/
@[simp] theorem decode?_encode (text : String) : decode? (encode text) = some text := by
  have read : (text.toList.map some).mapM id = some text.toList := by
    rw [List.mapM_map]
    simpa using List.mapM_pure (m := Option) (f := id) (l := text.toList)
  rw [decode?, chunks_encode, read, Option.map_some, String.ofList_toList]

/-- So no two texts have the same bytes. -/
theorem encode_injective : Function.Injective encode := by
  intro first second same
  apply Option.some.inj
  rw [← decode?_encode first, same, decode?_encode second]

end Quiesce.Utf8
