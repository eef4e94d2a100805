/-
# Reading UTF-8

A byte sequence is cut into chunks: each chunk is one scalar value, or one
maximal ill-formed stretch, that is, the longest beginning of a scalar value's
encoding that the next byte breaks off. The lossy reading shows U+FFFD for each
ill-formed stretch; the strict reading refuses a text that has one.
-/

namespace Quiesce.Utf8

/-- How an encoding goes on after its first byte: the number of bytes that
follow, and the bounds of the first of them. All later ones lie in `80..BF`. -/
structure Continuation where
  count : Nat
  low : UInt8
  high : UInt8
  deriving DecidableEq, Repr

/-- What has to follow a first byte; `none` for a byte that starts nothing.
The bounds after `E0`, `ED`, `F0` and `F4` keep out overlong forms, surrogates
and values beyond U+10FFFF. -/
def continuation? (lead : UInt8) : Option Continuation :=
  if lead < 0x80 then some ⟨0, 0x80, 0xBF⟩
  else if lead < 0xC2 then none
  else if lead < 0xE0 then some ⟨1, 0x80, 0xBF⟩
  else if lead = 0xE0 then some ⟨2, 0xA0, 0xBF⟩
  else if lead = 0xED then some ⟨2, 0x80, 0x9F⟩
  else if lead < 0xF0 then some ⟨2, 0x80, 0xBF⟩
  else if lead = 0xF0 then some ⟨3, 0x90, 0xBF⟩
  else if lead < 0xF4 then some ⟨3, 0x80, 0xBF⟩
  else if lead = 0xF4 then some ⟨3, 0x80, 0x8F⟩
  else none

/-- The part of the value that the first byte carries. -/
def leadBits (lead : UInt8) (count : Nat) : Nat :=
  match count with
  | 0 => lead.toNat
  | 1 => lead.toNat % 0x20
  | 2 => lead.toNat % 0x10
  | _ => lead.toNat % 0x08

/-- Take at most `count` continuation bytes, the first within the given bounds.
Returns how many are still owed, the value read so far, and the rest. -/
def takeContinuation : Nat → UInt8 → UInt8 → Nat → List UInt8 → Nat × Nat × List UInt8
  | 0, _, _, value, bytes => (0, value, bytes)
  | count + 1, _, _, value, [] => (count + 1, value, [])
  | count + 1, low, high, value, byte :: rest =>
    if low ≤ byte ∧ byte ≤ high then
      takeContinuation count 0x80 0xBF (value * 64 + byte.toNat % 64) rest
    else (count + 1, value, byte :: rest)

/-- Taking continuation bytes never lengthens what is left to read. -/
theorem takeContinuation_rest_length (count : Nat) (low high : UInt8) (value : Nat)
    (bytes : List UInt8) :
    (takeContinuation count low high value bytes).2.2.length ≤ bytes.length := by
  fun_induction takeContinuation count low high value bytes with
  | case1 => simp
  | case2 => simp
  | case3 _ _ _ _ _ _ _ ih => exact Nat.le_succ_of_le ih
  | case4 => simp

/-- The first chunk of a non-empty sequence and the bytes after it: the scalar
value, or `none` for an ill-formed stretch. -/
def chunk (lead : UInt8) (rest : List UInt8) : Option Char × List UInt8 :=
  match continuation? lead with
  | none => (none, rest)
  | some ⟨count, low, high⟩ =>
    match takeContinuation count low high (leadBits lead count) rest with
    | (0, value, rest) => (some (Char.ofNat value), rest)
    | (_ + 1, _, rest) => (none, rest)

/-- A chunk holds at least its first byte. -/
theorem chunk_rest_length (lead : UInt8) (rest : List UInt8) :
    (chunk lead rest).2.length ≤ rest.length := by
  unfold chunk
  split
  · exact Nat.le_refl _
  · next count low high _ =>
    have bound := takeContinuation_rest_length count low high (leadBits lead count) rest
    split <;> simp_all

/-- All chunks of a byte sequence, in order. -/
def chunks (bytes : List UInt8) : List (Option Char) :=
  go [] bytes
where
  /-- Chunks already read are kept in reverse. -/
  go (seen : List (Option Char)) : List UInt8 → List (Option Char)
    | [] => seen.reverse
    | lead :: rest => go ((chunk lead rest).1 :: seen) (chunk lead rest).2
  termination_by bytes => bytes.length
  decreasing_by
    have := chunk_rest_length lead rest
    simp only [List.length_cons]
    omega

/-- The lossy reading: one U+FFFD for each ill-formed stretch. -/
def decodeLossy (bytes : List UInt8) : String :=
  String.ofList ((chunks bytes).map (·.getD '\uFFFD'))

/-- The strict reading: `none` when any stretch is ill-formed. -/
def decode? (bytes : List UInt8) : Option String :=
  ((chunks bytes).mapM id).map String.ofList

/-- The bytes of a text. -/
def encode (text : String) : List UInt8 :=
  text.toList.flatMap String.utf8EncodeChar

end Quiesce.Utf8
