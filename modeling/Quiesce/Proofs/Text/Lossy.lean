/-
# What the lossy reading shows

A byte sequence is a text exactly when it is made of encodings of scalar values. The lossy
reading shows these as they are, and U+FFFD for each maximal ill-formed stretch in between: the
longest beginning of some encoding that stands there, or one byte that begins none. `Shows` says
this without the reader, in terms of the encoding alone, and `shows_decodeLossy` that the reader
follows it. So no stretch is dropped, and a sequence that is no text shows at least one U+FFFD.

Reading takes the longest run of bytes that fit after a first byte. A run that fits can always be
completed to an encoding, and whatever follows the first byte of an encoding fits.
-/

import Mathlib.Data.List.Basic
import Quiesce.Proofs.Text.Utf8

namespace Quiesce.Utf8

/-! ## What may follow a first byte -/

/-- Bytes fit after a first byte: there are at most `count`, the first lies within the bounds and
all others in `80..BF`. -/
def Fits : Nat → UInt8 → UInt8 → List UInt8 → Prop
  | _, _, _, [] => True
  | 0, _, _, _ :: _ => False
  | count + 1, low, high, byte :: rest => (low ≤ byte ∧ byte ≤ high) ∧ Fits count 0x80 0xBF rest

/-- The value after the bits of more bytes were added to it. -/
def addBits (value : Nat) (bytes : List UInt8) : Nat :=
  bytes.foldl (fun value byte => value * 64 + byte.toNat % 64) value

section

variable {count : Nat} {low high : UInt8}

/-- A part of what fits, fits. -/
theorem Fits.of_append {bytes more : List UInt8} (fits : Fits count low high (bytes ++ more)) :
    Fits count low high bytes := by
  induction bytes generalizing count low high with
  | nil => cases count <;> trivial
  | cons byte rest ih =>
    cases count with
    | zero => exact fits
    | succ count => exact ⟨fits.1, ih fits.2⟩

/-- What fits can be completed. -/
theorem Fits.exists_full {bytes : List UInt8} (fits : Fits count low high bytes)
    (bounds : low ≤ high) :
    ∃ more, Fits count low high (bytes ++ more) ∧ (bytes ++ more).length = count := by
  induction count generalizing low high bytes with
  | zero =>
    cases bytes with
    | nil => exact ⟨[], trivial, rfl⟩
    | cons byte rest => exact fits.elim
  | succ count ih =>
    cases bytes with
    | nil =>
      have nothing : Fits count 0x80 0xBF [] := by cases count <;> trivial
      obtain ⟨more, fits, full⟩ := ih nothing (by decide)
      exact ⟨low :: more, ⟨⟨UInt8.le_refl low, bounds⟩, fits⟩, congrArg Nat.succ full⟩
    | cons byte rest =>
      obtain ⟨more, rest, full⟩ := ih fits.2 (by decide)
      exact ⟨more, ⟨fits.1, rest⟩, congrArg Nat.succ full⟩

/-- Reading takes the longest run that fits. -/
theorem takeContinuation_spec (count : Nat) (low high : UInt8) (value : Nat)
    (bytes : List UInt8) :
    ∃ taken more owed, takeContinuation count low high value bytes =
        (owed, addBits value taken, more) ∧
      bytes = taken ++ more ∧ taken.length + owed = count ∧ Fits count low high taken ∧
      ∀ longer, longer <+: bytes → Fits count low high longer → longer.length ≤ taken.length := by
  induction count, low, high, value, bytes using takeContinuation.induct with
  | case1 low high value bytes =>
    refine ⟨[], bytes, 0, ?_, rfl, rfl, trivial, fun longer _ fits => ?_⟩
    · rw [takeContinuation]
      rfl
    · cases longer with
      | nil => exact Nat.le_refl _
      | cons byte rest => exact fits.elim
  | case2 count low high value =>
    refine ⟨[], [], count + 1, rfl, rfl, Nat.zero_add _, trivial, fun longer among _ => ?_⟩
    exact Nat.le_of_eq (congrArg List.length (List.prefix_nil.mp among))
  | case3 count low high value byte rest within ih =>
    obtain ⟨taken, more, owed, read, rfl, length, fits, longest⟩ := ih
    refine ⟨byte :: taken, more, owed, ?_, rfl, ?_, ⟨within, fits⟩, fun longer among fits => ?_⟩
    · rw [takeContinuation, if_pos within, read]
      rfl
    · rw [List.length_cons]
      omega
    · cases longer with
      | nil => exact Nat.zero_le _
      | cons first others =>
        obtain ⟨rfl, others_among⟩ := List.cons_prefix_cons.mp among
        exact Nat.succ_le_succ (longest others others_among fits.2)
  | case4 count low high value byte rest outside =>
    refine ⟨[], byte :: rest, count + 1, ?_, rfl, Nat.zero_add _, trivial,
      fun longer among fits => ?_⟩
    · rw [takeContinuation, if_neg outside]
      rfl
    · cases longer with
      | nil => exact Nat.le_refl _
      | cons first others =>
        obtain ⟨rfl, -⟩ := List.cons_prefix_cons.mp among
        exact absurd fits.1 outside

end

/-! ## Chunks that are scalar values -/

/-- What a first byte and the bounds after it are, by the number of bytes that follow. The bounds
keep out overlong forms, surrogates and values beyond the last one. -/
inductive Starts (lead low high : UInt8) : Nat → Prop where
  | one : lead.toNat < 0x80 → Starts lead low high 0
  | two : 0xC2 ≤ lead.toNat → lead.toNat < 0xE0 → 0x80 ≤ low.toNat → high.toNat ≤ 0xBF →
    Starts lead low high 1
  | three : 0xE0 ≤ lead.toNat → lead.toNat < 0xF0 → 0x80 ≤ low.toNat → high.toNat ≤ 0xBF →
    (lead.toNat = 0xE0 → 0xA0 ≤ low.toNat) → (lead.toNat = 0xED → high.toNat ≤ 0x9F) →
    Starts lead low high 2
  | four : 0xF0 ≤ lead.toNat → lead.toNat ≤ 0xF4 → 0x80 ≤ low.toNat → high.toNat ≤ 0xBF →
    (lead.toNat = 0xF0 → 0x90 ≤ low.toNat) → (lead.toNat = 0xF4 → high.toNat ≤ 0x8F) →
    Starts lead low high 3

private theorem starts_of_continuation? {lead low high : UInt8} {count : Nat}
    (found : continuation? lead = some ⟨count, low, high⟩) :
    Starts lead low high count ∧ low ≤ high := by
  simp only [continuation?, UInt8.lt_iff_toNat_lt, ← UInt8.toNat_inj, UInt8.toNat_ofNat] at found
  repeat' split at found
  all_goals cases found
  all_goals refine ⟨?_, by decide⟩
  · exact .one (by omega)
  · exact .two (by omega) (by omega) (by decide) (by decide)
  · exact .three (by omega) (by omega) (by decide) (by decide) (fun _ => by decide) (by omega)
  · exact .three (by omega) (by omega) (by decide) (by decide) (by omega) (fun _ => by decide)
  · exact .three (by omega) (by omega) (by decide) (by decide) (by omega) (by omega)
  · exact .four (by omega) (by omega) (by decide) (by decide) (fun _ => by decide) (by omega)
  · exact .four (by omega) (by omega) (by decide) (by decide) (by omega) (by omega)
  · exact .four (by omega) (by omega) (by decide) (by decide) (by omega) (fun _ => by decide)

/-- The bytes of a scalar value, by its number. -/
private theorem utf8EncodeChar_ofNat {n : Nat} (valid : n.isValidChar) :
    String.utf8EncodeChar (Char.ofNat n) =
      if n ≤ 0x7F then [UInt8.ofNat n]
      else if n ≤ 0x7FF then [UInt8.ofNat (n / 64 % 32 + 192), UInt8.ofNat (n % 64 + 128)]
      else if n ≤ 0xFFFF then
        [UInt8.ofNat (n / 4096 % 16 + 224), UInt8.ofNat (n / 64 % 64 + 128),
          UInt8.ofNat (n % 64 + 128)]
      else
        [UInt8.ofNat (n / 262144 % 8 + 240), UInt8.ofNat (n / 4096 % 64 + 128),
          UInt8.ofNat (n / 64 % 64 + 128), UInt8.ofNat (n % 64 + 128)] := by
  have number : (Char.ofNat n).val.toNat = n := by
    rw [Char.ofNat, dif_pos valid]
    rfl
  rw [String.utf8EncodeChar, number]

/-- A number that is a byte's. -/
private theorem ofNat_eq {n : Nat} (byte : UInt8) (same : n = byte.toNat) :
    UInt8.ofNat n = byte := by
  rw [same, UInt8.ofNat_toNat]

/-- A first byte and a full run that fits after it are the encoding of their value. -/
theorem utf8EncodeChar_addBits {lead low high : UInt8} {count : Nat} {taken : List UInt8}
    (found : continuation? lead = some ⟨count, low, high⟩) (fits : Fits count low high taken)
    (full : taken.length = count) :
    String.utf8EncodeChar (Char.ofNat (addBits (leadBits lead count) taken)) = lead :: taken := by
  obtain ⟨starts, -⟩ := starts_of_continuation? found
  cases starts with
  | one most =>
    obtain rfl := List.length_eq_zero_iff.mp full
    simp only [addBits, leadBits, List.foldl_nil]
    rw [utf8EncodeChar_ofNat (.inl (by omega)), if_pos (by omega), UInt8.ofNat_toNat]
  | two least most lower upper =>
    obtain ⟨first, rfl⟩ := List.length_eq_one_iff.mp full
    obtain ⟨⟨above, below⟩, -⟩ := fits
    rw [UInt8.le_iff_toNat_le] at above below
    simp only [addBits, leadBits, List.foldl_cons, List.foldl_nil]
    rw [utf8EncodeChar_ofNat (.inl (by omega)), if_neg (by omega), if_pos (by omega),
      ofNat_eq lead (by omega), ofNat_eq first (by omega)]
  | three least most lower upper noOverlong noSurrogate =>
    obtain ⟨first, second, rfl⟩ := List.length_eq_two.mp full
    obtain ⟨⟨above, below⟩, ⟨aboveNext, belowNext⟩, -⟩ := fits
    simp only [UInt8.le_iff_toNat_le, UInt8.toNat_ofNat] at above below aboveNext belowNext
    simp only [addBits, leadBits, List.foldl_cons, List.foldl_nil]
    rw [utf8EncodeChar_ofNat (by simp only [Nat.isValidChar]; omega), if_neg (by omega),
      if_neg (by omega), if_pos (by omega), ofNat_eq lead (by omega),
      ofNat_eq first (by omega), ofNat_eq second (by omega)]
  | four least most lower upper noOverlong inRange =>
    obtain ⟨first, second, third, rfl⟩ := List.length_eq_three.mp full
    obtain ⟨⟨above, below⟩, ⟨aboveNext, belowNext⟩, ⟨aboveLast, belowLast⟩, -⟩ := fits
    simp only [UInt8.le_iff_toNat_le, UInt8.toNat_ofNat] at above below aboveNext belowNext
    simp only [UInt8.le_iff_toNat_le, UInt8.toNat_ofNat] at aboveLast belowLast
    simp only [addBits, leadBits, List.foldl_cons, List.foldl_nil]
    rw [utf8EncodeChar_ofNat (by simp only [Nat.isValidChar]; omega), if_neg (by omega),
      if_neg (by omega), if_neg (by omega), ofNat_eq lead (by omega),
      ofNat_eq first (by omega), ofNat_eq second (by omega),
      ofNat_eq third (by omega)]

/-! ## Chunks -/

section

variable {lead : UInt8} {rest more : List UInt8} {c : Char}

/-- A chunk that is a scalar value is a first byte with a full run after it. -/
private theorem exists_full_of_chunk_some (read : chunk lead rest = (some c, more)) :
    ∃ count low high taken, continuation? lead = some ⟨count, low, high⟩ ∧ rest = taken ++ more ∧
      Fits count low high taken ∧ taken.length = count ∧
      c = Char.ofNat (addBits (leadBits lead count) taken) := by
  unfold chunk at read
  cases found : continuation? lead with
  | none =>
    rw [found] at read
    cases read
  | some continuation =>
    obtain ⟨count, low, high⟩ := continuation
    obtain ⟨taken, left, owed, taking, rfl, length, fits, -⟩ :=
      takeContinuation_spec count low high (leadBits lead count) rest
    simp only [found, taking] at read
    cases owed with
    | succ owed => cases read
    | zero =>
      cases read
      exact ⟨count, low, high, taken, rfl, rfl, fits, length, rfl⟩

/-- It is the encoding of the scalar value. -/
theorem eq_of_chunk_some (read : chunk lead rest = (some c, more)) :
    lead :: rest = String.utf8EncodeChar c ++ more := by
  obtain ⟨count, low, high, taken, found, rfl, fits, full, rfl⟩ := exists_full_of_chunk_some read
  rw [utf8EncodeChar_addBits found fits full, List.cons_append]

/-- What begins with the encoding of a scalar value is read as it. -/
theorem chunk_of_eq (same : lead :: rest = String.utf8EncodeChar c ++ more) :
    chunk lead rest = (some c, more) := by
  obtain ⟨first, others, bytes, read⟩ := chunk_utf8EncodeChar c more
  rw [bytes, List.cons_append] at same
  obtain ⟨rfl, rfl⟩ := List.cons.inj same
  exact read

/-- No encoding is the beginning of another one. -/
private theorem utf8EncodeChar_append_inj {d : Char} {left right : List UInt8}
    (same : String.utf8EncodeChar c ++ left = String.utf8EncodeChar d ++ right) :
    c = d ∧ left = right := by
  obtain ⟨first, others, bytes, read⟩ := chunk_utf8EncodeChar c left
  have whole : first :: (others ++ left) = String.utf8EncodeChar d ++ right := by
    rw [← same, bytes, List.cons_append]
  rw [chunk_of_eq whole] at read
  obtain ⟨sameChar, rfl⟩ := Prod.mk.inj read
  exact ⟨(Option.some.inj sameChar).symm, rfl⟩

/-! ## Ill-formed stretches -/

/-- Bytes with which the encoding of some scalar value begins. -/
def Begins (bytes : List UInt8) : Prop :=
  ∃ c, bytes <+: String.utf8EncodeChar c

/-- A maximal ill-formed stretch at the front of other bytes: no encoding stands there, and the
stretch is the longest beginning of one, or a single byte if there is none. -/
structure IllFormed (stretch rest : List UInt8) : Prop where
  noChar : ∀ c, ¬ String.utf8EncodeChar c <+: stretch ++ rest
  nonempty : stretch ≠ []
  begins : Begins stretch ∨ stretch.length = 1
  longest : ∀ longer, longer <+: stretch ++ rest → stretch.length < longer.length → ¬ Begins longer

/-- Bytes begin an encoding when the first one starts any and the others fit after it. -/
theorem begins_cons_iff {bytes : List UInt8} : Begins (lead :: bytes) ↔
    ∃ count low high, continuation? lead = some ⟨count, low, high⟩ ∧ Fits count low high bytes := by
  constructor
  · rintro ⟨c, others, same⟩
    have read : chunk lead (bytes ++ others) = (some c, []) :=
      chunk_of_eq (same.trans (List.append_nil _).symm)
    obtain ⟨count, low, high, taken, found, whole, fits, -⟩ := exists_full_of_chunk_some read
    rw [List.append_nil] at whole
    exact ⟨count, low, high, found, (whole ▸ fits).of_append⟩
  · rintro ⟨count, low, high, found, fits⟩
    obtain ⟨-, bounds⟩ := starts_of_continuation? found
    obtain ⟨more, fits, full⟩ := fits.exists_full bounds
    exact ⟨_, more, (utf8EncodeChar_addBits found fits full).symm⟩

/-- A chunk that is no scalar value is a maximal ill-formed stretch. -/
theorem exists_illFormed_of_chunk_none (read : chunk lead rest = (none, more)) :
    ∃ taken, rest = taken ++ more ∧ IllFormed (lead :: taken) more := by
  have noChar (c : Char) : ¬ String.utf8EncodeChar c <+: lead :: rest := by
    rintro ⟨left, same⟩
    rw [chunk_of_eq same.symm] at read
    cases read
  unfold chunk at read
  cases found : continuation? lead with
  | none =>
    rw [found] at read
    cases read
    refine ⟨[], rfl, noChar, nofun, .inr rfl, fun longer among more => ?_⟩
    cases longer with
    | nil => cases more
    | cons first others =>
      obtain ⟨rfl, -⟩ := List.cons_prefix_cons.mp among
      rw [begins_cons_iff]
      rintro ⟨count, low, high, starts, -⟩
      rw [found] at starts
      cases starts
  | some continuation =>
    obtain ⟨count, low, high⟩ := continuation
    obtain ⟨taken, left, owed, taking, rfl, length, fits, longest⟩ :=
      takeContinuation_spec count low high (leadBits lead count) rest
    simp only [found, taking] at read
    cases owed with
    | zero => cases read
    | succ owed =>
      cases read
      have begins : Begins (lead :: taken) :=
        begins_cons_iff.mpr ⟨count, low, high, found, fits⟩
      refine ⟨taken, rfl, noChar, nofun, .inl begins, fun longer among more => ?_⟩
      cases longer with
      | nil => cases more
      | cons first others =>
        obtain ⟨rfl, othersAmong⟩ := List.cons_prefix_cons.mp among
        rw [begins_cons_iff]
        rintro ⟨_, _, _, starts, fitsLonger⟩
        rw [found] at starts
        cases starts
        have shorter := longest others othersAmong fitsLonger
        simp only [List.length_cons] at more
        omega

/-- There is only one maximal ill-formed stretch at the front of a sequence. -/
private theorem IllFormed.eq_of_append_eq {stretch other left right : List UInt8}
    (first : IllFormed stretch left) (second : IllFormed other right)
    (same : stretch ++ left = other ++ right) : stretch = other ∧ left = right := by
  have notShorter {stretch other left right : List UInt8} (first : IllFormed stretch left)
      (second : IllFormed other right) (same : stretch ++ left = other ++ right) :
      ¬ stretch.length < other.length := by
    intro shorter
    have among : other <+: stretch ++ left := ⟨right, same.symm⟩
    have single := second.begins.resolve_left (first.longest other among shorter)
    have positive := List.length_pos_iff.mpr first.nonempty
    omega
  have sameLength : stretch.length = other.length := by
    have least := notShorter first second same
    have most := notShorter second first same.symm
    omega
  exact List.append_inj same sameLength

end

/-! ## Whole sequences -/

/-- What a byte sequence shows: every encoding its scalar value, and every maximal ill-formed
stretch U+FFFD. -/
inductive Shows : List UInt8 → List Char → Prop where
  | nil : Shows [] []
  | char (c : Char) {rest : List UInt8} {text : List Char} : Shows rest text →
    Shows (String.utf8EncodeChar c ++ rest) (c :: text)
  | illFormed {stretch rest : List UInt8} {text : List Char} : IllFormed stretch rest →
    Shows rest text → Shows (stretch ++ rest) ('\uFFFD' :: text)

section

variable {lead : UInt8} {rest : List UInt8} {text : List Char}

private theorem shows_nil_iff : Shows [] text ↔ text = [] := by
  constructor
  · intro shows
    generalize none : ([] : List UInt8) = bytes at shows
    cases shows with
    | nil => rfl
    | char c =>
      obtain ⟨lead, others, bytes, -⟩ := chunk_utf8EncodeChar c []
      rw [bytes] at none
      nomatch none
    | illFormed illFormed => exact absurd (List.append_eq_nil_iff.mp none.symm).1 illFormed.nonempty
  · rintro rfl
    exact .nil

/-- What a sequence shows is what its first chunk shows, and then the rest of it. -/
private theorem shows_cons_iff : Shows (lead :: rest) text ↔
    ∃ more, text = (chunk lead rest).1.getD '\uFFFD' :: more ∧ Shows (chunk lead rest).2 more := by
  constructor
  · intro shows
    generalize whole : lead :: rest = bytes at shows
    cases shows with
    | nil => nomatch whole
    | char c shows => exact ⟨_, by rw [chunk_of_eq whole]; rfl, by rwa [chunk_of_eq whole]⟩
    | @illFormed stretch others more illFormed shows =>
      rcases chunked : chunk lead rest with ⟨_ | c, left⟩
      · obtain ⟨taken, rfl, first⟩ := exists_illFormed_of_chunk_none chunked
        obtain ⟨-, rfl⟩ := first.eq_of_append_eq illFormed whole
        exact ⟨more, rfl, shows⟩
      · have begins := whole.symm.trans (eq_of_chunk_some chunked)
        exact absurd ⟨left, begins.symm⟩ (illFormed.noChar c)
  · rintro ⟨more, rfl, shows⟩
    rcases chunked : chunk lead rest with ⟨_ | c, left⟩
    · rw [chunked] at shows
      obtain ⟨taken, rfl, illFormed⟩ := exists_illFormed_of_chunk_none chunked
      exact .illFormed illFormed shows
    · rw [chunked] at shows
      rw [eq_of_chunk_some chunked]
      exact .char c shows

end

/-- A sequence shows its chunks and nothing else. -/
private theorem exists_chunks_go (seen : List (Option Char)) (bytes : List UInt8) :
    ∃ more, chunks.go seen bytes = seen.reverse ++ more ∧
      ∀ text, Shows bytes text ↔ text = more.map (·.getD '\uFFFD') := by
  induction seen, bytes using chunks.go.induct with
  | case1 seen => exact ⟨[], by rw [chunks.go, List.append_nil], fun text => shows_nil_iff⟩
  | case2 seen lead rest ih =>
    obtain ⟨more, read, shows⟩ := ih
    refine ⟨(chunk lead rest).1 :: more, ?_, fun text => ?_⟩
    · rw [chunks.go, read, List.reverse_cons, List.append_assoc, List.singleton_append]
    · rw [shows_cons_iff]
      simp only [shows, exists_eq_right, List.map_cons]

section

variable {bytes : List UInt8} {text : List Char}

/-- The lossy reading is what a sequence shows. -/
theorem shows_iff : Shows bytes text ↔ text = (decodeLossy bytes).toList := by
  obtain ⟨more, read, shows⟩ := exists_chunks_go [] bytes
  rw [decodeLossy, chunks, read, String.toList_ofList]
  exact shows text

/-- What a sequence shows is its text, unless U+FFFD is shown. -/
private theorem Shows.eq_encode_or_mem (shows : Shows bytes text) :
    bytes = encode (String.ofList text) ∨ '\uFFFD' ∈ text := by
  simp only [encode, String.toList_ofList]
  induction shows with
  | nil => exact .inl rfl
  | char c _ ih =>
    refine ih.imp (fun same => ?_) (List.mem_cons_of_mem c)
    rw [List.flatMap_cons, ← same]
  | illFormed => exact .inr List.mem_cons_self

/-- A sequence that is no text shows U+FFFD. -/
theorem mem_decodeLossy_of_ne_encode (noText : ∀ text, bytes ≠ encode text) :
    '\uFFFD' ∈ (decodeLossy bytes).toList :=
  (shows_iff.mpr rfl).eq_encode_or_mem.resolve_left (noText _)

end

/-! ## Cut texts -/

/-- Where one text begins with another one, the bytes beyond that are a text again. -/
private theorem exists_of_flatMap_append_eq {before text : List Char} {rest : List UInt8}
    (same : before.flatMap String.utf8EncodeChar ++ rest = text.flatMap String.utf8EncodeChar) :
    ∃ more : List Char, rest = more.flatMap String.utf8EncodeChar := by
  induction before generalizing text with
  | nil => exact ⟨text, same⟩
  | cons c before ih =>
    rw [List.flatMap_cons, List.append_assoc] at same
    cases text with
    | nil =>
      obtain ⟨lead, others, bytes, -⟩ := chunk_utf8EncodeChar c []
      rw [bytes] at same
      nomatch same
    | cons d text =>
      rw [List.flatMap_cons] at same
      exact ih (utf8EncodeChar_append_inj same).2

/-- A text that is cut within one of its characters is no text. -/
theorem take_ne_encode_of_cut {before : String} {c : Char} {after : List UInt8} {limit : Nat}
    (begun : (encode before).length < limit)
    (unfinished : limit < (encode before).length + (String.utf8EncodeChar c).length)
    (text : String) :
    (encode before ++ String.utf8EncodeChar c ++ after).take limit ≠ encode text := by
  intro same
  have inside : limit - (encode before).length < (String.utf8EncodeChar c).length := by omega
  rw [List.append_assoc, List.take_append, List.take_of_length_le (Nat.le_of_lt begun),
    List.take_append_of_le_length (Nat.le_of_lt inside)] at same
  obtain ⟨_ | ⟨d, more⟩, part⟩ := exists_of_flatMap_append_eq same
  · have none := congrArg List.length part
    simp only [List.length_take, List.flatMap_nil, List.length_nil] at none
    omega
  · rw [List.flatMap_cons] at part
    -- The part begins with a whole encoding, which would begin the longer one it is cut from.
    have whole : String.utf8EncodeChar c ++ [] = String.utf8EncodeChar d ++
        (more.flatMap String.utf8EncodeChar ++
          (String.utf8EncodeChar c).drop (limit - (encode before).length)) := by
      rw [← List.append_assoc, ← part, List.take_append_drop, List.append_nil]
    have none := congrArg List.length (utf8EncodeChar_append_inj whole).2
    simp only [List.length_nil, List.length_append, List.length_drop] at none
    omega

end Quiesce.Utf8
