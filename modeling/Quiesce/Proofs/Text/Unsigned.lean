/-
# The texts of unsigned numbers

`Unsigned.Spells` is the notation of unsigned numbers without the reader: perhaps a plus sign,
then at least one digit, and as many leading zeros as one likes. A number is read from
a text exactly when the text spells it and it fits its width.
-/

import Quiesce.Text.Unsigned

namespace Quiesce

namespace Digits

/-- A digit is read from its own character alone. -/
theorem digit?_eq_some_iff {c : Char} {digit : Fin 10} :
    digit? c = some digit ↔ c = digitChar digit := by
  constructor
  · intro read
    obtain ⟨⟨least, most⟩, same⟩ := Option.ite_none_right_eq_some.mp read
    obtain rfl := Option.some.inj same
    have all : ∀ n ≤ 57, 48 ≤ n → Char.ofNat n = digitChar (Fin.ofNat 10 (n - 48)) := by decide
    have spelled := all c.toNat most least
    rwa [Char.ofNat_toNat] at spelled
  · rintro rfl
    exact digit?_digitChar digit

/-- A run of digits is read from its own characters alone. -/
theorem ofText?_eq_some_iff {text : List Char} {digits : Digits} :
    ofText? text = some digits ↔ text = digits.text := by
  unfold ofText?
  induction text generalizing digits with
  | nil => cases digits <;> simp [Digits.text]
  | cons c rest ih =>
    have taken : (c :: rest).mapM digit? = some digits ↔ ∃ digit others,
        digit? c = some digit ∧ rest.mapM digit? = some others ∧ digit :: others = digits := by
      simp [List.mapM_cons, Option.bind_eq_some_iff]
    rw [taken]
    simp only [digit?_eq_some_iff, ih]
    cases digits <;> simp [Digits.text]

end Digits

namespace Unsigned

/-- A text spells a number: digits, perhaps after a plus sign. -/
def Spells (text : List Char) (n : Nat) : Prop :=
  ∃ digits : Digits, digits ≠ [] ∧ digits.value = n ∧
    (text = digits.text ∨ text = '+' :: digits.text)

/-- Digits are no plus sign. -/
private theorem dropPlus_text (digits : Digits) : dropPlus digits.text = digits.text := by
  cases digits with
  | nil => rfl
  | cons digit digits =>
    have noPlus : Digits.digitChar digit ≠ '+' := by
      revert digit
      decide
    rw [Digits.text, List.map_cons, dropPlus]
    simpa using noPlus

private theorem dropPlus_eq_text_iff {text : List Char} {digits : Digits} :
    dropPlus text = digits.text ↔ text = digits.text ∨ text = '+' :: digits.text := by
  constructor
  · intro same
    unfold dropPlus at same
    split at same
    · exact .inr (by rw [same])
    · exact .inl same
  · rintro (rfl | rfl)
    · exact dropPlus_text digits
    · rfl

theorem value?_eq_some_iff {text : String} {n : Nat} :
    value? text = some n ↔ Spells text.toList n := by
  have given : value? text = some n ↔ ∃ digits : Digits,
      digits ≠ [] ∧ digits.value = n ∧ Digits.ofText? (dropPlus text.toList) = some digits := by
    unfold value?
    cases Digits.ofText? (dropPlus text.toList) with
    | none => simp
    | some digits => cases digits <;> simp
  rw [given]
  simp only [Digits.ofText?_eq_some_iff, dropPlus_eq_text_iff]
  rfl

theorem below?_eq_some_iff {bound : Nat} {text : String} {n : Nat} :
    below? bound text = some n ↔ Spells text.toList n ∧ n < bound := by
  simp [below?, Option.filter_eq_some_iff, value?_eq_some_iff]

/-- A word is read from the texts that spell its number, and from no others. -/
private theorem map_below?_eq_some_iff {Word : Type} {ofNat : Nat → Word} {toNat : Word → Nat}
    {bound : Nat} (toNat_lt : ∀ word, toNat word < bound)
    (toNat_ofNat : ∀ n < bound, toNat (ofNat n) = n) (ofNat_toNat : ∀ word, ofNat (toNat word) = word)
    {text : String} {word : Word} :
    (below? bound text).map ofNat = some word ↔ Spells text.toList (toNat word) := by
  simp only [Option.map_eq_some_iff, below?_eq_some_iff]
  constructor
  · rintro ⟨n, ⟨spelled, small⟩, rfl⟩
    rwa [toNat_ofNat n small]
  · intro spelled
    exact ⟨toNat word, ⟨spelled, toNat_lt word⟩, ofNat_toNat word⟩

theorem read16?_eq_some_iff {text : String} {word : UInt16} :
    read16? text = some word ↔ Spells text.toList word.toNat :=
  map_below?_eq_some_iff UInt16.toNat_lt_size (fun _ => UInt16.toNat_ofNat_of_lt')
    fun _ => UInt16.ofNat_toNat

theorem read32?_eq_some_iff {text : String} {word : UInt32} :
    read32? text = some word ↔ Spells text.toList word.toNat :=
  map_below?_eq_some_iff UInt32.toNat_lt_size (fun _ => UInt32.toNat_ofNat_of_lt')
    fun _ => UInt32.ofNat_toNat

/-- A 64-bit number is read from the texts that spell it, and from no others. -/
theorem read64?_eq_some_iff {text : String} {word : UInt64} :
    read64? text = some word ↔ Spells text.toList word.toNat :=
  map_below?_eq_some_iff UInt64.toNat_lt_size (fun _ => UInt64.toNat_ofNat_of_lt')
    fun _ => UInt64.ofNat_toNat

end Unsigned

end Quiesce
