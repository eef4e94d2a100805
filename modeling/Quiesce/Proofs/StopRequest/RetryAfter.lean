/-
# How long the orchestrator asks to wait

A header value asks for a wait when it spells a number of seconds, perhaps between blanks.
`Asks` says so without the reader, which first refuses values that hold other characters than
visible ones and blanks, and then trims the blanks at both ends. Of several values only the
first is looked at.
-/

import Mathlib.Data.List.TakeWhile
import Quiesce.Proofs.Text.Unsigned
import Quiesce.StopRequest

namespace Quiesce

namespace Unsigned

/-- The characters of a number are digits and plus signs. -/
private theorem char_of_spells {text : List Char} {n : Nat} (spells : Spells text n) {c : Char}
    (among : c ∈ text) : c = '+' ∨ ∃ digit, c = Digits.digitChar digit := by
  have ofDigits {digits : Digits} (among : c ∈ digits.text) :
      ∃ digit, c = Digits.digitChar digit := by
    obtain ⟨digit, -, rfl⟩ := List.mem_map.mp among
    exact ⟨digit, rfl⟩
  obtain ⟨digits, -, -, rfl | rfl⟩ := spells
  · exact .inr (ofDigits among)
  · rcases List.mem_cons.mp among with plus | among
    · exact .inl plus
    · exact .inr (ofDigits among)

theorem ne_nil_of_spells {text : List Char} {n : Nat} (spells : Spells text n) : text ≠ [] := by
  obtain ⟨digits, given, -, rfl | rfl⟩ := spells
  · exact mt List.map_eq_nil_iff.mp given
  · exact List.cons_ne_nil _ _

/-- No character of a number is a blank, and all of them are visible. -/
theorem visible_of_spells {text : List Char} {n : Nat} (spells : Spells text n) {c : Char}
    (among : c ∈ text) : (c ≠ ' ' ∧ c ≠ '\t') ∧ Http.MediaType.isVisible c := by
  have ofDigit : ∀ digit : Fin 10, (Digits.digitChar digit ≠ ' ' ∧ Digits.digitChar digit ≠ '\t') ∧
      Http.MediaType.isVisible (Digits.digitChar digit) := by decide
  obtain rfl | ⟨digit, rfl⟩ := char_of_spells spells among
  · decide
  · exact ofDigit digit

end Unsigned

namespace StopRequest

/-- A header value asks to wait so many seconds. -/
def Asks (value : String) (seconds : Nat) : Prop :=
  ∃ before text after, value.toList = before ++ text ++ after ∧
    (∀ c ∈ before ++ after, c = ' ' ∨ c = '\t') ∧ Unsigned.Spells text seconds

/-! ## Trimming -/

section

variable {p : Char → Bool} {before text after : List Char}

/-- What is dropped in front of a text ends where the text begins. -/
private theorem dropWhile_append_margin (margin : ∀ c ∈ before, p c) (given : text ≠ [])
    (kept : ∀ c ∈ text, ¬ p c) : (before ++ (text ++ after)).dropWhile p = text ++ after := by
  rw [List.dropWhile_append_of_pos margin]
  cases text with
  | nil => exact absurd rfl given
  | cons c text => exact List.dropWhile_cons_of_neg (kept c List.mem_cons_self)

/-- Trimming takes the margins off and nothing else. -/
private theorem trim_append (before_margin : ∀ c ∈ before, p c) (after_margin : ∀ c ∈ after, p c)
    (given : text ≠ []) (kept : ∀ c ∈ text, ¬ p c) :
    (((before ++ text ++ after).dropWhile p).reverse.dropWhile p).reverse = text := by
  have fromEnd : (after.reverse ++ (text.reverse ++ [])).dropWhile p = text.reverse ++ [] :=
    dropWhile_append_margin (by simpa using after_margin) (by simpa using given)
      (by simpa using kept)
  rw [List.append_assoc, dropWhile_append_margin before_margin given kept, List.reverse_append]
  rw [List.append_nil] at fromEnd
  rw [fromEnd, List.reverse_reverse]

/-- What is trimmed was a text between margins. -/
private theorem exists_margins (p : Char → Bool) (text : List Char) :
    ∃ before after, text =
        before ++ ((text.dropWhile p).reverse.dropWhile p).reverse ++ after ∧
      ∀ c ∈ before ++ after, p c := by
  refine ⟨text.takeWhile p, ((text.dropWhile p).reverse.takeWhile p).reverse, ?_, ?_⟩
  · rw [List.append_assoc, ← List.reverse_append, List.takeWhile_append_dropWhile,
      List.reverse_reverse, List.takeWhile_append_dropWhile]
  · intro c among
    rcases List.mem_append.mp among with among | among
    · exact List.mem_takeWhile_imp among
    · exact List.mem_takeWhile_imp (List.mem_reverse.mp among)

end

/-! ## Reading -/

/-- Blanks and numbers are made of visible characters. -/
private theorem isVisible_of_asks {value : String} {seconds : Nat} (asks : Asks value seconds) :
    ∀ c ∈ value.toList, Http.MediaType.isVisible c := by
  obtain ⟨before, text, after, split, margins, spells⟩ := asks
  have blank {c : Char} (margin : c = ' ' ∨ c = '\t') : Http.MediaType.isVisible c := by
    obtain rfl | rfl := margin <;> decide
  intro c among
  rw [split, List.mem_append, List.mem_append] at among
  obtain (among | among) | among := among
  · exact blank (margins c (List.mem_append_left _ among))
  · exact (Unsigned.visible_of_spells spells among).2
  · exact blank (margins c (List.mem_append_right _ among))

/-- The wait that is read is the one that the first header value asks for. -/
theorem readRetryAfter_eq_some_iff {values : List String} {wait : Duration} :
    readRetryAfter values = some wait ↔
      ∃ value ∈ values.head?, ∃ seconds : UInt64,
        Asks value seconds.toNat ∧ wait = .ofSeconds seconds := by
  cases values with
  | nil => simp [readRetryAfter]
  | cons value rest =>
    simp only [List.head?_cons, Option.mem_def, Option.some.injEq, exists_eq_left', readRetryAfter]
    constructor
    · intro read
      obtain ⟨-, read⟩ := Option.ite_none_right_eq_some.mp read
      obtain ⟨seconds, number, rfl⟩ := Option.map_eq_some_iff.mp read
      have spells := Unsigned.read64?_eq_some_iff.mp number
      rw [String.toList_ofList] at spells
      obtain ⟨before, after, split, margins⟩ := exists_margins _ value.toList
      exact ⟨seconds, ⟨before, _, after, split, by simpa using margins, spells⟩, rfl⟩
    · rintro ⟨seconds, asks, rfl⟩
      have visible := isVisible_of_asks asks
      obtain ⟨before, text, after, split, margins, spells⟩ := asks
      have beforeBlank : ∀ c ∈ before, (c = ' ' || c = '\t') = true := by
        simpa using fun c among => margins c (List.mem_append_left after among)
      have afterBlank : ∀ c ∈ after, (c = ' ' || c = '\t') = true := by
        simpa using fun c among => margins c (List.mem_append_right before among)
      have trimmed := trim_append beforeBlank afterBlank (Unsigned.ne_nil_of_spells spells)
        (by simpa using fun c among => (Unsigned.visible_of_spells spells among).1)
      rw [if_pos (List.all_eq_true.mpr visible), split, trimmed,
        Unsigned.read64?_eq_some_iff.mpr (by rwa [String.toList_ofList])]
      rfl

end StopRequest

end Quiesce
