/-
# Numerals are read as they are spelled

A numeral is read as far as it goes. Every spelling of a numeral, followed by nothing
that carries it on, is read as that numeral; and whatever is read as a numeral was
spelled as one. The decimal digits of a number are a numeral without superfluous zeros.
-/

import Quiesce.Proofs.Json.Strings
import Quiesce.Proofs.Text.Digits

namespace Quiesce.Json

namespace Token

/-- What follows a numeral does not carry it on. -/
def EndsNumeral (rest : List UInt8) : Prop :=
  ∀ byte ∈ rest.head?, isDigit byte = false ∧ byte ≠ 0x2E ∧ byte ≠ 0x65 ∧ byte ≠ 0x45

theorem endsNumeral_nil : EndsNumeral [] := nofun

theorem endsNumeral_cons {byte : UInt8}
    (ends : isDigit byte = false ∧ byte ≠ 0x2E ∧ byte ≠ 0x65 ∧ byte ≠ 0x45) (rest : List UInt8) :
    EndsNumeral (byte :: rest) := by
  rintro _ ⟨⟩
  exact ends

/-! ## Digits -/

/-- The byte of a digit. -/
def digitByte (digit : Fin 10) : UInt8 :=
  UInt8.ofNat (0x30 + digit.val)

private theorem isDigit_digitByte : ∀ digit, isDigit (digitByte digit) = true := by decide

private theorem digitOf_digitByte : ∀ digit, digitOf (digitByte digit) = digit := by decide

private theorem utf8EncodeChar_digitChar : ∀ digit : Fin 10,
    String.utf8EncodeChar (Digits.digitChar digit) = [digitByte digit] := by decide

theorem octets_text (digits : Digits) : octets digits.text = digits.map digitByte := by
  induction digits with
  | nil => rfl
  | cons digit rest ih =>
    rw [Digits.text, List.map_cons, octets_cons, utf8EncodeChar_digitChar, ← Digits.text, ih]
    rfl

section

variable {rest : List UInt8}

/-- Digits are taken up to the first byte that is none. -/
private theorem takeDigits_append (digits : Digits)
    (ends : ∀ byte ∈ rest.head?, isDigit byte = false) :
    takeDigits (octets digits.text ++ rest) = (digits, rest) := by
  have all : ∀ byte ∈ octets digits.text, isDigit byte = true := by
    simp [octets_text, isDigit_digitByte]
  have noMore : rest.takeWhile isDigit = [] ∧ rest.dropWhile isDigit = rest := by
    cases rest with
    | nil => exact ⟨rfl, rfl⟩
    | cons byte rest => simp [ends byte rfl]
  have back : (octets digits.text).map digitOf = digits := by
    rw [octets_text, List.map_map]
    exact (List.map_congr_left fun digit _ => digitOf_digitByte digit).trans (List.map_id _)
  rw [takeDigits, List.takeWhile_append_of_pos all, List.dropWhile_append_of_pos all, noMore.1,
    noMore.2, List.append_nil, back]

/-- The first byte of a character is a digit only when the character is. -/
private theorem exists_digit_of_isDigit {c : Char} {lead : UInt8} {more : List UInt8}
    (encoded : String.utf8EncodeChar c = lead :: more) (isDigit : isDigit lead = true) :
    ∃ digit, c = Digits.digitChar digit := by
  have all : ∀ n < 0x80, Token.isDigit (UInt8.ofNat n) = true →
      ∃ digit, Char.ofNat n = Digits.digitChar digit := by decide
  rcases Nat.lt_or_ge c.toNat 0x80 with ascii | beyond
  · rw [utf8EncodeChar_of_ascii ascii] at encoded
    obtain ⟨rfl, -⟩ := List.cons.inj encoded
    obtain ⟨digit, same⟩ := all c.toNat ascii isDigit
    exact ⟨digit, (Char.ofNat_toNat c).symm.trans same⟩
  · obtain ⟨_, _, encodedAgain, large, -⟩ := utf8EncodeChar_of_not_ascii beyond
    obtain ⟨rfl, -⟩ := List.cons.inj (encoded.symm.trans encodedAgain)
    simp only [Token.isDigit, UInt8.le_iff_toNat_le, Bool.and_eq_true, decide_eq_true_eq] at isDigit
    have most : lead.toNat ≤ 0x39 := isDigit.2
    omega

/-- The digits taken of a text are its first characters. -/
private theorem exists_of_takeDigits (chars : List Char) :
    ∃ digits more, takeDigits (octets chars) = (digits, octets more) ∧
      chars = digits.text ++ more := by
  induction chars with
  | nil => exact ⟨[], [], rfl, rfl⟩
  | cons c chars ih =>
    obtain ⟨lead, more, encoded, -⟩ := Utf8.chunk_utf8EncodeChar c []
    cases digit : isDigit lead with
    | false =>
      refine ⟨[], c :: chars, ?_, rfl⟩
      rw [takeDigits, octets_cons, encoded]
      simp [digit]
    | true =>
      obtain ⟨value, rfl⟩ := exists_digit_of_isDigit encoded digit
      obtain ⟨digits, later, taken, rfl⟩ := ih
      refine ⟨value :: digits, later, ?_, rfl⟩
      obtain ⟨takenDigits, left⟩ := Prod.mk.inj taken
      rw [takeDigits, octets_cons, utf8EncodeChar_digitChar]
      simp only [List.singleton_append, List.takeWhile_cons, List.dropWhile_cons,
        isDigit_digitByte, if_true, List.map_cons, digitOf_digitByte, takenDigits, left]

private theorem someDigits?_append {digits : Digits} (given : digits ≠ [])
    (ends : ∀ byte ∈ rest.head?, isDigit byte = false) :
    someDigits? (octets digits.text ++ rest) = some (digits, rest) := by
  rw [someDigits?, takeDigits_append digits ends]
  cases digits with
  | nil => exact absurd rfl given
  | cons => rfl

private theorem exists_of_someDigits? {chars : List Char} {digits : Digits}
    (read : someDigits? (octets chars) = some (digits, rest)) :
    digits ≠ [] ∧ ∃ more, chars = digits.text ++ more ∧ rest = octets more := by
  obtain ⟨taken, more, found, rfl⟩ := exists_of_takeDigits chars
  rw [someDigits?, found] at read
  cases taken with
  | nil => cases read
  | cons digit taken =>
    obtain ⟨rfl, rfl⟩ := Prod.mk.inj (Option.some.inj read)
    exact ⟨List.cons_ne_nil _ _, more, rfl, rfl⟩

/-! ## The parts of a numeral -/

private theorem wholePart?_append {digits : Digits} (given : digits ≠ [])
    (noLeadingZero : ∀ digit more, digits ≠ 0 :: digit :: more)
    (ends : ∀ byte ∈ rest.head?, isDigit byte = false) :
    wholePart? (octets digits.text ++ rest) = some (digits, rest) := by
  rw [wholePart?, someDigits?_append given ends]
  split
  next digit more _ found =>
    obtain ⟨rfl, -⟩ := Prod.mk.inj (Option.some.inj found)
    exact absurd rfl (noLeadingZero digit more)
  · rfl

private theorem exists_of_wholePart? {chars : List Char} {digits : Digits}
    (read : wholePart? (octets chars) = some (digits, rest)) :
    digits ≠ [] ∧ (∀ digit more, digits ≠ 0 :: digit :: more) ∧
      ∃ more, chars = digits.text ++ more ∧ rest = octets more := by
  rw [wholePart?] at read
  split at read
  case h_1 => cases read
  next noLeadingZero =>
    obtain ⟨given, spelled⟩ := exists_of_someDigits? read
    refine ⟨given, ?_, spelled⟩
    rintro digit more rfl
    exact noLeadingZero _ _ _ read

private theorem fractionPart?_append (digits : Digits)
    (ends : ∀ byte ∈ rest.head?, isDigit byte = false ∧ byte ≠ 0x2E) :
    fractionPart? (octets (fractionText digits) ++ rest) = some (digits, rest) := by
  cases digits with
  | nil =>
    cases rest with
    | nil => rfl
    | cons byte rest =>
      have noPoint : byte ≠ 0x2E := (ends byte rfl).2
      simp [fractionText, fractionPart?, noPoint]
  | cons digit digits =>
    exact someDigits?_append (List.cons_ne_nil digit digits) fun byte next => (ends byte next).1

private theorem exists_of_fractionPart? {chars : List Char} {digits : Digits}
    (read : fractionPart? (octets chars) = some (digits, rest)) :
    ∃ more, chars = fractionText digits ++ more ∧ rest = octets more := by
  unfold fractionPart? at read
  split at read
  case h_2 =>
    obtain ⟨rfl, rfl⟩ := Prod.mk.inj (Option.some.inj read)
    exact ⟨chars, rfl, rfl⟩
  next later bytes =>
    have begins : octets chars = octets ['.'] ++ later := bytes
    obtain ⟨more, rfl, rfl⟩ := exists_of_octets_eq_append (by simp) begins
    obtain ⟨given, last, rfl, rfl⟩ := exists_of_someDigits? read
    cases digits with
    | nil => exact absurd rfl given
    | cons => exact ⟨last, rfl, rfl⟩

/-- No digit is the sign of an exponent. -/
private theorem exponentSign_digits {digits : Digits} (given : digits ≠ []) :
    exponentSign (octets digits.text ++ rest) = (false, octets digits.text ++ rest) := by
  have noSign : ∀ digit, digitByte digit ≠ 0x2B ∧ digitByte digit ≠ 0x2D := by decide
  cases digits with
  | nil => exact absurd rfl given
  | cons digit digits =>
    obtain ⟨noPlus, noMinus⟩ := noSign digit
    rw [octets_text, List.map_cons, List.cons_append]
    simp [exponentSign, noPlus, noMinus]

/-- The letter of an exponent is one byte. -/
private theorem exists_byte_of_mark {mark : Char} (marked : mark ∈ ['e', 'E']) :
    ∃ byte, String.utf8EncodeChar mark = [byte] ∧ (byte = 0x65 ∨ byte = 0x45) := by
  simp only [List.mem_cons, List.not_mem_nil, or_false] at marked
  rcases marked with rfl | rfl
  · exact ⟨0x65, rfl, .inl rfl⟩
  · exact ⟨0x45, rfl, .inr rfl⟩

private theorem exponentPart?_append {exponent : Option (Bool × Digits)} {text : List Char}
    (spelled : ExponentText exponent text) (given : ∀ negative, exponent ≠ some (negative, []))
    (ends : EndsNumeral rest) :
    exponentPart? (octets text ++ rest) = some (exponent, rest) := by
  cases spelled with
  | absent =>
    cases rest with
    | nil => rfl
    | cons byte rest =>
      have noExponent := (ends byte rfl).2.2
      simp [exponentPart?, noExponent]
  | @given negative mark sign marked signed digits =>
    have digitsGiven : digits ≠ [] := by
      rintro rfl
      exact given negative rfl
    have read := someDigits?_append digitsGiven fun byte next => (ends byte next).1
    obtain ⟨byte, encoded, isMark⟩ := exists_byte_of_mark marked
    have afterSign : exponentSign (octets (sign ++ digits.text) ++ rest) =
        (negative, octets digits.text ++ rest) := by
      rcases signed with rfl | ⟨rfl, rfl⟩
      · cases negative <;> rfl
      · exact exponentSign_digits digitsGiven
    rw [octets_cons, encoded, List.singleton_append, List.cons_append, exponentPart?, if_pos isMark,
      afterSign]
    simp [read]

private theorem exists_of_exponentSign (chars : List Char) :
    ∃ sign more, exponentSign (octets chars) = ((exponentSign (octets chars)).1, octets more) ∧
      chars = sign ++ more ∧
      (sign = [if (exponentSign (octets chars)).1 then '-' else '+'] ∨
        (exponentSign (octets chars)).1 = false ∧ sign = []) := by
  rcases signed : exponentSign (octets chars) with ⟨negative, later⟩
  unfold exponentSign at signed
  split at signed
  next later bytes =>
    obtain ⟨rfl, rfl⟩ := Prod.mk.inj signed
    have begins : octets chars = octets ['+'] ++ later := bytes
    obtain ⟨more, rfl, rfl⟩ := exists_of_octets_eq_append (by simp) begins
    exact ⟨['+'], more, rfl, rfl, .inl rfl⟩
  next later bytes =>
    obtain ⟨rfl, rfl⟩ := Prod.mk.inj signed
    have begins : octets chars = octets ['-'] ++ later := bytes
    obtain ⟨more, rfl, rfl⟩ := exists_of_octets_eq_append (by simp) begins
    exact ⟨['-'], more, rfl, rfl, .inl rfl⟩
  · obtain ⟨rfl, rfl⟩ := Prod.mk.inj signed
    exact ⟨[], chars, rfl, rfl, .inr ⟨rfl, rfl⟩⟩

private theorem exists_of_exponentPart? {chars : List Char} {exponent : Option (Bool × Digits)}
    (read : exponentPart? (octets chars) = some (exponent, rest)) :
    (∀ negative, exponent ≠ some (negative, [])) ∧ ∃ text more, ExponentText exponent text ∧
      chars = text ++ more ∧ rest = octets more := by
  unfold exponentPart? at read
  split at read
  next bytes =>
    obtain ⟨rfl, rfl⟩ := Prod.mk.inj (Option.some.inj read)
    exact ⟨by simp, [], chars, .absent, rfl, bytes.symm⟩
  next byte later bytes =>
    split at read
    case isFalse =>
      obtain ⟨rfl, rfl⟩ := Prod.mk.inj (Option.some.inj read)
      exact ⟨by simp, [], chars, .absent, rfl, bytes.symm⟩
    next isMark =>
      have marked : ∃ mark ∈ ['e', 'E'], octets [mark] = [byte] ∧ mark.toNat < 0x80 := by
        rcases isMark with rfl | rfl
        · exact ⟨'e', by simp, rfl, by simp⟩
        · exact ⟨'E', by simp, rfl, by simp⟩
      obtain ⟨mark, marked, encoded, ascii⟩ := marked
      have begins : octets chars = octets [mark] ++ later := by
        rw [bytes, encoded, List.singleton_append]
      obtain ⟨more, rfl, rfl⟩ := exists_of_octets_eq_append (by simpa using ascii) begins
      obtain ⟨sign, last, signed, rfl, isSign⟩ := exists_of_exponentSign more
      rw [signed] at read
      obtain ⟨⟨digits, left⟩, digitsRead, same⟩ := Option.map_eq_some_iff.mp read
      obtain ⟨rfl, rfl⟩ := Prod.mk.inj same
      obtain ⟨given, final, rfl, rfl⟩ := exists_of_someDigits? digitsRead
      refine ⟨?_, _, final, .given marked isSign digits, by simp, rfl⟩
      rintro negative same
      exact given (Prod.mk.inj (Option.some.inj same)).2

/-! ## Numerals -/

private theorem unsigned?_append {numeral : Numeral} {exponent : List Char}
    (regular : numeral.Regular) (spelled : ExponentText numeral.exponent exponent)
    (ends : EndsNumeral rest) :
    unsigned? numeral.negative
        (octets (numeral.whole.text ++ (fractionText numeral.fraction ++ exponent)) ++ rest) =
      some (.number numeral, rest) := by
  obtain ⟨negative, whole, fraction, exponentDigits⟩ := numeral
  -- Each part ends where the next begins, with a point, a mark, or what follows the numeral.
  have fractionEnds : ∀ byte ∈ (octets exponent ++ rest).head?,
      isDigit byte = false ∧ byte ≠ 0x2E := by
    cases spelled with
    | absent => exact fun byte next => ⟨(ends byte next).1, (ends byte next).2.1⟩
    | @given negative mark sign marked signed digits =>
      obtain ⟨byte, encoded, isMark⟩ := exists_byte_of_mark marked
      rw [octets_cons, encoded]
      rintro _ ⟨⟩
      rcases isMark with rfl | rfl <;> decide
  have wholeEnds : ∀ byte ∈ (octets (fractionText fraction) ++ (octets exponent ++ rest)).head?,
      isDigit byte = false := by
    cases fraction with
    | nil => exact fun byte next => (fractionEnds byte next).1
    | cons =>
      rintro byte ⟨⟩
      decide
  rw [octets_append, octets_append, List.append_assoc, List.append_assoc, unsigned?,
    wholePart?_append regular.whole_ne_nil regular.noLeadingZero wholeEnds]
  simp only [Option.bind_eq_bind, Option.bind_some]
  rw [fractionPart?_append fraction fractionEnds]
  simp only [Option.bind_some]
  rw [exponentPart?_append spelled regular.exponent_ne_nil ends]
  rfl

/-- What is read of a text after a sign, or none, is a numeral that was spelled so. -/
theorem exists_of_unsigned? {negative : Bool} {chars : List Char} {token : Token}
    (read : unsigned? negative (octets chars) = some (token, rest)) :
    ∃ numeral text more, token = .number numeral ∧ numeral.Spelled (signText negative ++ text) ∧
      chars = text ++ more ∧ rest = octets more := by
  simp only [unsigned?, Option.bind_eq_bind, Option.bind_eq_some_iff, Option.pure_def,
    Option.some.injEq, Prod.mk.injEq] at read
  obtain ⟨⟨whole, _⟩, wholeRead, ⟨fraction, _⟩, fractionRead, ⟨exponent, _⟩, exponentRead,
    rfl, rfl⟩ := read
  obtain ⟨given, noLeadingZero, _, rfl, rfl⟩ := exists_of_wholePart? wholeRead
  obtain ⟨_, rfl, rfl⟩ := exists_of_fractionPart? fractionRead
  obtain ⟨exponentGiven, text, more, spelled, rfl, rfl⟩ := exists_of_exponentPart? exponentRead
  exact ⟨_, _, more, rfl, ⟨⟨given, noLeadingZero, exponentGiven⟩, text, spelled, rfl⟩,
    by simp, rfl⟩

/-- A digit starts no token but a numeral. -/
private theorem first?_digitByte (digit : Fin 10) :
    first? (digitByte digit :: rest) = unsigned? false (digitByte digit :: rest) := by
  have noOther : ∀ digit, digitByte digit ∉
      [0x7B, 0x7D, 0x5B, 0x5D, 0x3A, 0x2C, 0x22, 0x6E, 0x74, 0x66, 0x2D] := by decide
  have noOther := noOther digit
  simp only [List.mem_cons, not_or] at noOther
  unfold first?
  split <;> grind

/-- Every spelling of a numeral is read as the numeral, when nothing carries it on. -/
theorem first?_numeral {numeral : Numeral} {text : List Char} (spelled : numeral.Spelled text)
    (ends : EndsNumeral rest) : first? (octets text ++ rest) = some (.number numeral, rest) := by
  obtain ⟨regular, exponent, exponentSpelled, rfl⟩ := spelled
  have read := unsigned?_append regular exponentSpelled ends
  cases sign : numeral.negative with
  | true =>
    rw [sign] at read
    exact read
  | false =>
    rw [sign] at read
    rw [signText, if_neg Bool.false_ne_true, List.nil_append, ← read]
    match given : numeral.whole, regular.whole_ne_nil with
    | digit :: more, _ =>
      rw [octets_append, octets_text, List.map_cons, List.cons_append, List.cons_append]
      exact first?_digitByte digit

end

/-- A spelled numeral starts with a digit or a sign, and so with no blank. -/
theorem exists_octets_of_numeral {numeral : Numeral} {text : List Char}
    (spelled : numeral.Spelled text) :
    ∃ byte more, octets text = byte :: more ∧ isBlank byte = false := by
  have noBlank : ∀ digit, isBlank (digitByte digit) = false := by decide
  obtain ⟨regular, exponent, -, rfl⟩ := spelled
  match sign : numeral.negative, given : numeral.whole, regular.whole_ne_nil with
  | true, _, _ => exact ⟨_, _, rfl, rfl⟩
  | false, digit :: more, _ =>
    rw [signText, if_neg Bool.false_ne_true, List.nil_append, octets_append, octets_text,
      List.map_cons, List.cons_append]
    exact ⟨_, _, rfl, noBlank digit⟩

end Token

/-! ## The numerals of natural numbers -/

namespace Numeral

theorem regular_ofNat (n : Nat) : (ofNat n).Regular := by
  have whole : (ofNat n).whole ≠ [] ∧ ∀ digit more, (ofNat n).whole ≠ 0 :: digit :: more := by
    cases n with
    | zero =>
      have zero : (ofNat 0).whole = [0] := Digits.ofNat_zero
      simp [zero]
    | succ n =>
      obtain ⟨digit, more, digits, nonzero⟩ := Digits.exists_ofNat_eq_cons (Nat.succ_pos n)
      simp [ofNat, digits, nonzero]
  exact ⟨whole.1, whole.2, fun _ => (Option.some_ne_none _).symm⟩

end Numeral

end Quiesce.Json
