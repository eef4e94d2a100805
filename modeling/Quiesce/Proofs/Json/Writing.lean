/-
# Written values are read back

The compact text of a value is one of the texts that spell it, by induction on the value. A
string needs nothing for that, however it is escaped; a numeral has to be as JSON has it. So
a reader that finds what is spelled reads every such value back from its text.
-/

import Quiesce.Proofs.Json.Reading

namespace Quiesce.Json

/-- A value all of whose numerals are regular. -/
inductive Regular : Json → Prop where
  | null : Regular .null
  | boolean (value : Bool) : Regular (.boolean value)
  | number {numeral : Numeral} (regular : numeral.Regular) : Regular (.number numeral)
  | string (text : String) : Regular (.string text)
  | array {items : List Json} (regular : ∀ item ∈ items, Regular item) : Regular (.array items)
  | object {members : List (String × Json)} (regular : ∀ member ∈ members, Regular member.2) :
    Regular (.object members)

/-! ## Tokens -/

/-- The part as which a character is written: a control that has no letter to stand for it is
given by its code unit. -/
def Part.ofChar (c : Char) : Part :=
  if c.toNat < 0x20 ∧ c ∉ ['\n', '\r', '\t', '\x08', '\x0c'] then .unit c.toNat else .char c

/-- A control is escaped by its two hexadecimal digits after two zeros. -/
private theorem spelled_controlEscape {c : Char} (control : c.toNat < 0x20) :
    Part.Spelled (.unit c.toNat) (controlEscape c) := by
  have zero : IsHexDigit '0' 0 := ⟨by decide, .inl rfl⟩
  have high : IsHexDigit (Hex.lower (c.toNat / 16)) (c.toNat / 16) := ⟨by omega, .inl rfl⟩
  have low : IsHexDigit (Hex.lower (c.toNat % 16)) (c.toNat % 16) := ⟨by omega, .inl rfl⟩
  have value : ((0 * 16 + 0) * 16 + c.toNat / 16) * 16 + c.toNat % 16 = c.toNat := by omega
  have spelled := Part.Spelled.unit zero zero high low
  rwa [value] at spelled

private theorem spelled_escapeChar (c : Char) : (Part.ofChar c).Spelled (escapeChar c) := by
  unfold escapeChar
  split
  case h_8 noQuote noBackslash noNewline noReturn noTab noBackspace noFormFeed =>
    have letterless : c ∉ ['\n', '\r', '\t', '\x08', '\x0c'] := by
      simp only [List.mem_cons, List.not_mem_nil, or_false, not_or]
      exact ⟨noNewline, noReturn, noTab, noBackspace, noFormFeed⟩
    by_cases control : c.toNat < 0x20
    · rw [Part.ofChar, if_pos ⟨control, letterless⟩, if_pos control]
      exact spelled_controlEscape control
    · rw [Part.ofChar, if_neg fun coded => control coded.1, if_neg control]
      exact .plain (Nat.le_of_not_lt control) noQuote noBackslash
  all_goals exact .letter (by decide)

/-- What is written of characters is a literal. -/
private theorem literal_flatMap (chars : List Char) :
    Literal (chars.flatMap escapeChar) (chars.map Part.ofChar) := by
  induction chars with
  | nil => exact .nil
  | cons c rest ih => exact .cons (spelled_escapeChar c) ih

/-- It denotes the characters themselves. -/
private theorem denotes_map (chars : List Char) : Denotes (chars.map Part.ofChar) chars := by
  induction chars with
  | nil => exact .nil
  | cons c rest ih =>
    rw [List.map_cons, Part.ofChar]
    split
    next control =>
      have unit : Denotes (.unit c.toNat :: rest.map Part.ofChar) (Char.ofNat c.toNat :: rest) :=
        .unit (.inl (by omega)) ih
      rwa [Char.ofNat_toNat] at unit
    next => exact .char c ih

/-- A written string spells its text. -/
theorem Token.spelled_stringText (text : String) :
    Token.Spelled (.string (some text)) (stringText text) := by
  refine .string (literal_flatMap text.toList) fun content => ?_
  -- Parts denote one text at most, because reading them gives one.
  have read := (Piece.text?_eq_some_iff _ text).mpr (denotes_map text.toList)
  rw [← read]
  exact Piece.text?_eq_some_iff _ content

/-- A regular numeral is spelled as it is written. -/
theorem Numeral.Regular.spelled_text {numeral : Numeral} (regular : numeral.Regular) :
    numeral.Spelled numeral.text := by
  obtain ⟨negative, whole, fraction, exponent⟩ := numeral
  cases exponent with
  | none =>
    refine ⟨regular, [], .absent, ?_⟩
    cases fraction <;> simp [text, signText, fractionText]
  | some exponent =>
    obtain ⟨below, digits⟩ := exponent
    have given : ExponentText (some (below, digits))
        ('e' :: ([if below then '-' else '+'] ++ digits.text)) :=
      .given (by decide) (.inl rfl) digits
    refine ⟨regular, _, given, ?_⟩
    cases fraction <;> simp [text, signText, fractionText]

/-! ## Rows of tokens -/

namespace Lexed

variable {text more : List Char} {tokens later : List Token} {token : Token}

/-- Rows of tokens are put after one another. -/
theorem append (lexed : Lexed text tokens) (rest : Lexed more later) :
    Lexed (text ++ more) (tokens ++ later) := by
  induction lexed with
  | nil => exact rest
  | blank isBlank _ ih => exact .blank isBlank ih
  | token spelled _ ih =>
    rw [List.append_assoc]
    exact .token spelled ih

/-- A token by itself is a row. -/
theorem of_spelled (spelled : token.Spelled text) : Lexed text [token] := by
  have lexed := Lexed.token spelled .nil
  rwa [List.append_nil] at lexed

/-- A token of one character may stand in front. -/
theorem cons {c : Char} (spelled : token.Spelled [c]) (rest : Lexed more later) :
    Lexed (c :: more) (token :: later) :=
  .token spelled rest

end Lexed

private theorem lexed_itemsText {items : List Json}
    (each : ∀ item ∈ items, Lexed item.text (Draft.ofJson item).tokens) :
    Lexed (itemsText items) (Draft.itemsTokens (Draft.ofItems items)) := by
  induction items with
  | nil => exact .nil
  | cons item more ih =>
    obtain ⟨first, each⟩ := List.forall_mem_cons.mp each
    cases more with
    | nil => exact first
    | cons second more => exact first.append (.cons .comma (ih each))

private theorem lexed_membersText {members : List (String × Json)}
    (each : ∀ member ∈ members, Lexed member.2.text (Draft.ofJson member.2).tokens) :
    Lexed (membersText members) (Draft.membersTokens (Draft.ofMembers members)) := by
  induction members with
  | nil => exact .nil
  | cons member more ih =>
    obtain ⟨name, value⟩ := member
    obtain ⟨first, each⟩ := List.forall_mem_cons.mp each
    have named := Token.spelled_stringText name
    cases more with
    | nil => exact .token named (.cons .colon first)
    | cons second more =>
      exact .token named (.cons .colon (first.append (.cons .comma (ih each))))

/-- The compact text of a regular value consists of the tokens of the value. -/
theorem Regular.lexed_text {value : Json} (regular : value.Regular) :
    Lexed value.text (Draft.ofJson value).tokens := by
  induction regular with
  | null => exact .of_spelled .null
  | boolean value =>
    cases value with
    | true => exact .of_spelled (.boolean true)
    | false => exact .of_spelled (.boolean false)
  | number regular => exact .of_spelled (.number regular.spelled_text)
  | string text => exact .of_spelled (Token.spelled_stringText text)
  | array _ each =>
    exact .cons .openArray ((lexed_itemsText each).append (.of_spelled .closeArray))
  | object _ each =>
    exact .cons .openObject ((lexed_membersText each).append (.of_spelled .closeObject))

/-! ## Whole values -/

namespace Draft

mutual

/-- The draft of a value that is known in full is whole. -/
theorem whole_ofJson : ∀ value : Json, (ofJson value).Whole
  | .null => .null
  | .boolean value => .boolean value
  | .number numeral => .number numeral
  | .string text => .string (some text)
  | .array items => .array (whole_of_mem_ofItems items)
  | .object members => .object (whole_of_mem_ofMembers members)

private theorem whole_of_mem_ofItems : ∀ items : List Json, ∀ item ∈ ofItems items, item.Whole
  | [] => List.forall_mem_nil _
  | item :: rest => List.forall_mem_cons.mpr ⟨whole_ofJson item, whole_of_mem_ofItems rest⟩

private theorem whole_of_mem_ofMembers : ∀ members : List (String × Json),
    ∀ member ∈ ofMembers members, member.2.Whole
  | [] => List.forall_mem_nil _
  | (_, value) :: rest =>
    List.forall_mem_cons.mpr ⟨whole_ofJson value, whole_of_mem_ofMembers rest⟩

end

/-- A regular value is spelled by its compact text. -/
theorem spelledBy_render {value : Json} (regular : value.Regular) :
    (ofJson value).SpelledBy value.render := by
  refine ⟨whole_ofJson value, ?_⟩
  rw [render, String.toList_ofList]
  exact regular.lexed_text

/-- A regular value is read back from its text, which holds nothing else. -/
theorem readWhole_render {value : Json} (regular : value.Regular) :
    readWhole (Utf8.encode value.render) = (.ofJson value, true) :=
  (readWhole_eq_iff.mpr (spelledBy_render regular)).1

/-- The first value of its text is the value itself. -/
theorem read_render {value : Json} (regular : value.Regular) :
    Draft.read (Utf8.encode value.render) = .ofJson value := by
  have first (bytes : List UInt8) : Draft.read bytes = (readWhole bytes).1 := rfl
  rw [first, readWhole_render regular]

end Draft

end Quiesce.Json
