/-
# The grammar of JSON texts

What a JSON text is, said of its characters and without a word on how it is read. A
text is a row of tokens with blanks around them; each kind of token has its spellings,
and the tokens of a value follow from its structure. A string may be spelled in many
ways, and may denote no text, when an escape leaves half a surrogate pair behind.

A draft stands for a value when it is whole: the grammar spells no other drafts.
-/

import Quiesce.Json.Draft

namespace Quiesce.Json

/-! ## Strings -/

/-- A part of a string: a character, or a 16-bit code unit given by its four digits. -/
inductive Part where
  | char (c : Char)
  | unit (value : Nat)

/-- A hexadecimal digit of either case, with its value. -/
def IsHexDigit (c : Char) (value : Nat) : Prop :=
  value < 16 ∧ (c = Hex.lower value ∨ c = Hex.upper value)

/-- The letters that may follow a backslash, each with the character that it gives. -/
def escapeLetters : List (Char × Char) :=
  [('"', '"'), ('\\', '\\'), ('/', '/'), ('b', '\x08'), ('f', '\x0c'), ('n', '\n'), ('r', '\r'),
    ('t', '\t')]

/-- The spellings of a part. A character may stand for itself unless it is a control, a quote
or a backslash. -/
inductive Part.Spelled : Part → List Char → Prop where
  | plain {c : Char} (printable : 0x20 ≤ c.toNat) (noQuote : c ≠ '"') (noBackslash : c ≠ '\\') :
    Spelled (.char c) [c]
  | letter {letter c : Char} (listed : (letter, c) ∈ escapeLetters) :
    Spelled (.char c) ['\\', letter]
  | unit {first second third fourth : Char} {a b c d : Nat} (isFirst : IsHexDigit first a)
    (isSecond : IsHexDigit second b) (isThird : IsHexDigit third c)
    (isFourth : IsHexDigit fourth d) :
    Spelled (.unit (((a * 16 + b) * 16 + c) * 16 + d)) ['\\', 'u', first, second, third, fourth]

/-- What may stand between the quotes of a string, with its parts. -/
inductive Literal : List Char → List Part → Prop where
  | nil : Literal [] []
  | cons {part : Part} {parts : List Part} {text more : List Char} (spelled : part.Spelled text)
    (rest : Literal more parts) : Literal (text ++ more) (part :: parts)

/-- The characters that parts denote. A code unit is a character by itself unless it is a
surrogate; surrogates denote one only as a pair, the high one right before the low one. -/
inductive Denotes : List Part → List Char → Prop where
  | nil : Denotes [] []
  | char (c : Char) {parts : List Part} {text : List Char} (rest : Denotes parts text) :
    Denotes (.char c :: parts) (c :: text)
  | unit {value : Nat} (single : value < 0xD800 ∨ 0xDFFF < value) {parts : List Part}
    {text : List Char} (rest : Denotes parts text) :
    Denotes (.unit value :: parts) (Char.ofNat value :: text)
  | pair {high low : Nat} (isHigh : 0xD800 ≤ high ∧ high ≤ 0xDBFF)
    (isLow : 0xDC00 ≤ low ∧ low ≤ 0xDFFF) {parts : List Part} {text : List Char}
    (rest : Denotes parts text) :
    Denotes (.unit high :: .unit low :: parts)
      (Char.ofNat ((high - 0xD800) * 0x400 + (low - 0xDC00) + 0x10000) :: text)

/-! ## Numerals -/

/-- A numeral as JSON has it: with digits wherever they are due, and without superfluous
leading zeros. -/
structure Numeral.Regular (numeral : Numeral) : Prop where
  whole_ne_nil : numeral.whole ≠ []
  noLeadingZero : ∀ digit more, numeral.whole ≠ 0 :: digit :: more
  exponent_ne_nil : ∀ negative, numeral.exponent ≠ some (negative, [])

/-- What is written of a sign. -/
def signText (negative : Bool) : List Char :=
  if negative then ['-'] else []

/-- What is written of a fraction. -/
def fractionText : Digits → List Char
  | [] => []
  | digits => '.' :: digits.text

/-- What may be written of an exponent: its letter in either case, and a sign that may be left
out when it is plus. -/
inductive ExponentText : Option (Bool × Digits) → List Char → Prop where
  | absent : ExponentText none []
  | given {negative : Bool} {mark : Char} {sign : List Char} (marked : mark ∈ ['e', 'E'])
    (signed : sign = [if negative then '-' else '+'] ∨ negative = false ∧ sign = [])
    (digits : Digits) : ExponentText (some (negative, digits)) (mark :: (sign ++ digits.text))

/-- The spellings of a numeral. -/
def Numeral.Spelled (numeral : Numeral) (text : List Char) : Prop :=
  numeral.Regular ∧ ∃ exponent, ExponentText numeral.exponent exponent ∧
    text = signText numeral.negative ++
      (numeral.whole.text ++ (fractionText numeral.fraction ++ exponent))

/-! ## Tokens -/

/-- The spellings of a token. -/
inductive Token.Spelled : Token → List Char → Prop where
  | openObject : Spelled .openObject ['\x7b']
  | closeObject : Spelled .closeObject ['\x7d']
  | openArray : Spelled .openArray ['[']
  | closeArray : Spelled .closeArray [']']
  | colon : Spelled .colon [':']
  | comma : Spelled .comma [',']
  | null : Spelled .null "null".toList
  | boolean (value : Bool) : Spelled (.boolean value) (if value then "true" else "false").toList
  | number {numeral : Numeral} {text : List Char} (spelled : numeral.Spelled text) :
    Spelled (.number numeral) text
  | string {parts : List Part} {text : List Char} {value : Option String}
    (literal : Literal text parts)
    (denoted : ∀ content : String, value = some content ↔ Denotes parts content.toList) :
    Spelled (.string value) ('"' :: (text ++ ['"']))

/-- The blanks that may stand between tokens. -/
def blanks : List Char :=
  [' ', '\t', '\n', '\r']

/-- A text is a row of tokens, with any blanks before, between and after them. -/
inductive Lexed : List Char → List Token → Prop where
  | nil : Lexed [] []
  | blank {c : Char} {text : List Char} {tokens : List Token} (isBlank : c ∈ blanks)
    (rest : Lexed text tokens) : Lexed (c :: text) tokens
  | token {token : Token} {text more : List Char} {tokens : List Token}
    (spelled : token.Spelled text) (rest : Lexed more tokens) :
    Lexed (text ++ more) (token :: tokens)

/-! ## Values -/

namespace Draft

mutual

/-- The tokens of a value. -/
def tokens : Draft → List Token
  | .broken => []
  | .null => [.null]
  | .boolean value => [.boolean value]
  | .number numeral => [.number numeral]
  | .string text => [.string text]
  | .array items _ => .openArray :: (itemsTokens items ++ [.closeArray])
  | .object members _ => .openObject :: (membersTokens members ++ [.closeObject])

/-- The tokens of the items of an array, separated by commas. -/
def itemsTokens : List Draft → List Token
  | [] => []
  | [item] => item.tokens
  | item :: rest => item.tokens ++ .comma :: itemsTokens rest

/-- The tokens of the members of an object, separated by commas. -/
def membersTokens : List (Option String × Draft) → List Token
  | [] => []
  | [(name, value)] => .string name :: .colon :: value.tokens
  | (name, value) :: rest =>
    .string name :: .colon :: (value.tokens ++ .comma :: membersTokens rest)

end

/-- A draft of a value: nothing in it is broken off. -/
inductive Whole : Draft → Prop where
  | null : Whole .null
  | boolean (value : Bool) : Whole (.boolean value)
  | number (numeral : Numeral) : Whole (.number numeral)
  | string (text : Option String) : Whole (.string text)
  | array {items : List Draft} (each : ∀ item ∈ items, Whole item) : Whole (.array items true)
  | object {members : List (Option String × Draft)} (each : ∀ member ∈ members, Whole member.2) :
    Whole (.object members true)

/-- A text spells a value, and nothing else. -/
def SpelledBy (draft : Draft) (text : String) : Prop :=
  draft.Whole ∧ Lexed text.toList draft.tokens

end Draft

end Quiesce.Json
