/-
# Punycode

Labels of host names beyond ASCII are sent in ASCII letters, digits and hyphens.
The ASCII characters of a label come first. Each other character follows in the
order of the code points as the number of places passed since the one before,
in a variable-length numeral of base 36 whose thresholds follow a bias that
adapts to the numbers seen.
-/

namespace Quiesce.Url.Punycode

/-- The character of a digit below 36. -/
def digitChar (digit : Nat) : Char :=
  if digit < 26 then Char.ofNat (0x61 + digit) else Char.ofNat (0x30 + (digit - 26))

/-- The value of a digit. -/
def digit? (c : Char) : Option Nat :=
  if c.isLower then some (c.toNat - 0x61)
  else if c.isUpper then some (c.toNat - 0x41)
  else if c.isDigit then some (c.toNat - 0x30 + 26)
  else none

/-- The least value that is not the last digit of a numeral, at a place that
counts up from 36 in steps of 36. -/
def threshold (bias place : Nat) : Nat :=
  max 1 (min 26 (place - bias))

theorem threshold_pos (bias place : Nat) : 0 < threshold bias place := by
  unfold threshold; omega

/-- The bias for a number scaled down to the number of characters. -/
def biasOf (number : Nat) : Nat :=
  if 455 < number then 36 + biasOf (number / 35) else 36 * number / (number + 38)
termination_by number
decreasing_by omega

/-- The bias after a number has been written, given how many characters are
placed by then and whether it was the first number. -/
def adapt (number placed : Nat) (first : Bool) : Nat :=
  let damped := if first then number / 700 else number / 2
  biasOf (damped + damped / placed)

/-- The numeral of a number. -/
def numeral (bias place number : Nat) : List Char :=
  let bound := threshold bias place
  if number < bound then [digitChar number]
  else
    digitChar (bound + (number - bound) % (36 - bound)) ::
      numeral bias (place + 36) ((number - bound) / (36 - bound))
termination_by number
decreasing_by
  have := threshold_pos bias place
  have := Nat.div_le_self (number - threshold bias place) (36 - threshold bias place)
  omega

/-- The state of writing: the numerals so far, the places passed since the last
one, the bias, and how many characters are placed. -/
structure Writer where
  written : List Char
  passed : Nat
  bias : Nat
  placed : Nat

/-- Go over one character of the label while the code point `current` is placed. -/
def Writer.visit (ascii current : Nat) (writer : Writer) (c : Char) : Writer :=
  if c.toNat < current then { writer with passed := writer.passed + 1 }
  else if c.toNat = current then
    { written := writer.written ++ numeral writer.bias 36 writer.passed
      passed := 0
      bias := adapt writer.passed (writer.placed + 1) (writer.placed = ascii)
      placed := writer.placed + 1 }
  else writer

/-- Place the characters of all code points from `next` on, in ascending order. -/
def Writer.run (label : List Char) (ascii : Nat) (writer : Writer) (next : Nat) :
    List Nat → Writer
  | [] => writer
  | current :: later =>
    let skipped := { writer with
      passed := writer.passed + (current - next) * (writer.placed + 1) }
    let writer := label.foldl (Writer.visit ascii current) skipped
    { writer with passed := writer.passed + 1 }.run label ascii (current + 1) later

/-- Whether a character is ASCII. -/
def isAscii (c : Char) : Bool :=
  c.toNat < 0x80

/-- Write a label. -/
def encode (label : List Char) : List Char :=
  let ascii := label.filter isAscii
  let points := ((label.filter (!isAscii ·)).map Char.toNat).mergeSort.eraseDups
  let writer := Writer.run label ascii.length ⟨[], 0, 72, ascii.length⟩ 0x80 points
  ascii ++ (if ascii.isEmpty then [] else ['-']) ++ writer.written

/-- Read a numeral; the result is its number and the rest of the text. -/
def readNumeral? (bias : Nat) : Nat → Nat → Nat → List Char → Option (Nat × List Char)
  | _, _, _, [] => none
  | place, weight, sum, c :: rest => do
    let digit ← digit? c
    let sum := sum + digit * weight
    let bound := threshold bias place
    if digit < bound then return (sum, rest)
    readNumeral? bias (place + 36) (weight * (36 - bound)) sum rest

theorem readNumeral?_rest_length {bias place weight sum number : Nat} {text rest : List Char}
    (read : readNumeral? bias place weight sum text = some (number, rest)) :
    rest.length < text.length := by
  induction text generalizing place weight sum with
  | nil => simp [readNumeral?] at read
  | cons c text ih =>
    unfold readNumeral? at read
    cases known : digit? c with
    | none => simp [known] at read
    | some digit =>
      simp only [known, Option.bind_eq_bind, Option.bind_some] at read
      split at read
      · simp only [Option.pure_def, Option.some.injEq, Prod.mk.injEq] at read
        simp [← read.2]
      · have := ih read
        simp only [List.length_cons]
        omega

/-- Place the characters that numerals stand for. The position counts places
over all rounds through the label, each round at the next code point. -/
def insertAll? (placed : List Char) (code position bias : Nat) (first : Bool)
    (text : List Char) : Option (List Char) :=
  if text.isEmpty then some placed
  else
    match _read : readNumeral? bias 36 1 0 text with
    | none => none
    | some (number, rest) =>
      let length := placed.length + 1
      let total := position + number
      let code := code + total / length
      let place := total % length
      if code.isValidChar then
        insertAll? (placed.take place ++ Char.ofNat code :: placed.drop place) code (place + 1)
          (adapt number length first) false rest
      else none
termination_by text.length
decreasing_by exact readNumeral?_rest_length _read

/-- Read a label. A hyphen divides the ASCII characters from the numerals only when
there are any. -/
def decode? (text : List Char) : Option (List Char) :=
  let reversed := text.reverse
  let ascii := ((reversed.dropWhile (· ≠ '-')).drop 1).reverse
  let numerals := if ascii.isEmpty then text else (reversed.takeWhile (· ≠ '-')).reverse
  if ascii.all isAscii then insertAll? ascii 0x80 0 72 true numerals else none

end Quiesce.Url.Punycode
