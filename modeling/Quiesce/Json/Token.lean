/-
# JSON tokens

The lexical part of JSON, over bytes. Scanning stops at the first byte that
cannot continue a token; what was scanned before it stays usable, because a
reader may be satisfied, or dissatisfied for a reason of its own, before it
gets there. A string token is well-formed as JSON even when it denotes no text:
an escape may leave half a surrogate pair and the bytes need not be UTF-8.
-/

import Quiesce.Json.Basic
import Quiesce.Text.Hex
import Quiesce.Text.Utf8

namespace Quiesce.Json

/-- A JSON token. -/
inductive Token where
  | openObject
  | closeObject
  | openArray
  | closeArray
  | colon
  | comma
  | null
  | boolean (value : Bool)
  | number (numeral : Numeral)
  /-- A string; `none` when it denotes no text. -/
  | string (text : Option String)
  deriving DecidableEq, Repr

/-- A piece of a string literal: a byte, or a 16-bit code unit given by an escape. -/
inductive Piece where
  | byte (value : UInt8)
  | unit (value : Nat)
  deriving DecidableEq, Repr

namespace Piece

/-- The bytes of a code point in UTF-8. -/
def ofCodePoint (value : Nat) : List UInt8 :=
  String.utf8EncodeChar (Char.ofNat value)

/-- The bytes that a string literal denotes, after those already `seen`, which
are kept in reverse. Code units in the surrogate range have to come as a high
one right before a low one. -/
def bytes? (seen : List UInt8) : List Piece → Option (List UInt8)
  | [] => some seen.reverse
  | .byte value :: rest => bytes? (value :: seen) rest
  | .unit high :: .unit low :: rest =>
    if 0xD800 ≤ high ∧ high ≤ 0xDBFF then
      if 0xDC00 ≤ low ∧ low ≤ 0xDFFF then
        let value := (high - 0xD800) * 0x400 + (low - 0xDC00) + 0x10000
        bytes? ((ofCodePoint value).reverse ++ seen) rest
      else none
    else if 0xDC00 ≤ high ∧ high ≤ 0xDFFF then none
    else bytes? ((ofCodePoint high).reverse ++ seen) (.unit low :: rest)
  | .unit value :: rest =>
    if 0xD800 ≤ value ∧ value ≤ 0xDFFF then none
    else bytes? ((ofCodePoint value).reverse ++ seen) rest

/-- The text that a string literal denotes. -/
def text? (pieces : List Piece) : Option String :=
  (bytes? [] pieces).bind Utf8.decode?

end Piece

namespace Token

/-- Whether a byte is blank between tokens. -/
def isBlank (byte : UInt8) : Bool :=
  byte = 0x20 || byte = 0x09 || byte = 0x0A || byte = 0x0D

/-- The byte that a one-letter escape stands for. -/
def escaped? (byte : UInt8) : Option UInt8 :=
  match byte with
  | 0x22 | 0x5C | 0x2F => some byte
  | 0x62 => some 0x08
  | 0x66 => some 0x0C
  | 0x6E => some 0x0A
  | 0x72 => some 0x0D
  | 0x74 => some 0x09
  | _ => none

/-- Four hexadecimal digits as a code unit. -/
def unit? (a b c d : UInt8) : Option Nat := do
  let a ← Hex.value? a
  let b ← Hex.value? b
  let c ← Hex.value? c
  let d ← Hex.value? d
  return ((a * 16 + b) * 16 + c) * 16 + d

/-- The pieces of a string literal, from after its opening quote, and the bytes
after its closing quote. Control characters have to be escaped. -/
def literal? (seen : List Piece) : List UInt8 → Option (List Piece × List UInt8)
  | 0x22 :: rest => some (seen.reverse, rest)
  | 0x5C :: 0x75 :: a :: b :: c :: d :: rest =>
    match unit? a b c d with
    | some unit => literal? (.unit unit :: seen) rest
    | none => none
  | 0x5C :: letter :: rest =>
    match escaped? letter with
    | some byte => literal? (.byte byte :: seen) rest
    | none => none
  | byte :: rest => if byte < 0x20 ∨ byte = 0x5C then none else literal? (.byte byte :: seen) rest
  | [] => none

/-- Whether a byte is an ASCII digit. -/
def isDigit (byte : UInt8) : Bool :=
  0x30 ≤ byte && byte ≤ 0x39

/-- The digit that an ASCII digit stands for. -/
def digitOf (byte : UInt8) : Fin 10 :=
  ⟨(byte.toNat - 0x30) % 10, Nat.mod_lt _ (by decide)⟩

/-- The leading digits of a byte sequence and the bytes after them. -/
def takeDigits (bytes : List UInt8) : Digits × List UInt8 :=
  ((bytes.takeWhile isDigit).map digitOf, bytes.dropWhile isDigit)

/-- At least one digit. -/
def someDigits? (bytes : List UInt8) : Option (Digits × List UInt8) :=
  match takeDigits bytes with
  | ([], _) => none
  | found => some found

/-- The digits before the point, without superfluous leading zeros. -/
def wholePart? (bytes : List UInt8) : Option (Digits × List UInt8) :=
  match someDigits? bytes with
  | some (0 :: _ :: _, _) => none
  | found => found

/-- The digits after the point, if there is one. -/
def fractionPart? : List UInt8 → Option (Digits × List UInt8)
  | 0x2E :: rest => someDigits? rest
  | bytes => some ([], bytes)

/-- The sign of an exponent: true for minus. -/
def exponentSign : List UInt8 → Bool × List UInt8
  | 0x2B :: rest => (false, rest)
  | 0x2D :: rest => (true, rest)
  | bytes => (false, bytes)

/-- The exponent, if there is one. -/
def exponentPart? : List UInt8 → Option (Option (Bool × Digits) × List UInt8)
  | [] => some (none, [])
  | byte :: rest =>
    if byte = 0x65 ∨ byte = 0x45 then
      let (negative, rest) := exponentSign rest
      (someDigits? rest).map fun (digits, rest) => (some (negative, digits), rest)
    else some (none, byte :: rest)

/-- A number after its sign, and the bytes after it. -/
def unsigned? (negative : Bool) (bytes : List UInt8) : Option (Token × List UInt8) := do
  let (whole, bytes) ← wholePart? bytes
  let (fraction, bytes) ← fractionPart? bytes
  let (exponent, bytes) ← exponentPart? bytes
  return (.number ⟨negative, whole, fraction, exponent⟩, bytes)

/-- The token at the start of a byte sequence that does not start with a blank,
and the bytes after it. -/
def first? : List UInt8 → Option (Token × List UInt8)
  | 0x7B :: rest => some (.openObject, rest)
  | 0x7D :: rest => some (.closeObject, rest)
  | 0x5B :: rest => some (.openArray, rest)
  | 0x5D :: rest => some (.closeArray, rest)
  | 0x3A :: rest => some (.colon, rest)
  | 0x2C :: rest => some (.comma, rest)
  | 0x22 :: rest =>
    (literal? [] rest).map fun (pieces, rest) => (.string (Piece.text? pieces), rest)
  | 0x6E :: 0x75 :: 0x6C :: 0x6C :: rest => some (.null, rest)
  | 0x74 :: 0x72 :: 0x75 :: 0x65 :: rest => some (.boolean true, rest)
  | 0x66 :: 0x61 :: 0x6C :: 0x73 :: 0x65 :: rest => some (.boolean false, rest)
  | 0x2D :: rest => unsigned? true rest
  | bytes => unsigned? false bytes

end Token

/-- The tokens of a byte sequence up to the first byte that continues none, and
whether the whole sequence was scanned. -/
structure Scan where
  tokens : List Token
  complete : Bool
  deriving DecidableEq, Repr

/-- Scan a byte sequence. Each round takes a blank or a token, so the length of
the sequence bounds the rounds. -/
def scan (bytes : List UInt8) : Scan :=
  go [] bytes.length bytes
where
  /-- Tokens already scanned are kept in reverse. -/
  go (seen : List Token) : Nat → List UInt8 → Scan
    | _, [] => ⟨seen.reverse, true⟩
    | 0, _ => ⟨seen.reverse, false⟩
    | rounds + 1, byte :: rest =>
      if Token.isBlank byte then go seen rounds rest
      else
        match Token.first? (byte :: rest) with
        | some (token, rest) => go (token :: seen) rounds rest
        | none => ⟨seen.reverse, false⟩

end Quiesce.Json
