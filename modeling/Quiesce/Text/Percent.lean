/-
# Percent-encoding

A percent-encoded byte is a percent sign and two hexadecimal digits. Encoding
writes every byte of a chosen set of characters that way; decoding reads them
back and leaves any other percent sign as it stands.
-/

import Quiesce.Text.Hex
import Quiesce.Text.Utf8

namespace Quiesce.Percent

/-- One byte in percent-encoded form. -/
def encodeByte (byte : UInt8) : List Char :=
  ['%', Hex.upper (byte.toNat / 16), Hex.upper (byte.toNat % 16)]

/-- One character: all its bytes when `escaped` holds of it, itself otherwise. -/
def encodeChar (escaped : Char → Bool) (c : Char) : List Char :=
  if escaped c then (String.utf8EncodeChar c).flatMap encodeByte else [c]

/-- A text with the characters of a set percent-encoded. -/
def encode (escaped : Char → Bool) (text : List Char) : List Char :=
  text.flatMap (encodeChar escaped)

/-- The bytes that a percent-encoded text stands for. -/
def decode : List UInt8 → List UInt8
  | 0x25 :: high :: low :: rest =>
    match Hex.value? high, Hex.value? low with
    | some h, some l => UInt8.ofNat (h * 16 + l) :: decode rest
    | _, _ => 0x25 :: decode (high :: low :: rest)
  | byte :: rest => byte :: decode rest
  | [] => []

end Quiesce.Percent
