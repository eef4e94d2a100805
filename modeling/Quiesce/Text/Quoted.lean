/-
# Quoted texts

Error messages show a text between double quotes on one line. Quotes and
backslashes are written with a backslash, the common controls by their letter,
and every other character without a visible shape by its code point.
-/

import Quiesce.Text.Hex
import Quiesce.Text.Hidden

namespace Quiesce.Text

/-- A character written by its code point. -/
def codePoint (c : Char) : List Char :=
  '\\' :: 'u' :: '{' :: (Hex.text c.toNat ++ ['}'])

/-- One character as it stands inside a quoted text. -/
def quotedChar (c : Char) : List Char :=
  match c with
  | '"' => ['\\', '"']
  | '\\' => ['\\', '\\']
  | '\n' => ['\\', 'n']
  | '\r' => ['\\', 'r']
  | '\t' => ['\\', 't']
  | '\x00' => ['\\', '0']
  | c =>
    if c.toNat < 0x20 then codePoint c
    else if c.toNat < 0x7F then [c]
    else if c.toNat = 0x7F then codePoint c
    else if isHidden c then codePoint c
    else [c]

/-- A text between double quotes. -/
def quoted (text : String) : String :=
  String.ofList ('"' :: (text.toList.flatMap quotedChar ++ ['"']))

end Quiesce.Text
