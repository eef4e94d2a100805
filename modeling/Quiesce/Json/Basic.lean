/-
# JSON values

A JSON value and its compact text. Object members keep the order in which they
are given. In a string, quotes, backslashes and control characters are written
with a backslash, and every other character stands for itself.
-/

import Quiesce.Json.Numeral
import Quiesce.Text.Hex

namespace Quiesce

/-- A JSON value. Numbers are kept as they are written. -/
inductive Json where
  | null
  | boolean (value : Bool)
  | number (numeral : Json.Numeral)
  | string (text : String)
  | array (items : List Json)
  | object (members : List (String × Json))

namespace Json

/-- A natural number as a JSON value. -/
def nat (n : Nat) : Json :=
  .number (.ofNat n)

/-- The value itself, or `null` when there is none. -/
def ofOption (value : Option Json) : Json :=
  value.getD .null

/-- The value of the first member of an object that has the given name. -/
def member? (name : String) : Json → Option Json
  | .object members => members.lookup name
  | _ => none

/-- A control character written as a four-digit escape. -/
def controlEscape (c : Char) : List Char :=
  ['\\', 'u', '0', '0', Hex.lower (c.toNat / 16), Hex.lower (c.toNat % 16)]

/-- One character inside a JSON string. -/
def escapeChar (c : Char) : List Char :=
  match c with
  | '"' => ['\\', '"']
  | '\\' => ['\\', '\\']
  | '\n' => ['\\', 'n']
  | '\r' => ['\\', 'r']
  | '\t' => ['\\', 't']
  | '\x08' => ['\\', 'b']
  | '\x0c' => ['\\', 'f']
  | c => if c.toNat < 0x20 then controlEscape c else [c]

/-- A JSON string with its quotes. -/
def stringText (text : String) : List Char :=
  '"' :: (text.toList.flatMap escapeChar ++ ['"'])

mutual

/-- The compact text of a value. -/
def text : Json → List Char
  | .null => "null".toList
  | .boolean true => "true".toList
  | .boolean false => "false".toList
  | .number numeral => numeral.text
  | .string text => stringText text
  | .array items => '[' :: (itemsText items ++ [']'])
  | .object members => '\x7b' :: (membersText members ++ ['\x7d'])

/-- The items of an array, separated by commas. -/
def itemsText : List Json → List Char
  | [] => []
  | [item] => item.text
  | item :: rest => item.text ++ ',' :: itemsText rest

/-- The members of an object, separated by commas. -/
def membersText : List (String × Json) → List Char
  | [] => []
  | [(name, value)] => stringText name ++ ':' :: value.text
  | (name, value) :: rest => stringText name ++ ':' :: (value.text ++ ',' :: membersText rest)

end

/-- The compact text of a value as a string. -/
def render (value : Json) : String :=
  String.ofList value.text

end Json

end Quiesce
