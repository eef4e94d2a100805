/-
# Drafts of JSON values

A draft is what can be made of a text that may stop being JSON half way: the
parts read before the break are there, and everything still open at the break
is marked as such. A reader that goes through a draft in order therefore meets
a break exactly where it meets it in the text, after the parts before it and
before the parts behind it.

Drafts are built from tokens with an explicit stack of the containers still
open, so nesting may be arbitrarily deep.
-/

import Quiesce.Json.Token

namespace Quiesce.Json

/-- What a reader finds where it expects something else. -/
inductive Found where
  | null
  | boolean (value : Bool)
  /-- A number, unless it is out of range. -/
  | number (number : Number)
  | string (text : String)
  | array
  | object
  deriving DecidableEq, Repr

/-- A JSON value as far as it could be read. -/
inductive Draft where
  /-- The text is not JSON here. -/
  | broken
  | null
  | boolean (value : Bool)
  | number (numeral : Numeral)
  /-- A string; `none` when it denotes no text. -/
  | string (text : Option String)
  /-- The items read; `closed` is false when the text breaks within or after them. -/
  | array (items : List Draft) (closed : Bool)
  /-- The members read; a name is `none` when it denotes no text. The value of the
  last one is broken or incomplete when the text breaks within it, and `closed` is
  false when the text breaks within or after them. -/
  | object (members : List (Option String × Draft)) (closed : Bool)

namespace Draft

/-- What a draft is found to be; `none` when its text is not JSON or denotes nothing. -/
def found? : Draft → Option Found
  | .broken => none
  | .null => some .null
  | .boolean value => some (.boolean value)
  | .number numeral => numeral.number?.map .number
  | .string text => text.map .string
  | .array _ _ => some .array
  | .object _ _ => some .object

mutual

/-- The draft of a value that is known in full. -/
def ofJson : Json → Draft
  | .null => .null
  | .boolean value => .boolean value
  | .number numeral => .number numeral
  | .string text => .string (some text)
  | .array items => .array (ofItems items) true
  | .object members => .object (ofMembers members) true

/-- The drafts of the items of an array. -/
def ofItems : List Json → List Draft
  | [] => []
  | item :: rest => ofJson item :: ofItems rest

/-- The drafts of the members of an object. -/
def ofMembers : List (String × Json) → List (Option String × Draft)
  | [] => []
  | (name, value) :: rest => (some name, ofJson value) :: ofMembers rest

end

mutual

/-- The value of a draft that is complete throughout. -/
def toJson? : Draft → Option Json
  | .null => some .null
  | .boolean value => some (.boolean value)
  | .number numeral => some (.number numeral)
  | .string (some text) => some (.string text)
  | .array items true => (toItems? items).map .array
  | .object members true => (toMembers? members).map .object
  | _ => none

/-- The values of the items of an array. -/
def toItems? : List Draft → Option (List Json)
  | [] => some []
  | item :: rest =>
    match toJson? item, toItems? rest with
    | some item, some rest => some (item :: rest)
    | _, _ => none

/-- The values of the members of an object. -/
def toMembers? : List (Option String × Draft) → Option (List (String × Json))
  | [] => some []
  | (name, value) :: rest =>
    match name, toJson? value, toMembers? rest with
    | some name, some value, some rest => some ((name, value) :: rest)
    | _, _, _ => none

end

/-- A container whose next part is being read. Parts already read are kept in reverse. -/
inductive Frame where
  | items (read : List Draft)
  | members (read : List (Option String × Draft)) (name : Option String)

/-- A value in which the text breaks, put into the containers around it, all of
which stay open. -/
def breakOff (inner : Draft) (stack : List Frame) : Draft :=
  stack.foldl (fun inner frame =>
    match frame with
    | .items read => .array (inner :: read).reverse false
    | .members read name => .object ((name, inner) :: read).reverse false) inner

/-- A reader between two tokens. -/
inductive Reader where
  /-- A value has to follow. -/
  | value (stack : List Frame)
  /-- An array has just been opened. -/
  | firstItem (stack : List Frame)
  /-- An item has just ended. -/
  | afterItem (read : List Draft) (stack : List Frame)
  /-- An object has just been opened. -/
  | firstName (stack : List Frame)
  /-- The name of a further member has to follow. -/
  | nextName (read : List (Option String × Draft)) (stack : List Frame)
  /-- The colon after a name has to follow. -/
  | colon (read : List (Option String × Draft)) (name : Option String) (stack : List Frame)
  /-- A member has just ended. -/
  | afterMember (read : List (Option String × Draft)) (stack : List Frame)
  /-- The outermost value has ended, or the text has broken. -/
  | finished (draft : Draft)

namespace Reader

/-- Put a value that has ended where it belongs. -/
def place (draft : Draft) : List Frame → Reader
  | [] => .finished draft
  | .items read :: stack => .afterItem (draft :: read) stack
  | .members read name :: stack => .afterMember ((name, draft) :: read) stack

/-- Take the first token of a value. -/
def start (token : Token) (stack : List Frame) : Reader :=
  match token with
  | .openObject => .firstName stack
  | .openArray => .firstItem stack
  | .null => place .null stack
  | .boolean b => place (.boolean b) stack
  | .number numeral => place (.number numeral) stack
  | .string text => place (.string text) stack
  | .closeObject | .closeArray | .colon | .comma => .finished (breakOff .broken stack)

/-- What the reader makes of one token. -/
def advance (token : Token) : Reader → Reader
  | .value stack => start token stack
  | .firstItem stack =>
    match token with
    | .closeArray => place (.array [] true) stack
    | token => start token (.items [] :: stack)
  | .afterItem read stack =>
    match token with
    | .comma => .value (.items read :: stack)
    | .closeArray => place (.array read.reverse true) stack
    | _ => .finished (breakOff (.array read.reverse false) stack)
  | .firstName stack =>
    match token with
    | .closeObject => place (.object [] true) stack
    | .string name => .colon [] name stack
    | _ => .finished (breakOff (.object [] false) stack)
  | .nextName read stack =>
    match token with
    | .string name => .colon read name stack
    | _ => .finished (breakOff (.object read.reverse false) stack)
  | .colon read name stack =>
    match token with
    | .colon => .value (.members read name :: stack)
    | _ => .finished (breakOff (.object ((name, .broken) :: read).reverse false) stack)
  | .afterMember read stack =>
    match token with
    | .comma => .nextName read stack
    | .closeObject => place (.object read.reverse true) stack
    | _ => .finished (breakOff (.object read.reverse false) stack)
  | .finished draft => .finished draft

/-- The draft when no further token follows. -/
def stop : Reader → Draft
  | .value stack => breakOff .broken stack
  | .firstItem stack => breakOff (.array [] false) stack
  | .afterItem read stack => breakOff (.array read.reverse false) stack
  | .firstName stack => breakOff (.object [] false) stack
  | .nextName read stack => breakOff (.object read.reverse false) stack
  | .colon read name stack => breakOff (.object ((name, .broken) :: read).reverse false) stack
  | .afterMember read stack => breakOff (.object read.reverse false) stack
  | .finished draft => draft

/-- Read tokens until the outermost value ends or the text breaks. Returns the
draft and the tokens not read. -/
def run : Reader → List Token → Draft × List Token
  | .finished draft, tokens => (draft, tokens)
  | reader, [] => (reader.stop, [])
  | reader, token :: rest => run (reader.advance token) rest

end Reader

/-- The draft of the first value of a byte sequence. What follows it does not matter. -/
def read (bytes : List UInt8) : Draft :=
  (Reader.run (.value []) (scan bytes).tokens).1

/-- The draft of a byte sequence that has to be one value and blanks. When more
follows the value, the second part is false. -/
def readWhole (bytes : List UInt8) : Draft × Bool :=
  let scanned := scan bytes
  let (draft, rest) := Reader.run (.value []) scanned.tokens
  (draft, scanned.complete && rest.isEmpty)

end Draft

/-- The JSON value that a text spells. -/
def parse? (text : String) : Option Json :=
  match Draft.readWhole (Utf8.encode text) with
  | (draft, true) => draft.toJson?
  | (_, false) => none

end Quiesce.Json
