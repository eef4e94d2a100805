/-
# Typed reading of JSON

Readers go through a draft in the order of the text and report the first fault
they meet: a misfit, or the break of the text. A record may be given as an
object, whose unknown members are skipped, or as the array of its fields.

A value that was loaded as a whole differs from one read off a text in two
ways: its objects hold one value for each name, in the order of the names, and
a value of the wrong shape is a misfit where a text would be malformed.
-/

import Quiesce.Json.Fault
import Std.Data.TreeMap

namespace Quiesce.Json

/-- Where a draft comes from. -/
inductive Medium where
  | text
  | loaded
  deriving DecidableEq, Repr

/-- The members of an object in the order in which they are read. -/
def Medium.arrange (medium : Medium) (members : List (Option String × Draft)) :
    List (Option String × Draft) :=
  match medium with
  | .text => members
  | .loaded => (Std.TreeMap.ofList members).toList

/-- The result of reading a part, as a result of reading the whole. -/
def within {α : Type} (segment : Segment) (result : Except Fault α) : Except Fault α :=
  result.mapError (Fault.within segment)

namespace Draft

/-- The fault of a draft that is not of the expected type. -/
def unexpected (draft : Draft) (expected : String) : Fault :=
  match draft.found? with
  | some found => .here (.invalidType found expected)
  | none => .malformed

/-- A text. -/
def readString : Draft → Except Fault String
  | .string (some text) => .ok text
  | draft => .error (draft.unexpected "a string")

/-- A number of 32 bits without a sign. -/
def readWord32 : Draft → Except Fault UInt32
  | .number numeral =>
    match numeral.number? with
    | some (.natural value) =>
      if value < UInt32.size then .ok (UInt32.ofNat value)
      else .error (.here (.invalidValue (.number (.natural value)) "u32"))
    | some (.negative magnitude) =>
      .error (.here (.invalidValue (.number (.negative magnitude)) "u32"))
    | some (.fraction text) => .error (.here (.invalidType (.number (.fraction text)) "u32"))
    | none => .error .malformed
  | draft => .error (draft.unexpected "u32")

/-- A number of 32 bits, or `null` for none. -/
def readOptionalWord32 : Draft → Except Fault (Option UInt32)
  | .null => .ok none
  | draft => draft.readWord32.map some

/-- Items from a position on, each read as a text. -/
def readStringsFrom (position : Nat) : List Draft → Except Fault (List String)
  | [] => .ok []
  | item :: rest => do
    let text ← within (.index position) item.readString
    let texts ← readStringsFrom (position + 1) rest
    return text :: texts

/-- A list of texts. -/
def readStrings : Draft → Except Fault (List String)
  | .array items closed => do
    let texts ← readStringsFrom 0 items
    if closed then return texts else throw .malformed
  | draft => .error (draft.unexpected "a sequence")

/-- The value `null`. -/
def readUnit : Draft → Except Fault Unit
  | .null => .ok ()
  | draft => .error (draft.unexpected "unit")

/-- The case of a given name, among the cases of an enumeration. -/
def caseNamed {α : Type} (cases : List (String × α)) (name : String) : Except Fault α :=
  match cases.lookup name with
  | some value => .ok value
  | none => .error (.here (.unknownVariant name (cases.map (·.1))))

/-- A case of an enumeration, given by its name, or as an object whose only
member has that name and the value `null`. -/
def readCase {α : Type} (medium : Medium) (cases : List (String × α)) : Draft → Except Fault α
  | .string (some name) => caseNamed cases name
  | .object members closed =>
    match medium, medium.arrange members with
    | .loaded, [(some name, value)] => do
      let found ← caseNamed cases name
      within (.name name) value.readUnit
      return found
    | .loaded, _ => .error (.here (.invalidValue .object "map with a single key"))
    | .text, (some name, value) :: rest => do
      let found ← caseNamed cases name
      within (.name name) value.readUnit
      if rest.isEmpty ∧ closed then return found else throw .malformed
    | .text, _ => .error .malformed
  | draft =>
    match medium with
    | .text => .error .malformed
    | .loaded => .error (draft.unexpected "string or map")

end Draft

/-- The name of a record type and the number of its fields, as faults word them. -/
structure Shape where
  name : String
  fields : Nat
  deriving DecidableEq, Repr

namespace Shape

/-- The wording for a value of this type. -/
def expected (shape : Shape) : String :=
  "struct " ++ shape.name

/-- The wording for an array of all fields of this type. -/
def expectedLength (shape : Shape) : String :=
  let plural := if shape.fields = 1 then "" else "s"
  s!"struct {shape.name} with {decimal shape.fields} element{plural}"

/-- The field at a position of a record given as an array; `absent` is its value
when the array ends before it, if there is one. -/
def element {α : Type} (shape : Shape) (items : List Draft) (closed : Bool) (position : Nat)
    (read : Draft → Except Fault α) (absent : Option α) : Except Fault α :=
  match items[position]? with
  | some item => within (.index position) (read item)
  | none =>
    if closed then
      match absent with
      | some value => .ok value
      | none => .error (.here (.invalidLength position shape.expectedLength))
    else .error .malformed

/-- Check that an array of fields ends after the last one. -/
def checkEnd (shape : Shape) (medium : Medium) (items : List Draft) (closed : Bool) :
    Except Fault Unit :=
  if closed ∧ items.length ≤ shape.fields then .ok ()
  else
    match medium with
    | .text => .error .malformed
    | .loaded => .error (.here (.invalidLength items.length "fewer elements in array"))

end Shape

/-- Fill the slot of a named field, unless the field was given before. -/
def fill {α : Type} (name : String) (slot : Option α) (value : Except Fault α) :
    Except Fault (Option α) :=
  match slot with
  | some _ => .error (.here (.duplicateField name))
  | none => (within (.name name) value).map some

/-- The value of a field that has to be given. -/
def demand {α : Type} (name : String) (slot : Option α) : Except Fault α :=
  match slot with
  | some value => .ok value
  | none => .error (.here (.missingField name))

/-- Go through the members of an object, keeping what was read in `slots`. -/
def readMembers {σ : Type} (medium : Medium) (take : σ → String → Draft → Except Fault σ)
    (slots : σ) (members : List (Option String × Draft)) (closed : Bool) : Except Fault σ := do
  let slots ← (medium.arrange members).foldlM (fun slots member =>
    match member.1 with
    | some name => take slots name member.2
    | none => .error .malformed) slots
  if closed then return slots else throw .malformed

/-- Read a value off a text in which nothing but blanks may follow it. -/
def readText {α : Type} (read : Draft → Except Fault α) (text : String) : Except Fault α :=
  match Draft.readWhole (Utf8.encode text) with
  | (draft, clean) => do
    let value ← read draft
    if clean then return value else throw .malformed

/-- Read the first value of a byte sequence; what follows it does not matter. -/
def readBytes {α : Type} (read : Draft → Except Fault α) (bytes : List UInt8) : Except Fault α :=
  read (Draft.read bytes)

end Quiesce.Json
