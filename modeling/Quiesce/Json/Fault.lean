/-
# Why a JSON text is refused

A text is malformed when it stops being JSON, and a misfit when it is JSON so
far but not of the expected type. A misfit says what was found and expected and
where; its wording is part of the agent's answers.
-/

import Quiesce.Json.Draft
import Quiesce.Text.Quoted

namespace Quiesce.Json

/-- The wording for a number where something else is expected. -/
def Number.describe : Number → String
  | .natural value => s!"integer `{decimal value}`"
  | .negative magnitude => s!"integer `-{decimal magnitude}`"
  | .fraction text => s!"floating point `{text}`"

/-- The wording for what is found where something else is expected. -/
def Found.describe : Found → String
  | .null => "null"
  | .boolean true => "boolean `true`"
  | .boolean false => "boolean `false`"
  | .number n => n.describe
  | .string text => "string " ++ Text.quoted text
  | .array => "sequence"
  | .object => "map"

/-- A way in which a value fails to be of the expected type. -/
inductive Misfit where
  | missingField (name : String)
  | duplicateField (name : String)
  | unknownVariant (name : String) (known : List String)
  | invalidType (found : Found) (expected : String)
  | invalidValue (found : Found) (expected : String)
  | invalidLength (length : Nat) (expected : String)
  deriving DecidableEq, Repr

namespace Misfit

/-- A list of names, each between backticks. -/
def nameList (names : List String) : String :=
  ", ".intercalate (names.map fun name => s!"`{name}`")

/-- The wording of a misfit. -/
def message : Misfit → String
  | .missingField name => s!"missing field `{name}`"
  | .duplicateField name => s!"duplicate field `{name}`"
  | .unknownVariant name known => s!"unknown variant `{name}`, expected one of {nameList known}"
  | .invalidType found expected => s!"invalid type: {found.describe}, expected {expected}"
  | .invalidValue found expected => s!"invalid value: {found.describe}, expected {expected}"
  | .invalidLength length expected => s!"invalid length {decimal length}, expected {expected}"

end Misfit

/-- One step from a value to a part of it. -/
inductive Segment where
  | name (text : String)
  | index (position : Nat)
  deriving DecidableEq, Repr

/-- The wording of a path: names are joined by points, positions stand in brackets. -/
def pathText : List Segment → String
  | [] => ""
  | .name text :: rest => text ++ tail rest
  | .index position :: rest => s!"[{decimal position}]" ++ tail rest
where
  /-- The wording of the part of a path that does not come first. -/
  tail : List Segment → String
    | [] => ""
    | .name text :: rest => "." ++ text ++ tail rest
    | .index position :: rest => s!"[{decimal position}]" ++ tail rest

/-- Why a text is refused. -/
inductive Fault where
  | malformed
  | misfit (path : List Segment) (cause : Misfit)
  deriving DecidableEq, Repr

namespace Fault

/-- A misfit of the value itself. -/
def here (cause : Misfit) : Fault :=
  .misfit [] cause

/-- The fault of a value, seen from a value that it is a part of. -/
def within (segment : Segment) : Fault → Fault
  | .malformed => .malformed
  | .misfit path cause => .misfit (segment :: path) cause

/-- The wording of a misfit with the place where it was met. -/
def placedMessage (path : List Segment) (cause : Misfit) : String :=
  match path with
  | [] => cause.message
  | path => pathText path ++ ": " ++ cause.message

end Fault

end Quiesce.Json
