/-
# Rules of log filters

A rule says how verbose the lines may be that it applies to. It is a verbosity for
all lines, or a target with or without one; a target stands for every target whose
name starts with it, and without a verbosity all its lines pass.

Brackets behind the target narrow a rule down: to lines inside a span of a name,
or, in braces, to lines that have a field. A rule for lines inside a span, or for
a field with a value, applies to no line of the agent.
-/

import Quiesce.LogFilter.Pattern
import Quiesce.Text.Alphanumeric
import Quiesce.Text.Unsigned

namespace Quiesce

/-- How much of a log passes. -/
inductive Verbosity where
  | off
  | error
  | warn
  | info
  | debug
  | trace
  deriving DecidableEq, Repr

namespace Verbosity

/-- The place of a verbosity in the ascending order. -/
def rank : Verbosity → Nat
  | .off => 0
  | .error => 1
  | .warn => 2
  | .info => 3
  | .debug => 4
  | .trace => 5

/-- The verbosity at a place in the ascending order. -/
def ofRank? : Nat → Option Verbosity
  | 0 => some .off
  | 1 => some .error
  | 2 => some .warn
  | 3 => some .info
  | 4 => some .debug
  | 5 => some .trace
  | _ => none

/-- The verbosity that a word or a number means. ASCII case does not matter. -/
def ofWord? (word : String) : Option Verbosity :=
  match Unsigned.value? word with
  | some rank => ofRank? rank
  | none =>
    match word.map Char.toLower with
    | "off" => some .off
    | "error" => some .error
    | "warn" => some .warn
    | "info" => some .info
    | "debug" => some .debug
    | "trace" => some .trace
    | _ => none

end Verbosity

/-- A rule of a filter. -/
structure LogRule where
  /-- What the target of a line has to start with. -/
  target : Option String
  /-- A field that a line has to have. -/
  field : Option String
  /-- Whether a line has to be inside a span. -/
  insideSpan : Bool
  verbosity : Verbosity
  deriving DecidableEq, Repr

namespace LogRule

/-- The rule that gives one verbosity to all lines. -/
def general (verbosity : Verbosity) : LogRule :=
  ⟨none, none, false, verbosity⟩

/-- Whether a rule applies to the lines with a target and fields outside any span. -/
def appliesTo (target : String) (fields : List String) (rule : LogRule) : Bool :=
  !rule.insideSpan && rule.target.all (fun name => name.toList.isPrefixOf target.toList) &&
    rule.field.all fields.contains

/-- The size of the target that a rule names; a rule that names none is the least. -/
def reach (rule : LogRule) : Nat :=
  match rule.target with
  | some name => name.utf8ByteSize + 1
  | none => 0

/-- Whether a rule takes precedence over one that was given before: it names a longer
target, or as long a one and a field that is not before the other's. -/
def overrides (rule earlier : LogRule) : Bool :=
  earlier.reach < rule.reach ||
    (earlier.reach = rule.reach &&
      match earlier.field, rule.field with
      | none, _ => true
      | some _, none => false
      | some before, some name => before ≤ name)

/-! ## Reading rules -/

/-- A text without its first bytes. -/
def dropBytes : Nat → List Char → List Char
  | 0, text => text
  | _ + 1, [] => []
  | size + 1, c :: rest => dropBytes (size + 1 - c.utf8Size) rest

/-- The first bytes of a text. -/
def takeBytes : Nat → List Char → List Char
  | 0, _ => []
  | _ + 1, [] => []
  | size + 1, c :: rest => c :: takeBytes (size + 1 - c.utf8Size) rest

/-- What a reader of a rule is in the middle of. Numbers are the places in bytes where
the name at hand starts. -/
inductive Place where
  | start
  /-- The target, or a verbosity without one. -/
  | target (first : Nat)
  | span (first : Nat)
  | field (first : Nat)
  | afterField
  | afterSpan
  | verbosity (first : Nat)
  deriving DecidableEq, Repr

/-- A reader of a rule: the place in bytes, what is being read there, and the rule as
far as it is known. -/
structure Reader where
  offset : Nat
  place : Place
  rule : LogRule
  deriving DecidableEq, Repr

namespace Reader

/-- Whether a rule may start with a character. -/
def mayStart (c : Char) : Bool :=
  "-:_".toList.contains c || Text.isAlphanumeric c

/-- Narrow a rule down to the lines with a field, which may be given with a value. -/
def withField? (rule : LogRule) (text : List Char) : Option LogRule :=
  match text, text.splitOn '=' with
  | [], _ | _, [] => none
  | _, [name] => some { rule with field := some (String.ofList name) }
  | _, _ :: value :: _ =>
    if Pattern.isValue value then some { rule with insideSpan := true } else none

/-- Read one character. The names that have ended are cut out of `text`. -/
def take (text : List Char) (reader : Reader) (c : Char) : Option Reader :=
  let next := reader.offset + c.utf8Size
  let name (first : Nat) : List Char := takeBytes (reader.offset - first) (dropBytes first text)
  let go (place : Place) (rule : LogRule) : Option Reader := some ⟨next, place, rule⟩
  let rule := reader.rule
  match reader.place, c with
  | .start, '[' => go (.span next) rule
  | .start, c => if mayStart c then go (.target reader.offset) rule else none
  | .target first, '=' => go (.verbosity next) { rule with target := String.ofList (name first) }
  | .target first, '[' => go (.span next) { rule with target := String.ofList (name first) }
  | .span _, ']' => go .afterSpan { rule with insideSpan := true }
  | .span first, '{' => go (.field next) { rule with insideSpan := !(name first).isEmpty }
  | .field first, '}' => (withField? rule (name first)).bind (go .afterField)
  | .afterField, ']' => go .afterSpan rule
  | .afterSpan, '=' => go (.verbosity next) rule
  | .afterField, _ | .afterSpan, _ => none
  | place, _ => go place rule

/-- The rule at the end of a text. -/
def finish (text : List Char) (reader : Reader) : Option LogRule :=
  let name (first : Nat) : String := String.ofList (dropBytes first text)
  match reader.place with
  | .target first =>
    match Verbosity.ofWord? (name first) with
    | some verbosity => some (general verbosity)
    | none => some { general .trace with target := name first }
  | .verbosity first =>
    if (name first).isEmpty then some reader.rule
    else (Verbosity.ofWord? (name first)).map fun verbosity => { reader.rule with verbosity }
  | .afterSpan => some reader.rule
  | .start | .span _ | .field _ | .afterField => none

end Reader

/-- The rule that a text writes down. Blanks around it are passed over in reading, but
the names are cut out of the whole text, as many bytes from its start as they were
met behind the blanks. -/
def ofText? (text : List Char) : Option LogRule :=
  ((Text.trim text).foldlM (Reader.take text) ⟨0, .start, general .trace⟩).bind
    (Reader.finish text)

end LogRule

end Quiesce
