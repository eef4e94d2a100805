/-
# Patterns for the values of fields

A rule of a log filter may ask for the value of a field, which is given as a
number or as a regular expression. No line of the agent is chosen by the value of
a field, so all that matters of a pattern is whether it can be read: its groups
and classes are closed, every repetition has something to repeat, and a backslash
stands before a character that it can change.

A pattern stands between braces and holds none that closes, so an opening brace,
which would start a count of repetitions, makes it unreadable.
-/

namespace Quiesce.Pattern

/-- What comes next in a pattern. -/
inductive Place where
  /-- An expression; `repeatable` says whether one has just ended. -/
  | expression (repeatable : Bool)
  /-- The first character of a group. -/
  | group
  /-- What a group that starts with a question mark is: flags or a name. -/
  | groupKind
  /-- The angle bracket before the name of a group. -/
  | nameMark
  /-- The rest of the name of a group. -/
  | groupName (empty : Bool)
  /-- A character of a class inside `depth` others, which may be the first one. -/
  | members (depth : Nat) (first : Bool)
  /-- The character behind a backslash outside classes. -/
  | escaped
  /-- The character behind a backslash in a class. -/
  | escapedMember (depth : Nat)
  deriving DecidableEq, Repr

/-- How far a pattern has been read. -/
structure Progress where
  /-- The number of groups that are open. -/
  groups : Nat
  place : Place
  deriving DecidableEq, Repr

/-- Whether a backslash may stand before a character. -/
def isEscapable (c : Char) : Bool :=
  c.toNat < 0x80 && (!c.isAlphanum && c ≠ '<' && c ≠ '>' || "dDsSwWafnrtvAz".toList.contains c)

/-- Read one character of an expression. -/
def readExpression (groups : Nat) (repeatable : Bool) (c : Char) : Option Progress :=
  match c with
  | '(' => some ⟨groups + 1, .group⟩
  | ')' => if 0 < groups then some ⟨groups - 1, .expression true⟩ else none
  | '|' => some ⟨groups, .expression false⟩
  | '*' | '+' | '?' => if repeatable then some ⟨groups, .expression true⟩ else none
  | '{' => none
  | '[' => some ⟨groups, .members 0 true⟩
  | '\\' => some ⟨groups, .escaped⟩
  | _ => some ⟨groups, .expression true⟩

/-- Read one character. -/
def read (progress : Progress) (c : Char) : Option Progress :=
  let go (place : Place) : Option Progress := some { progress with place }
  match progress.place with
  | .expression repeatable => readExpression progress.groups repeatable c
  | .group => if c = '?' then go .groupKind else readExpression progress.groups false c
  | .groupKind =>
    if c = ':' then go (.expression false)
    else if c = ')' then some ⟨progress.groups - 1, .expression false⟩
    else if c = 'P' then go .nameMark
    else if c = '<' then go (.groupName true)
    else if "imsUuxR-".toList.contains c then go .groupKind
    else none
  | .nameMark => if c = '<' then go (.groupName true) else none
  | .groupName empty =>
    if c = '>' then if empty then none else go (.expression false)
    else if c.isAlphanum ∨ c = '_' then go (.groupName false)
    else none
  | .members depth first =>
    if first ∧ c = '^' then go (.members depth true)
    else if c = ']' ∧ ¬ first then
      match depth with
      | 0 => go (.expression true)
      | depth + 1 => go (.members depth false)
    else if c = '[' then go (.members (depth + 1) true)
    else if c = '\\' then go (.escapedMember depth)
    else go (.members depth false)
  | .escaped => if isEscapable c then go (.expression true) else none
  | .escapedMember depth => if isEscapable c then go (.members depth false) else none

/-- Whether a pattern can be read to its end. -/
def isReadable (pattern : List Char) : Bool :=
  match pattern.foldlM read ⟨0, .expression false⟩ with
  | some ⟨0, .expression _⟩ => true
  | _ => false

/-- Whether a text is a number behind a plus sign, which is no pattern. -/
def isPositive (text : List Char) : Bool :=
  match text with
  | '+' :: rest =>
    let whole := rest.takeWhile Char.isDigit
    let behind := rest.dropWhile Char.isDigit
    let (fraction, behind) := match behind with
      | '.' :: behind => (behind.takeWhile Char.isDigit, behind.dropWhile Char.isDigit)
      | behind => ([], behind)
    let digits := whole ++ fraction
    let isExponent (text : List Char) : Bool := !text.isEmpty && text.all Char.isDigit
    let endsWell := match behind with
      | [] => true
      | mark :: '+' :: exponent | mark :: '-' :: exponent => isE mark && isExponent exponent
      | mark :: exponent => isE mark && isExponent exponent
    (!digits.isEmpty && endsWell) ||
      ["inf", "infinity", "nan"].contains (String.ofList (rest.map Char.toLower))
  | _ => false
where
  /-- Whether a character starts an exponent. -/
  isE (c : Char) : Bool :=
    c = 'e' || c = 'E'

/-- Whether a text can be the value of a field. -/
def isValue (text : List Char) : Bool :=
  isPositive text || isReadable text

end Quiesce.Pattern
