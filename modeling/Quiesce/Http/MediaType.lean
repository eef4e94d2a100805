/-
# Media types

The media type of a body is a type and a subtype joined by a slash, perhaps
followed by parameters. Letter case does not matter. A subtype may end in a
suffix that names the format the subtype is based on. A value that does not
follow the grammar names no media type.
-/

namespace Quiesce.Http

/-- A media type without its parameters, in lower case. -/
structure MediaType where
  kind : String
  subtype : String
  /-- What follows the last plus sign of the subtype. -/
  suffix : Option String
  deriving DecidableEq, Repr

namespace MediaType

/-- Whether a character may occur in a name. -/
def isTokenChar (c : Char) : Bool :=
  c.isAlphanum || "!#$%&'*+-.^_`|~".toList.contains c

/-- Whether a character may occur between quotes. -/
def isQuotable (c : Char) : Bool :=
  0x20 ≤ c.toNat && c.toNat ≠ 0x7F

/-- Whether a character may occur in a header value. -/
def isVisible (c : Char) : Bool :=
  c = '\t' || (0x20 ≤ c.toNat && c.toNat < 0x7F)

/-- How far the parameters have been read. -/
inductive ParameterState where
  | start
  | name
  | valueStart
  | value
  | quoteStart
  | quote
  | afterQuote
  deriving DecidableEq, Repr

/-- The state after one more character; `none` when it does not fit. Blanks are
allowed before a name and after a closing quote, and a quoted value has at
least one character. -/
def ParameterState.next? (c : Char) : ParameterState → Option ParameterState
  | .start => if c = ' ' then some .start else if isTokenChar c then some .name else none
  | .name => if c = '=' then some .valueStart else if isTokenChar c then some .name else none
  | .valueStart => if c = '"' then some .quoteStart else if isTokenChar c then some .value else none
  | .value => if c = ';' then some .start else if isTokenChar c then some .value else none
  | .quoteStart => if isQuotable c then some .quote else none
  | .quote => if c = '"' then some .afterQuote else if isQuotable c then some .quote else none
  | .afterQuote => if c = ';' then some .start else if c = ' ' then some .afterQuote else none

/-- Whether the parameters may end in a state. -/
def ParameterState.final : ParameterState → Bool
  | .start | .valueStart | .value | .afterQuote => true
  | .name | .quoteStart | .quote => false

/-- Whether a text is a well-formed list of parameters. -/
def areParameters (text : List Char) : Bool :=
  match text.foldlM (fun state c => ParameterState.next? c state) ParameterState.start with
  | some state => state.final
  | none => false

/-- A subtype and its suffix. A plus sign at the very start belongs to the subtype. -/
def splitSuffix (subtype : List Char) : List Char × Option (List Char) :=
  let reversed := subtype.reverse
  let suffix := reversed.takeWhile (· ≠ '+')
  match reversed.dropWhile (· ≠ '+') with
  | '+' :: c :: rest => ((c :: rest).reverse, some suffix.reverse)
  | _ => (subtype, none)

/-- A text in lower case. -/
def lowered (text : List Char) : String :=
  String.ofList (text.map Char.toLower)

/-- The media type of a type and a subtype. -/
def make (kind subtype : List Char) : MediaType :=
  let (subtype, suffix) := splitSuffix subtype
  ⟨lowered kind, lowered subtype, suffix.map lowered⟩

/-- The media type that a header value names. -/
def ofHeader? (header : String) : Option MediaType :=
  let text := header.toList
  let kind := text.takeWhile isTokenChar
  if ¬ text.all isVisible ∨ kind.isEmpty then none
  else
    match text.dropWhile isTokenChar with
    | '/' :: rest =>
      let subtype := rest.takeWhile isTokenChar
      match rest.dropWhile isTokenChar with
      | [] => some (make kind subtype)
      | ';' :: parameters =>
        if ¬ subtype.isEmpty ∧ areParameters parameters then some (make kind subtype) else none
      | _ => none
    | _ => none

/-- Whether bodies of a media type are JSON. -/
def isJson (mediaType : MediaType) : Bool :=
  mediaType.kind = "application" && (mediaType.subtype = "json" || mediaType.suffix = some "json")

end MediaType

end Quiesce.Http
