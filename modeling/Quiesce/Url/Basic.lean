/-
# URLs

A URL in its parts, with every part already in the form in which it is written.
A path is a list of segments, or, for a scheme that is followed by neither an
authority nor a slash, an unstructured text to which no segment can be added.

A segment that is the letter of a drive and a colon or bar is the root of its
path whatever the scheme: no dot segment leads out of it.
-/

import Quiesce.Text.Digits
import Quiesce.Text.Hex
import Quiesce.Text.Percent

namespace Quiesce

namespace Url

/-- The host of a URL. -/
inductive Host where
  /-- A name in the form in which it is written. -/
  | name (text : String)
  | ipv4 (address : UInt32)
  /-- An address of eight groups of sixteen bits. -/
  | ipv6 (groups : List UInt16)
  deriving DecidableEq, Repr

/-- The path of a URL. -/
inductive Path where
  | segments (parts : List String)
  | unstructured (text : String)
  deriving DecidableEq, Repr

end Url

/-- A URL. An absent user name or password is empty. -/
structure Url where
  scheme : String
  username : String
  password : String
  host : Option Url.Host
  port : Option UInt16
  /-- Without a host, whether a dot segment keeps the path apart from the scheme. -/
  guarded : Bool
  path : Url.Path
  query : Option String
  fragment : Option String
  deriving DecidableEq, Repr

namespace Url

/-! ## Characters that are percent-encoded -/

/-- Controls and all characters beyond ASCII. -/
def isControl (c : Char) : Bool :=
  c.toNat < 0x20 || 0x7F ≤ c.toNat

/-- Encoded in a fragment. -/
def inFragmentSet (c : Char) : Bool :=
  isControl c || " \"<>`".toList.contains c

/-- Encoded in a query; web schemes encode the apostrophe too. -/
def inQuerySet (special : Bool) (c : Char) : Bool :=
  isControl c || " \"#<>".toList.contains c || (special && c = '\'')

/-- Encoded in a path. -/
def inPathSet (c : Char) : Bool :=
  inFragmentSet c || c = '#' || c = '?' || c = '\x7b' || c = '\x7d'

/-- Encoded in a user name or password. -/
def inUserSet (c : Char) : Bool :=
  inPathSet c || "/:;=@[\\]^|".toList.contains c

/-- Encoded in a segment that is added to a path. -/
def inSegmentSet (special : Bool) (c : Char) : Bool :=
  inPathSet c || c = '/' || c = '%' || (special && c = '\\')

/-- A text with a set of characters percent-encoded. -/
def encoded (escaped : Char → Bool) (text : List Char) : String :=
  String.ofList (Percent.encode escaped text)

/-! ## Schemes -/

/-- Whether a scheme follows the rules of the web: it has a host, its path is
never empty, and a backslash counts as a slash. -/
def isSpecial (scheme : String) : Bool :=
  ["http", "https", "ws", "wss", "ftp", "file"].contains scheme

/-- The port that need not be written. -/
def defaultPort? (scheme : String) : Option UInt16 :=
  match scheme with
  | "http" | "ws" => some 80
  | "https" | "wss" => some 443
  | "ftp" => some 21
  | _ => none

/-! ## Paths -/

/-- The spellings of a segment that stands for its own directory. -/
def isSingleDot (segment : String) : Bool :=
  [".", "%2e", "%2E"].contains segment

/-- The spellings of a segment that stands for the directory above. -/
def isDoubleDot (segment : String) : Bool :=
  ["..", "%2e%2e", "%2e%2E", "%2E%2e", "%2E%2E", "%2e.", "%2E.", ".%2e", ".%2E"].contains segment

/-- Whether a text is a drive: a letter and a colon or bar. -/
def isDrive (segment : List Char) : Bool :=
  match segment with
  | [letter, mark] => letter.isAlpha && (mark = ':' || mark = '|')
  | _ => false

/-- Whether a segment is a drive, up to a backslash that does not end it. -/
def namesDrive (segment : String) : Bool :=
  isDrive (segment.toList.takeWhile (· ≠ '\\'))

/-- Leave the last segment, unless it is a drive. The last segment comes first. -/
def ascend : List String → List String
  | [] => []
  | segment :: above => if namesDrive segment then segment :: above else above

/-- Add a segment that is already encoded to the segments above it, the nearest of
which comes first. A dot segment is resolved; as the last one of a path it leaves
an empty segment behind. -/
def addSegment (last : Bool) (above : List String) (segment : String) : List String :=
  let behind := if last then [""] else []
  if isDoubleDot segment then behind ++ ascend above
  else if isSingleDot segment then behind ++ above
  else segment :: above

/-- The path of a file does not start with empty segments, unless that is all it is. -/
def dropEmpty : List String → List String
  | "" :: next :: rest => dropEmpty (next :: rest)
  | parts => parts

/-- Tabs and line ends do not count anywhere in a URL. -/
def isIgnored (c : Char) : Bool :=
  c = '\t' || c = '\n' || c = '\r'

/-- Push a text as one segment. A dot segment written out is not pushed at all,
and the segment of a path that is just a slash is replaced. -/
def pushSegment (scheme : String) (parts : List String) (text : String) : List String :=
  if text = "." ∨ text = ".." then parts
  else
    let kept := text.toList.filter fun c => !isIgnored c
    let segment := encoded (inSegmentSet (isSpecial scheme)) kept
    let above := if parts = [""] then [] else parts.reverse
    let parts := (addSegment true above segment).reverse
    if scheme = "file" then dropEmpty parts else parts

/-- Drop one empty segment at the end of a path that is more than a slash. -/
def dropTrailing (parts : List String) : List String :=
  if 2 ≤ parts.length ∧ parts.getLast? = some "" then parts.dropLast else parts

/-- A URL with texts pushed to the end of its path as one segment each. -/
def extendPath (url : Url) (texts : List String) : Url :=
  match url.path with
  | .segments parts =>
    { url with path := .segments (texts.foldl (pushSegment url.scheme) (dropTrailing parts)) }
  | .unstructured _ => url

/-! ## The text of a URL -/

/-- The length of the run of zero groups at the start. -/
def zeroRun : List UInt16 → Nat
  | 0 :: rest => zeroRun rest + 1
  | _ => 0

/-- The start and length of the first longest run of at least two zero groups. -/
def longestRun (groups : List UInt16) : Option (Nat × Nat) :=
  go 0 none groups
where
  /-- Try every start in turn, keeping the best run so far. -/
  go (position : Nat) (best : Option (Nat × Nat)) : List UInt16 → Option (Nat × Nat)
    | [] => best
    | group :: rest =>
      let length := zeroRun (group :: rest)
      let least := match best with
        | some (_, found) => found + 1
        | none => 2
      go (position + 1) (if least ≤ length then some (position, length) else best) rest

/-- Groups in hexadecimal, joined by colons. -/
def groupsText (groups : List UInt16) : String :=
  ":".intercalate (groups.map fun group => String.ofList (Hex.text group.toNat))

namespace Host

/-- A host as it is written. -/
def text : Host → String
  | .name text => text
  | .ipv4 address =>
    let parts := [16777216, 65536, 256, 1].map fun unit => decimal (address.toNat / unit % 256)
    ".".intercalate parts
  | .ipv6 groups =>
    match longestRun groups with
    | some (start, length) =>
      s!"[{groupsText (groups.take start)}::{groupsText (groups.drop (start + length))}]"
    | none => s!"[{groupsText groups}]"

end Host

/-- The user name and password before a host. -/
def userText (url : Url) : String :=
  if url.username.isEmpty ∧ url.password.isEmpty then ""
  else if url.password.isEmpty then url.username ++ "@"
  else s!"{url.username}:{url.password}@"

/-- The authority with the slashes before it, or what keeps the path apart. -/
def authorityText (url : Url) : String :=
  match url.host with
  | some host =>
    let port := match url.port with
      | some port => ":" ++ decimal port.toNat
      | none => ""
    "//" ++ url.userText ++ host.text ++ port
  | none => if url.guarded then "/." else ""

/-- The path as it is written. -/
def pathText (url : Url) : String :=
  match url.path with
  | .segments parts => String.join (parts.map ("/" ++ ·))
  | .unstructured text => text

/-- A part of a URL behind its mark. -/
def marked (mark : String) : Option String → String
  | some text => mark ++ text
  | none => ""

/-- A URL as it is written. -/
def text (url : Url) : String :=
  url.scheme ++ ":" ++ url.authorityText ++ url.pathText ++ marked "?" url.query ++
    marked "#" url.fragment

end Url

end Quiesce
