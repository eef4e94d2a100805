/-
# Reading URLs

A URL is read part by part from left to right. Blanks around it and tabs and
line ends anywhere in it do not count, with one exception: behind the drive that
starts the path of a file they end its segment. What comes out is already in
written form: the scheme and the host in lower case, the default port left out,
dot segments resolved, and everything that needs it percent-encoded.
-/

import Quiesce.Url.Host

namespace Quiesce.Url

/-- A text without the blanks and controls around it. -/
def trimmed (text : String) : List Char :=
  ((text.toList.dropWhile isMargin).reverse.dropWhile isMargin).reverse
where
  /-- Blanks and controls around a URL do not count. -/
  isMargin (c : Char) : Bool :=
    c.toNat ≤ 0x20

/-- The characters of a text that count. -/
def relevant (text : List Char) : List Char :=
  text.filter fun c => !isIgnored c

/-- The scheme in lower case and the text after its colon. -/
def scheme? (text : List Char) : Option (String × List Char) :=
  let continues (c : Char) : Bool := c.isAlphanum || "+-.".toList.contains c || isIgnored c
  let scheme := relevant (text.takeWhile continues)
  match scheme, text.dropWhile continues with
  | first :: _, ':' :: rest =>
    if first.isAlpha then some (String.ofList (scheme.map Char.toLower), rest) else none
  | _, _ => none

/-- Whether a character is a slash; a backslash is one in a web URL. -/
def isSlash (special : Bool) (c : Char) : Bool :=
  c = '/' || (special && c = '\\')

/-- Segments of a path as they stand in a text, added one after another to those above
them. The last segment comes first in the result. -/
def addSegments (above : List String) : List (List Char) → List String
  | [] => above
  | [segment] => addSegment true above (encoded inPathSet segment)
  | segment :: rest => addSegments (addSegment false above (encoded inPathSet segment)) rest

/-- The path, query and fragment of a text, each as it stands. -/
def splitTail (text : List Char) : List Char × Option (List Char) × Option (List Char) :=
  let beforeFragment := text.takeWhile (· ≠ '#')
  let fragment := match text.dropWhile (· ≠ '#') with
    | _ :: rest => some rest
    | [] => none
  let query := match beforeFragment.dropWhile (· ≠ '?') with
    | _ :: rest => some rest
    | [] => none
  (beforeFragment.takeWhile (· ≠ '?'), query, fragment)

/-- A URL whose path has been read, completed by what is behind it. -/
def complete (url : Url) (query fragment : Option (List Char)) : Url :=
  { url with
    query := query.map fun text => encoded (inQuerySet (isSpecial url.scheme)) (relevant text)
    fragment := fragment.map fun text => encoded inFragmentSet (relevant text) }

/-- A URL that has nothing but a scheme. -/
def ofScheme (scheme : String) : Url :=
  ⟨scheme, "", "", none, none, false, .segments [], none, none⟩

/-- A text without the slash at its start. -/
def withoutSlash (special : Bool) (text : List Char) : List Char :=
  match text with
  | c :: rest => if isSlash special c then rest else text
  | [] => []

/-- The segments of the path of any URL but that of a file. That of a web URL is
never empty. -/
def readPath (special : Bool) (text : List Char) : List String :=
  if text.isEmpty ∧ ¬ special then []
  else (addSegments [] ((withoutSlash special text).splitOnP (isSlash special))).reverse

/-- A URL whose authority has been read, with the path, query and fragment of the
text behind it. A path that without a host would look like one is guarded. -/
def withTail (url : Url) (text : List Char) : Url :=
  let (pathText, query, fragment) := splitTail text
  let parts := readPath (isSpecial url.scheme) pathText
  let guarded := url.host.isNone && 2 ≤ parts.length && parts.head? = some ""
  complete { url with guarded, path := .segments parts } query fragment

/-- The part of an authority after its last at sign, and the part before it. -/
def splitUser (authority : List Char) : List Char × Option (List Char) :=
  let reversed := authority.reverse
  match reversed.dropWhile (· ≠ '@') with
  | _ :: user => ((reversed.takeWhile (· ≠ '@')).reverse, some user.reverse)
  | [] => (authority, none)

/-- The user name and password, encoded. -/
def readUser (user : List Char) : String × String :=
  let password := match user.dropWhile (· ≠ ':') with
    | _ :: rest => rest
    | [] => []
  (encoded inUserSet (user.takeWhile (· ≠ ':')), encoded inUserSet password)

/-- The host and what follows it from a colon on. Colons in brackets do not count. -/
def splitHost (inside : Bool) : List Char → List Char × List Char
  | [] => ([], [])
  | c :: rest =>
    if c = ':' ∧ ¬ inside then ([], c :: rest)
    else
      let inside := if c = '[' then true else if c = ']' then false else inside
      let (host, after) := splitHost inside rest
      (c :: host, after)

/-- The port after a colon, unless it is the scheme's own, and the text behind it. -/
def readPort (scheme : String) (text : List Char) : Option (Option UInt16 × List Char) :=
  let digits := text.takeWhile Char.isDigit
  let rest := text.dropWhile Char.isDigit
  let value := digits.foldl (fun total c => total * 10 + (c.toNat - '0'.toNat)) 0
  if UInt16.size ≤ value ∨ ¬ (rest.isEmpty ∨ rest.head? = some '\\') then none
  else
    let port := if digits.isEmpty then none else some (UInt16.ofNat value)
    some (if port = defaultPort? scheme then none else port, rest)

/-- The rest of a URL behind two slashes, other than a file. -/
def readAuthority (scheme : String) (text : List Char) : Option Url := do
  let special := isSpecial scheme
  let ends (c : Char) : Bool := isSlash special c || c = '?' || c = '#'
  let tail := text.dropWhile fun c => !ends c
  let (location, user) := splitUser (text.takeWhile fun c => !ends c)
  if user = some [] ∧ location.isEmpty ∧ ¬ tail.isEmpty then none
  let (username, password) := readUser (user.getD [])
  let (hostText, after) := splitHost false location
  let host ← if special then webHost? hostText else plainHost? hostText
  let hasUser := ¬ (username.isEmpty ∧ password.isEmpty)
  if hostText.isEmpty ∧ (hasUser ∨ ¬ after.isEmpty) then none
  let (port, behind) ← readPort scheme (after.drop 1)
  return withTail { ofScheme scheme with username, password, host := some host, port }
    (behind ++ tail)

/-- The path of a file while it is read. -/
structure FilePath where
  /-- The segments so far, the last one first. -/
  above : List String
  /-- Whether there is a host that a drive at the start of the path replaces. -/
  hosted : Bool
  deriving DecidableEq, Repr

namespace FilePath

/-- A drive at the start of a segment and the text behind it, which a tab or a
line end keeps apart. -/
def splitDrive? (segment : List Char) : Option (String × List Char) :=
  match segment.dropWhile isIgnored with
  | letter :: rest =>
    match rest.dropWhile isIgnored with
    | ':' :: divider :: rest =>
      let behind := relevant rest
      if letter.isAlpha ∧ isIgnored divider ∧ ¬ behind.isEmpty then
        some (String.ofList [letter, ':'], behind)
      else none
    | _ => none
  | [] => none

/-- Add a segment as it stands in the text. -/
def add (last : Bool) (path : FilePath) (segment : List Char) : FilePath :=
  let kept := relevant segment
  let added := { path with above := addSegment last path.above (encoded inPathSet kept) }
  match path.above, splitDrive? segment with
  | [], some (drive, behind) => { path with above := [encoded inPathSet behind, drive] }
  | [], none =>
    if path.hosted ∧ isDrive kept then ⟨[String.ofList (kept.take 1 ++ [':'])], false⟩ else added
  | _ :: _, _ => added

/-- Add segments one after another. -/
def addAll (path : FilePath) : List (List Char) → FilePath
  | [] => path
  | [segment] => path.add true segment
  | segment :: rest => (path.add false segment).addAll rest

end FilePath

/-- The host of a file that is at hand. -/
def localHost : Host :=
  .name ""

/-- The URL of a file, given its host, with the path, query and fragment of the
text behind it. -/
def fileWithTail (host : Host) (text : List Char) : Url :=
  let (pathText, query, fragment) := splitTail text
  let segments := (withoutSlash true (pathText.dropWhile isIgnored)).splitOnP (isSlash true)
  let path := FilePath.addAll ⟨[], host ≠ localHost⟩ segments
  complete { ofScheme "file" with
    host := some (if path.hosted then host else localHost)
    path := .segments (dropEmpty path.above.reverse) } query fragment

/-- The rest of the URL of a file behind two slashes. The name of the local host is
left out, and a drive is no host. -/
def readFileAuthority (text : List Char) : Option Url :=
  let ends (c : Char) : Bool := isSlash true c || c = '?' || c = '#'
  let hostText := relevant (text.takeWhile fun c => !ends c)
  let tail := text.dropWhile fun c => !ends c
  if isDrive hostText then some (fileWithTail localHost text)
  else if hostText.isEmpty then some (fileWithTail localHost tail)
  else
    (webHost? hostText).map fun host =>
      fileWithTail (if host = .name "localhost" then localHost else host) tail

/-- The URL of a file. -/
def readFile (text : List Char) : Option Url :=
  match text.dropWhile isIgnored with
  | first :: rest =>
    match rest.dropWhile isIgnored with
    | second :: behind =>
      if isSlash true first ∧ isSlash true second then readFileAuthority behind
      else some (fileWithTail localHost text)
    | [] => some (fileWithTail localHost text)
  | [] => some (fileWithTail localHost text)

/-- The URL of a scheme other than that of files and the text behind its colon. -/
def ofParts? (scheme : String) (text : List Char) : Option Url :=
  if isSpecial scheme then readAuthority scheme (text.dropWhile (isSlash true))
  else
    match text with
    | '/' :: '/' :: rest => readAuthority scheme rest
    | '/' :: _ => some (withTail (ofScheme scheme) text)
    | text =>
      let (pathText, query, fragment) := splitTail text
      let path := Path.unstructured (encoded isControl pathText)
      some (complete { ofScheme scheme with path } query fragment)

/-- The URL that a text spells, without reference to another URL. -/
def parse? (text : String) : Option Url :=
  match scheme? (trimmed text) with
  | some ("file", rest) => readFile rest
  | some (scheme, rest) => ofParts? scheme (relevant rest)
  | none => none

end Quiesce.Url
