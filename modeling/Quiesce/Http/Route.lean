/-
# Routes

A path is matched as it was sent, segment by segment. The name of a proxy is
one segment, percent-decoded afterwards, so a name may hold a slash when it is
encoded. A listed proxy's name is not empty; before a further segment it may be.
-/

import Quiesce.Text.Percent

namespace Quiesce.Http

/-- What a path leads to. Names stand as they were sent. -/
inductive Route where
  | index
  | readiness
  | liveness
  | transitions
  | reports
  | deletions
  | proxies
  | proxy (rawName : List Char)
  | proxyStanding (rawName : List Char)
  /-- The counts, where they are shown. -/
  | counts
  deriving DecidableEq, Repr

/-- Whether a character ends a path. -/
def endsPath (c : Char) : Bool :=
  c = '?' || c = '#'

/-- The path of a target, without query and fragment. A target may name a scheme and
a host in front of its path, and then an empty path is the root. -/
def pathOf (target : String) : List Char :=
  let text := target.toList
  match text.dropWhile fun c => c.isAlphanum || "+-.".toList.contains c with
  | ':' :: '/' :: '/' :: rest =>
    match (rest.dropWhile fun c => c ≠ '/' && !endsPath c).takeWhile (!endsPath ·) with
    | [] => ['/']
    | path => path
  | _ => text.takeWhile (!endsPath ·)

namespace Route

/-- The route of a path, given by the parts between its slashes. -/
def ofSegments? : List String → Option Route
  | ["", ""] => some .index
  | ["", "_readiness"] => some .readiness
  | ["", "_liveness"] => some .liveness
  | ["", "events", "lifecycle"] => some .transitions
  | ["", "events", "update"] => some .reports
  | ["", "events", "deleted"] => some .deletions
  | ["", "proxies"] => some .proxies
  | ["", "proxies", name] => if name.isEmpty then none else some (.proxy name.toList)
  | ["", "proxies", name, "state"] => some (.proxyStanding name.toList)
  | ["", "metrics"] => some .counts
  | _ => none

/-- The route of a target. -/
def ofTarget? (target : String) : Option Route :=
  ofSegments? (((pathOf target).splitOn '/').map String.ofList)

/-- Whether a route is open: that of the counts is where they are shown, and all others are. -/
def isOpen (exported : Bool) : Route → Bool
  | .counts => exported
  | _ => true

/-- The pattern of the paths that lead to a route. -/
def pattern : Route → String
  | .index => "/"
  | .readiness => "/_readiness"
  | .liveness => "/_liveness"
  | .transitions => "/events/lifecycle"
  | .reports => "/events/update"
  | .deletions => "/events/deleted"
  | .proxies => "/proxies"
  | .proxy _ => "/proxies/:name"
  | .proxyStanding _ => "/proxies/:name/state"
  | .counts => "/metrics"

/-- The methods that a route allows. What may be fetched may also be asked for
without its content. -/
def methods : Route → List String
  | .index | .readiness | .liveness | .proxies | .proxy _ | .counts => ["GET", "HEAD"]
  | .transitions | .reports | .deletions => ["POST"]
  | .proxyStanding _ => ["PUT"]

end Route

/-- The name of a proxy that a segment of a path stands for; `none` when its
bytes are no text. -/
def nameOf? (rawName : List Char) : Option String :=
  Utf8.decode? (Percent.decode (Utf8.encode (String.ofList rawName)))

end Quiesce.Http
