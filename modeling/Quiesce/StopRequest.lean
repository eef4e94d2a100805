/-
# Requests for a stop

The orchestrator is asked to stop a service by a POST request to a path made of
the service's name. A request that fails in a way that may pass is repeated
after a wait; the orchestrator may say how long to wait. Any answer of success
ends the attempts, and so does a rejection, or the last attempt allowed.
-/

import Quiesce.Backoff
import Quiesce.Http.MediaType
import Quiesce.Http.Status
import Quiesce.Text.Unsigned
import Quiesce.Url.Reading

namespace Quiesce.StopRequest

/-- What becomes of one request. -/
inductive Reaction where
  /-- The orchestrator answers with a status and values of the header that says
  how long to wait. -/
  | answered (status : Nat) (retryAfter : List String)
  /-- The orchestrator takes the request and never answers it. -/
  | lost
  /-- No connection is made. -/
  | unreachable
  deriving DecidableEq, Repr

/-- Why the stop of a service could not be requested. -/
inductive Failure where
  /-- The orchestrator's URL is no URL, or no path can be added to it. -/
  | invalidUrl (text : String)
  /-- The request could not be sent to its URL. -/
  | unsendable (url : String)
  /-- The request got no answer. -/
  | unanswered (url : String)
  /-- The orchestrator cannot take the request now. -/
  | refusedForNow (status : Nat) (retryAfter : Option Duration)
  /-- The orchestrator does not take the request. -/
  | rejected (status : Nat)
  deriving DecidableEq, Repr

namespace Failure

/-- The wording of a failure. -/
def message : Failure → String
  | .invalidUrl text => text ++ " is not a valid orchestrator url"
  | .unsendable url =>
    "a stop request could not be delivered but it could be retried later: " ++
      s!"builder error for url ({url})"
  | .unanswered url =>
    "a stop request could not be delivered but it could be retried later: " ++
      s!"error sending request for url ({url})"
  | .refusedForNow status _ =>
    s!"orchestrator responded with {Http.statusText status}, stop request can be retried later"
  | .rejected status => "orchestrator rejected the stop request with " ++ Http.statusText status

/-- Whether a failure may pass. -/
def retryable : Failure → Bool
  | .invalidUrl _ | .rejected _ => false
  | .unsendable _ | .unanswered _ | .refusedForNow _ _ => true

/-- How long the orchestrator asks to wait. -/
def retryAfter : Failure → Option Duration
  | .refusedForNow _ retryAfter => retryAfter
  | _ => none

end Failure

/-- The orchestrator's URL, to whose path segments can be added. -/
def readBase (text : String) : Except Failure Url :=
  match Url.parse? text with
  | none => .error (.invalidUrl text)
  | some url =>
    match url.path with
    | .segments _ => .ok url
    | .unstructured _ => .error (.invalidUrl url.text)

/-- The URL that requests the stop of a service. -/
def urlFor (base : Url) (service : String) : Url :=
  base.extendPath ["services", service, "stop"]

/-- Whether a percent-encoded text stands for a text. -/
def isText (encoded : String) : Bool :=
  (Utf8.decode? (Percent.decode (Utf8.encode encoded))).isSome

/-- A URL as requests go to it and failures name it: without user name and password,
unless these do not stand for texts. A request has them in a header. -/
def shownUrl (url : Url) : String :=
  if isText url.username ∧ (¬ url.username.isEmpty ∨ isText url.password) then
    { url with username := "", password := "" }.text
  else url.text

/-- The length up to which a URL can be sent. -/
def longestUrl : Nat :=
  65534

/-- Whether a request can be sent to a URL. -/
def sendable (url : Url) : Bool :=
  (url.scheme = "http" || url.scheme = "https") && (shownUrl url).utf8ByteSize ≤ longestUrl &&
    match url.host with
    | some (.name name) => !name.toList.any fun c => "\"`\x7b\x7d".toList.contains c
    | _ => true

/-- The line that records a request. -/
def requestLine (url : Url) : String :=
  let bare := { url with username := "", password := "", fragment := none }
  s!"POST {bare.text} [proxy-drain]"

/-- How long a header value asks to wait: a number of seconds, perhaps between
blanks. A date, or anything else, asks for nothing. -/
def readRetryAfter (values : List String) : Option Duration :=
  match values with
  | [] => none
  | value :: _ =>
    let text := value.toList
    if text.all Http.MediaType.isVisible then
      let isMargin (c : Char) : Bool := c = ' ' || c = '\t'
      let trimmed := ((text.dropWhile isMargin).reverse.dropWhile isMargin).reverse
      (Unsigned.read64? (String.ofList trimmed)).map Duration.ofSeconds
    else none

/-- Whether an answer can be read and is the last one to its request: its status has
three digits and is not informational, unless it ends the exchange, and no header
value holds a control. -/
def isFinal (status : Nat) (retryAfter : List String) : Bool :=
  (status = 101 || (200 ≤ status && status < 1000)) &&
    retryAfter.all fun value => value.toList.all fun c =>
      c = '\t' || (0x20 ≤ c.toNat && c.toNat ≠ 0x7F)

/-- Whether a status says that the same request may succeed later. -/
def passing (status : Nat) : Bool :=
  status = 429 || (500 ≤ status && status < 600)

/-- What one request comes to. -/
def judge (url : Url) (reaction : Reaction) : Except Failure Unit :=
  if ¬ sendable url then .error (.unsendable (shownUrl url))
  else
    match reaction with
    | .lost | .unreachable => .error (.unanswered (shownUrl url))
    | .answered status retryAfter =>
      if ¬ isFinal status retryAfter then .error (.unanswered (shownUrl url))
      else if 200 ≤ status ∧ status < 300 then .ok ()
      else if passing status then .error (.refusedForNow status (readRetryAfter retryAfter))
      else .error (.rejected status)

/-- Whether a request reaches the orchestrator. -/
def arrives (url : Url) (reaction : Reaction) : Bool :=
  sendable url && reaction ≠ .unreachable

/-- An attempt that failed and was repeated. -/
structure Retry where
  attempt : Nat
  wait : Duration
  failure : Failure
  deriving DecidableEq, Repr

/-- The course of a request for a stop. -/
structure Delivery where
  result : Except Failure Unit
  /-- The requests that reached the orchestrator. -/
  requests : List String
  retries : List Retry

/-- Make the attempts from a given one on. The reaction to each is given by its number. -/
def attemptFrom (backoff : Backoff) (url : Url) (react : Nat → Reaction) (attempt : Nat) :
    Delivery :=
  let reaction := react attempt
  let requests := if arrives url reaction then [requestLine url] else []
  match judge url reaction with
  | .ok () => ⟨.ok (), requests, []⟩
  | .error failure =>
    if _again : failure.retryable ∧ backoff.mayRetry attempt then
      let wait := backoff.wait attempt failure.retryAfter
      let later := attemptFrom backoff url react (attempt + 1)
      ⟨later.result, requests ++ later.requests, ⟨attempt, wait, failure⟩ :: later.retries⟩
    else ⟨.error failure, requests, []⟩
termination_by backoff.attempts.toNat - attempt
decreasing_by
  have := _again.2
  simp only [Backoff.mayRetry, decide_eq_true_eq] at this
  omega

/-- Request the stop of a service. -/
def deliver (backoff : Backoff) (base : Url) (service : String) (react : Nat → Reaction) :
    Delivery :=
  attemptFrom backoff (urlFor base service) react 0

end Quiesce.StopRequest
