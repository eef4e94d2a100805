/-
# Polls of the load balancer

The load balancer asks for the standing of a proxy by opening a connection and
sending the proxy's name. Only the first 1024 bytes count, and they are taken
as they come: nothing is trimmed. The answer is one line.
-/

import Quiesce.Duration
import Quiesce.Roster
import Quiesce.Text.Unsigned
import Quiesce.Text.Utf8

namespace Quiesce.Poll

/-- The number of bytes of a poll that count. -/
def nameLimit : Nat :=
  1024

/-- The name that a poll asks for. -/
def nameOf (payload : List UInt8) : String :=
  Utf8.decodeLossy (payload.take nameLimit)

/-- The line that answers a poll. -/
def reply : Option Record → String
  | some record => s!"maxconn:{decimal record.capacity.toNat} {record.standing.label}\r\n"
  | none => "down\r\n"

/-- The wording for a poll that was given up. -/
def timeoutMessage (after : Duration) : String :=
  "agent-check connection timed out after " ++ after.text

/-- Why the socket for polls could not be opened. -/
inductive BindError where
  | invalidAddress
  | invalidPort
  | inUse
  deriving DecidableEq, Repr

namespace BindError

/-- The reason in words. -/
def reason : BindError → String
  | .invalidAddress => "invalid socket address"
  | .invalidPort => "invalid port value"
  | .inUse => "Address already in use (os error 98)"

/-- The wording for an address whose socket could not be opened. -/
def message (error : BindError) (address : String) : String :=
  s!"could not open agent-check socket on {address}: {error.reason}"

end BindError

/-- What follows the last colon of an address; `none` without a colon. -/
def portText? (address : String) : Option String :=
  let reversed := address.toList.reverse
  if reversed.contains ':' then
    some (String.ofList (reversed.takeWhile (· ≠ ':')).reverse)
  else none

/-- Open the socket for polls; `taken` tells whether another socket listens there. -/
def bind (address : String) (taken : Bool) : Except BindError Unit :=
  match portText? address with
  | none => .error .invalidAddress
  | some port =>
    match Unsigned.read16? port with
    | none => .error .invalidPort
    | some _ => if taken then .error .inUse else .ok ()

end Quiesce.Poll
