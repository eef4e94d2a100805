/-
# What is known of a proxy

A proxy's standing is what the load balancer is told about it. A record joins
the standing with the proxy's capacity, the number of players it may hold.
-/

namespace Quiesce

/-- Whether a proxy takes players. -/
inductive Standing where
  /-- The proxy takes players. -/
  | up
  /-- The proxy keeps the players it has and takes no more. -/
  | draining
  /-- The proxy takes no players and holds none worth keeping. -/
  | down
  deriving DecidableEq, Repr

namespace Standing

/-- The name by which a standing is reported. -/
def label : Standing → String
  | .up => "UP"
  | .draining => "DRAINING"
  | .down => "DOWN"

/-- All standings by name. -/
def cases : List (String × Standing) :=
  [("UP", .up), ("DRAINING", .draining), ("DOWN", .down)]

/-- The standing an operator means by a word. ASCII case does not matter, and
"drain" is short for "draining". -/
def ofWord? (word : String) : Option Standing :=
  match word.map Char.toUpper with
  | "UP" => some .up
  | "DRAIN" | "DRAINING" => some .draining
  | "DOWN" => some .down
  | _ => none

/-- The answer to a word that means no standing. -/
def refusal (word : String) : String :=
  word ++ " is not a valid proxy state"

end Standing

/-- What is kept of a proxy. -/
structure Record where
  standing : Standing
  capacity : UInt32
  deriving DecidableEq, Repr

/-- A proxy as it is listed. -/
structure Entry where
  name : String
  standing : Standing
  capacity : UInt32
  awaitingStop : Bool
  deriving DecidableEq, Repr

end Quiesce
