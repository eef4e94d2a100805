/-
# The roster of proxies

The roster keeps a record of every known proxy and the set of proxies that
await their stop: those whose stop was refused because players were still on
them. Names are compared exactly, and listed in ascending order of their code
points, which is also the order of their UTF-8 bytes.
-/

import Quiesce.Standing
import Std.Data.ExtTreeMap
import Std.Data.ExtTreeSet

namespace Quiesce

/-- The known proxies, those of them that await their stop, and the capacity of
a proxy that has not reported any. -/
structure Roster where
  defaultCapacity : UInt32
  records : Std.ExtTreeMap String Record
  awaiting : Std.ExtTreeSet String

namespace Roster

/-- A roster without proxies. -/
def empty (defaultCapacity : UInt32) : Roster :=
  ⟨defaultCapacity, ∅, ∅⟩

variable (roster : Roster)

/-! ## Views -/

/-- The record of a proxy, if it is known. -/
def find? (name : String) : Option Record :=
  roster.records[name]?

/-- The record a proxy starts with. -/
def freshRecord : Record :=
  ⟨.up, roster.defaultCapacity⟩

/-- The record of a proxy, or the one it would start with. -/
def recordOf (name : String) : Record :=
  (roster.find? name).getD roster.freshRecord

/-- Whether a proxy awaits its stop. -/
def awaitsStop (name : String) : Bool :=
  roster.awaiting.contains name

/-- A proxy with its record, as listed. -/
def entryOf (name : String) (record : Record) : Entry :=
  ⟨name, record.standing, record.capacity, roster.awaitsStop name⟩

/-- A known proxy, as listed. -/
def entry? (name : String) : Option Entry :=
  (roster.find? name).map (roster.entryOf name)

/-- All known proxies, in the order of their names. -/
def entries : List Entry :=
  roster.records.toList.map fun (name, record) => roster.entryOf name record

/-- The number of known proxies. -/
def size : Nat :=
  roster.records.size

/-! ## Changes of records -/

/-- Replace the whole record of a proxy, known or not. -/
def overwrite (name : String) (record : Record) : Roster :=
  { roster with records := roster.records.insert name record }

/-- Make sure that a proxy is known. -/
def enrol (name : String) : Roster :=
  roster.overwrite name (roster.recordOf name)

/-- Set the standing of a proxy, known or not. -/
def assign (name : String) (standing : Standing) : Roster :=
  roster.overwrite name { roster.recordOf name with standing := standing }

/-- Set the standing of a proxy if it is known. -/
def reassign (name : String) (standing : Standing) : Roster :=
  match roster.find? name with
  | some record => roster.overwrite name { record with standing := standing }
  | none => roster

/-- Set the capacity of a proxy if it is known. -/
def resize (name : String) (capacity : UInt32) : Roster :=
  match roster.find? name with
  | some record => roster.overwrite name { record with capacity := capacity }
  | none => roster

/-- Set the standing of a proxy, and its capacity if one is given, whatever is
known of it. -/
def override (name : String) (standing : Standing) (capacity : Option UInt32) : Roster :=
  match capacity with
  | some capacity => roster.overwrite name ⟨standing, capacity⟩
  | none => roster.assign name standing

/-- Forget a proxy altogether. -/
def forget (name : String) : Roster :=
  { roster with
    records := roster.records.erase name
    awaiting := roster.awaiting.erase name }

/-! ## Drains -/

/-- Note that a proxy awaits its stop. -/
def await (name : String) : Roster :=
  { roster with awaiting := roster.awaiting.insert name }

/-- Note that a proxy does not await its stop. -/
def unawait (name : String) : Roster :=
  { roster with awaiting := roster.awaiting.erase name }

/-- Open a drain: the proxy takes no more players and awaits its stop. -/
def openDrain (name : String) : Roster :=
  (roster.assign name .draining).await name

/-- Close a drain, or none: the proxy is down and awaits nothing. -/
def closeDrain (name : String) : Roster :=
  (roster.assign name .down).unawait name

/-- Whether a proxy's drain is over: it is down and still awaits its stop. -/
def drained (name : String) : Bool :=
  roster.awaitsStop name && (roster.find? name).any (·.standing = .down)

/-- Conclude a drain that is over. Tells whether there was one. -/
def concludeDrain (name : String) : Bool × Roster :=
  if roster.drained name then (true, roster.unawait name) else (false, roster)

/-- Take the claim to request the stop of a proxy. Only one can take it, because
the proxy no longer awaits its stop afterwards. -/
def takeClaim (name : String) : Bool × Roster :=
  (roster.awaitsStop name, roster.unawait name)

/-- Give back a claim whose request failed. A proxy that is no longer draining
does not await its stop again. Tells whether it newly does. -/
def returnClaim (name : String) : Bool × Roster :=
  if (roster.find? name).any (·.standing = .draining) then
    (!roster.awaitsStop name, roster.await name)
  else (false, roster)

/-- Note that the stop of a proxy was requested with success. -/
def noteStopped (name : String) : Roster :=
  roster.reassign name .down

end Roster

end Quiesce
