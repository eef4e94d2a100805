/-
# Events and requests as JSON

The JSON forms of events, proxies and request bodies. What is written is read
back as the same value: fields are written in their fixed order, the groups of
a transition may be left out when there are none, and so may a capacity.
-/

import Quiesce.Event
import Quiesce.Json.Decode
import Quiesce.Standing

namespace Quiesce

open Json (Draft Fault Medium Shape fill demand readMembers)

namespace Standing

/-- The JSON form of a standing. -/
def toJson (standing : Standing) : Json :=
  .string standing.label

/-- Read the JSON form of a standing. -/
def ofDraft (medium : Medium) (draft : Draft) : Except Fault Standing :=
  draft.readCase medium cases

end Standing

namespace Record

/-- The JSON form of a record. -/
def toJson (record : Record) : Json :=
  .object [("state", record.standing.toJson), ("max_players", .nat record.capacity.toNat)]

end Record

namespace Entry

/-- The JSON form of a listed proxy. -/
def toJson (entry : Entry) : Json :=
  .object [
    ("name", .string entry.name),
    ("state", entry.standing.toJson),
    ("max_players", .nat entry.capacity.toNat),
    ("awaiting_stop", .boolean entry.awaitingStop)]

end Entry

namespace Stage

/-- The JSON form of a stage. -/
def toJson (stage : Stage) : Json :=
  .string stage.label

/-- Read the JSON form of a stage. -/
def ofDraft (medium : Medium) (draft : Draft) : Except Fault Stage :=
  draft.readCase medium cases

end Stage

namespace Transition

/-- The JSON form of a transition. -/
def toJson (transition : Transition) : Json :=
  .object [
    ("service", .string transition.service),
    ("groups", .array (transition.groups.map .string)),
    ("current", transition.current.toJson),
    ("target", transition.target.toJson),
    ("occupancy", .nat transition.occupancy.toNat)]

/-- How faults name a transition. -/
def shape : Shape :=
  ⟨"LifecycleEvent", 5⟩

/-- The fields of a transition as far as they were given. -/
structure Slots where
  service : Option String
  groups : Option (List String)
  current : Option Stage
  target : Option Stage
  occupancy : Option UInt32

/-- Take one member of an object that describes a transition. -/
def Slots.take (medium : Medium) (slots : Slots) (name : String) (value : Draft) :
    Except Fault Slots := do
  match name with
  | "service" => return { slots with service := ← fill name slots.service value.readString }
  | "groups" => return { slots with groups := ← fill name slots.groups value.readStrings }
  | "current" =>
    return { slots with current := ← fill name slots.current (Stage.ofDraft medium value) }
  | "target" =>
    return { slots with target := ← fill name slots.target (Stage.ofDraft medium value) }
  | "occupancy" => return { slots with occupancy := ← fill name slots.occupancy value.readWord32 }
  | _ => return slots

/-- The transition of filled slots. -/
def Slots.toTransition (slots : Slots) : Except Fault Transition := do
  let service ← demand "service" slots.service
  let groups := slots.groups.getD []
  let current ← demand "current" slots.current
  let target ← demand "target" slots.target
  let occupancy ← demand "occupancy" slots.occupancy
  return ⟨service, groups, current, target, occupancy⟩

/-- Read the JSON form of a transition. -/
def ofDraft (medium : Medium) : Draft → Except Fault Transition
  | .object members closed => do
    let slots ← readMembers medium (Slots.take medium) ⟨none, none, none, none, none⟩ members closed
    slots.toTransition
  | .array items closed => do
    let service ← shape.element items closed 0 Draft.readString none
    let groups ← shape.element items closed 1 Draft.readStrings (some [])
    let current ← shape.element items closed 2 (Stage.ofDraft medium) none
    let target ← shape.element items closed 3 (Stage.ofDraft medium) none
    let occupancy ← shape.element items closed 4 Draft.readWord32 none
    shape.checkEnd medium items closed
    return ⟨service, groups, current, target, occupancy⟩
  | draft => .error (draft.unexpected shape.expected)

end Transition

namespace Report

/-- The JSON form of a report. A report without a capacity has no such member. -/
def toJson (report : Report) : Json :=
  let capacity := match report.capacity with
    | some capacity => [("max_players", Json.nat capacity.toNat)]
    | none => []
  .object ([
    ("service", .string report.service),
    ("occupancy", .nat report.occupancy.toNat)] ++ capacity)

/-- How faults name a report. -/
def shape : Shape :=
  ⟨"ServiceUpdate", 3⟩

/-- The fields of a report as far as they were given. -/
structure Slots where
  service : Option String
  occupancy : Option UInt32
  capacity : Option (Option UInt32)

/-- Take one member of an object that describes a report. -/
def Slots.take (slots : Slots) (name : String) (value : Draft) : Except Fault Slots := do
  match name with
  | "service" => return { slots with service := ← fill name slots.service value.readString }
  | "occupancy" => return { slots with occupancy := ← fill name slots.occupancy value.readWord32 }
  | "max_players" =>
    return { slots with capacity := ← fill name slots.capacity value.readOptionalWord32 }
  | _ => return slots

/-- The report of filled slots. -/
def Slots.toReport (slots : Slots) : Except Fault Report := do
  let service ← demand "service" slots.service
  let occupancy ← demand "occupancy" slots.occupancy
  return ⟨service, occupancy, slots.capacity.getD none⟩

/-- Read the JSON form of a report. -/
def ofDraft (medium : Medium) : Draft → Except Fault Report
  | .object members closed => do
    let slots ← readMembers medium Slots.take ⟨none, none, none⟩ members closed
    slots.toReport
  | .array items closed => do
    let service ← shape.element items closed 0 Draft.readString none
    let occupancy ← shape.element items closed 1 Draft.readWord32 none
    let capacity ← shape.element items closed 2 Draft.readOptionalWord32 (some none)
    shape.checkEnd medium items closed
    return ⟨service, occupancy, capacity⟩
  | draft => .error (draft.unexpected shape.expected)

end Report

/-- The request to forget a service that was deleted. -/
structure Deletion where
  service : String
  deriving DecidableEq, Repr

namespace Deletion

/-- How faults name a deletion. -/
def shape : Shape :=
  ⟨"DeletedRequestBody", 1⟩

/-- Take one member of an object that describes a deletion. -/
def take (service : Option String) (name : String) (value : Draft) : Except Fault (Option String) :=
  match name with
  | "service" => fill name service value.readString
  | _ => .ok service

/-- Read the JSON form of a deletion. -/
def ofDraft (medium : Medium) : Draft → Except Fault Deletion
  | .object members closed => do
    let service ← readMembers medium take none members closed
    return ⟨← demand "service" service⟩
  | .array items closed => do
    let service ← shape.element items closed 0 Draft.readString none
    shape.checkEnd medium items closed
    return ⟨service⟩
  | draft => .error (draft.unexpected shape.expected)

end Deletion

/-- An operator's request to set the standing of a proxy, and perhaps its capacity. -/
structure Override where
  /-- The word for the standing, which need not mean one. -/
  word : String
  capacity : Option UInt32
  deriving DecidableEq, Repr

namespace Override

/-- How faults name an override. -/
def shape : Shape :=
  ⟨"StateRequestBody", 2⟩

/-- The fields of an override as far as they were given. -/
structure Slots where
  word : Option String
  capacity : Option (Option UInt32)

/-- Take one member of an object that describes an override. -/
def Slots.take (slots : Slots) (name : String) (value : Draft) : Except Fault Slots := do
  match name with
  | "state" => return { slots with word := ← fill name slots.word value.readString }
  | "max_players" =>
    return { slots with capacity := ← fill name slots.capacity value.readOptionalWord32 }
  | _ => return slots

/-- The override of filled slots. -/
def Slots.toOverride (slots : Slots) : Except Fault Override := do
  let word ← demand "state" slots.word
  return ⟨word, slots.capacity.getD none⟩

/-- Read the JSON form of an override. -/
def ofDraft (medium : Medium) : Draft → Except Fault Override
  | .object members closed => do
    let slots ← readMembers medium Slots.take ⟨none, none⟩ members closed
    slots.toOverride
  | .array items closed => do
    let word ← shape.element items closed 0 Draft.readString none
    let capacity ← shape.element items closed 1 Draft.readOptionalWord32 (some none)
    shape.checkEnd medium items closed
    return ⟨word, capacity⟩
  | draft => .error (draft.unexpected shape.expected)

end Override

end Quiesce
