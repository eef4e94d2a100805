/-
# What a step does to one proxy

A scene holds many proxies, but a step is about one name. Of each proxy a scene
shows its situation: its record, whether it awaits its stop, and how many
requests for its stop are not answered yet. What a step does to a proxy is a
deed, read off the move and its effect. The main statement,
`Scene.follows_of_step?`, says that a step does nothing but its deed: the
situation afterwards follows from the deed and the situation before, and the
deed was possible there. Statements about runs need no other fact about steps.
-/

import Quiesce.Interleaving
import Quiesce.Roster.Views

namespace Quiesce.Interleaving

/-- How a proxy stands in a scene. -/
structure Situation where
  record : Option Record
  /-- Whether the proxy awaits its stop. -/
  awaiting : Bool
  /-- The number of requests for its stop that are not answered yet. -/
  inFlight : Nat
  deriving DecidableEq

namespace Situation

/-- The standing of the proxy, if it is known. -/
def standing? (situation : Situation) : Option Standing :=
  situation.record.map (·.standing)

/-- The situation once a standing is set, whether or not the proxy was known. -/
def assigned (situation : Situation) (defaultCapacity : UInt32) (standing : Standing) : Situation :=
  let record := situation.record.getD ⟨.up, defaultCapacity⟩
  { situation with record := some { record with standing := standing } }

end Situation

/-- What a step does to a proxy. -/
inductive Deed where
  /-- Nothing that its situation shows. -/
  | nothing
  /-- Its start is allowed. -/
  | start
  /-- Its stop is allowed because no player is on it. -/
  | stop
  /-- Its stop is allowed, with players on it, because its drain is over. -/
  | conclude
  /-- Its stop is vetoed. -/
  | veto
  /-- A report claims its stop and requests it. -/
  | claim
  /-- A request for its stop is delivered. -/
  | deliver
  /-- A request for its stop fails. -/
  | fail
  | forget
  | resize (capacity : UInt32)
  | override (standing : Standing) (capacity : Option UInt32)
  deriving DecidableEq

namespace Deed

/-- Whether a deed is the gate's answer to a start or to the request of a stop. -/
def isAnswer : Deed → Bool
  | .start | .stop | .conclude | .veto => true
  | _ => false

/-- Whether a deed takes the membership of the waiting away without an answer. -/
def takesMembership : Deed → Bool
  | .claim | .forget => true
  | _ => false

/-- Whether a deed can be done in a situation. -/
@[simp] def Possible (situation : Situation) : Deed → Prop
  | .conclude => situation.awaiting ∧ situation.standing? = some .down
  | .claim => situation.awaiting
  | .deliver | .fail => 0 < situation.inFlight
  | _ => True

/-- The situation after a deed. -/
@[simp] def outcome (defaultCapacity : UInt32) (situation : Situation) : Deed → Situation
  | .nothing => situation
  | .start => situation.assigned defaultCapacity .up
  | .stop => { situation.assigned defaultCapacity .down with awaiting := false }
  | .conclude => { situation with awaiting := false }
  | .veto => { situation.assigned defaultCapacity .draining with awaiting := true }
  | .claim => { situation with awaiting := false, inFlight := situation.inFlight + 1 }
  | .deliver =>
    { situation with
      record := situation.record.map fun record => { record with standing := .down }
      inFlight := situation.inFlight - 1 }
  | .fail =>
    { situation with
      awaiting := situation.awaiting || situation.standing? = some .draining
      inFlight := situation.inFlight - 1 }
  | .forget => { situation with record := none, awaiting := false }
  | .resize capacity =>
    { situation with
      record := situation.record.map fun record => { record with capacity := capacity } }
  | .override standing capacity =>
    let known := situation.record.getD ⟨.up, defaultCapacity⟩
    { situation with record := some ⟨standing, capacity.getD known.capacity⟩ }

/-- The standing after a deed. -/
theorem standing?_outcome (defaultCapacity : UInt32) (situation : Situation) (deed : Deed) :
    (deed.outcome defaultCapacity situation).standing? =
      match deed with
      | .start => some .up
      | .stop => some .down
      | .veto => some .draining
      | .deliver => situation.standing?.map fun _ => .down
      | .forget => none
      | .override standing _ => some standing
      | .nothing | .conclude | .claim | .fail | .resize _ => situation.standing? := by
  cases deed with
  | deliver | resize => cases known : situation.record <;> simp [Situation.standing?, known]
  | _ => rfl

end Deed

/-- The name that a task is about. -/
@[simp] def Task.name : Task → String
  | .vetoing name => name
  | .claiming service | .requesting service => service

namespace Move

/-- The name that a move is about. -/
@[simp] def name : Move → String
  | .judge transition => transition.service
  | .noteCapacity report | .receive report => report.service
  | .forget name => name
  | .override name _ _ => name
  | .proceed task _ => task.name

/-- Whether a move is an override. -/
def isOverride : Move → Bool
  | .override .. => true
  | _ => false

/-- Whether a move overrides the standing of a proxy. -/
def overrides (name : String) : Move → Bool
  | .override other _ _ => other = name
  | _ => false

/-- Whether a move overrides a standing by a given one. -/
def overridesTo (standing : Standing) : Move → Bool
  | .override _ other _ => other = standing
  | _ => false

/-- What a move with an effect does to the proxy that it is about. -/
@[simp] def deed (group : String) (effect : Effect) : Move → Deed
  | .judge transition =>
    if ¬ transition.inGroup group then .nothing
    else if transition.isStart then .start
    else if ¬ transition.isStop then .nothing
    else if transition.occupancy = 0 then .stop
    else if effect = .judged .allow then .conclude
    else .nothing
  | .noteCapacity report =>
    match report.capacity with
    | some capacity => .resize capacity
    | none => .nothing
  | .receive _ => .nothing
  | .forget _ => .forget
  | .override _ standing capacity => .override standing capacity
  | .proceed (.vetoing _) _ => .veto
  | .proceed (.claiming service) _ => if effect = .requested service then .claim else .nothing
  | .proceed (.requesting _) true => .deliver
  | .proceed (.requesting _) false => .fail

/-- What a move with an effect does to a proxy. -/
def deedOn (group name : String) (move : Move) (effect : Effect) : Deed :=
  if move.name = name then move.deed group effect else .nothing

theorem deedOn_name (group : String) (move : Move) (effect : Effect) :
    move.deedOn group move.name effect = move.deed group effect := if_pos rfl

theorem deedOn_of_name_ne {group name : String} {move : Move} {effect : Effect}
    (other : move.name ≠ name) : move.deedOn group name effect = .nothing := if_neg other

/-- Only an override overrides. -/
theorem deedOn_eq_override_iff {group name : String} {move : Move} {effect : Effect}
    {standing : Standing} {capacity : Option UInt32} :
    move.deedOn group name effect = .override standing capacity ↔
      move = .override name standing capacity := by
  unfold deedOn
  cases move with
  | override other =>
    by_cases about : other = name <;> simp [about]
  | proceed task delivered => cases task <;> cases delivered <;> grind [deed]
  | _ => grind [deed]

end Move

namespace Scene

section

variable (scene : Scene) (name : String)

@[simp] theorem roster_withRoster (roster : Roster) : (scene.withRoster roster).roster = roster :=
  rfl

@[simp] theorem tasks_withRoster (roster : Roster) :
    (scene.withRoster roster).tasks = scene.tasks := rfl

@[simp] theorem roster_adding (task : Task) : (scene.adding task).roster = scene.roster := rfl

@[simp] theorem tasks_adding (task : Task) : (scene.adding task).tasks = task :: scene.tasks := rfl

/-- How a proxy stands in a scene. -/
def situation : Situation :=
  ⟨scene.roster.find? name, scene.roster.awaitsStop name, scene.tasks.count (.requesting name)⟩

@[simp] theorem situation_start (defaultCapacity : UInt32) :
    (start defaultCapacity).situation name = ⟨none, false, 0⟩ := by
  simp [start, situation]

/-- A move with its effect leads to a scene by its deed alone: the deed was possible,
its proxy is afterwards in the situation that the deed makes, and every other proxy is
in the situation it was in. -/
def Follows (group : String) (move : Move) (effect : Effect) (next : Scene) : Prop :=
  next.roster.defaultCapacity = scene.roster.defaultCapacity ∧
    ∀ name, (move.deedOn group name effect).Possible (scene.situation name) ∧
      next.situation name = (move.deedOn group name effect).outcome scene.roster.defaultCapacity
        (scene.situation name)

end

variable {scene next : Scene} {group : String} {move : Move} {effect : Effect}

/-- It is enough to look at the proxy that the move is about, and to see that no other
is touched. -/
private theorem follows_of_own
    (sameDefault : next.roster.defaultCapacity = scene.roster.defaultCapacity)
    (possible : (move.deed group effect).Possible (scene.situation move.name))
    (own : next.situation move.name =
      (move.deed group effect).outcome scene.roster.defaultCapacity (scene.situation move.name))
    (others : ∀ name, move.name ≠ name → next.situation name = scene.situation name) :
    scene.Follows group move effect next := by
  refine ⟨sameDefault, fun name => ?_⟩
  by_cases about : move.name = name
  · subst about
    rw [Move.deedOn_name]
    exact ⟨possible, own⟩
  · rw [Move.deedOn_of_name_ne about]
    exact ⟨trivial, others name about⟩

/-- A move that changes the roster alone follows its deed when the roster does. -/
private theorem follows_of_roster {roster : Roster}
    (sameDefault : roster.defaultCapacity = scene.roster.defaultCapacity)
    (possible : (move.deed group effect).Possible (scene.situation move.name))
    (own : ⟨roster.find? move.name, roster.awaitsStop move.name,
        (scene.situation move.name).inFlight⟩ =
      (move.deed group effect).outcome scene.roster.defaultCapacity (scene.situation move.name))
    (others : ∀ name, move.name ≠ name → roster.find? name = scene.roster.find? name ∧
      roster.awaitsStop name = scene.roster.awaitsStop name) :
    scene.Follows group move effect (scene.withRoster roster) := by
  refine follows_of_own sameDefault possible own fun name other => ?_
  obtain ⟨sameRecord, sameAwaiting⟩ := others name other
  simp [situation, sameRecord, sameAwaiting]

/-- The record that a proxy has or would start with. -/
private theorem recordOf_eq (roster : Roster) (name : String) :
    roster.recordOf name = (roster.find? name).getD ⟨.up, roster.defaultCapacity⟩ := rfl

/-- A transition that is not the stop of an occupied proxy is judged in one step. -/
private theorem follows_judge {transition : Transition}
    (simple : ¬ (transition.inGroup group ∧ transition.isStop ∧ transition.occupancy ≠ 0)) :
    scene.Follows group (.judge transition)
      (.judged (scene.roster.judge group transition).1)
      (scene.withRoster (scene.roster.judge group transition).2) := by
  by_cases inGroup : transition.inGroup group
  case neg =>
    apply follows_of_roster <;> simp [Roster.judge, inGroup, situation]
  by_cases isStart : transition.isStart
  case pos =>
    have judged : scene.roster.judge group transition =
        (.allow, scene.roster.assign transition.service .up) := by
      simp [Roster.judge, Roster.judgeProxy, inGroup, isStart]
    rw [judged]
    apply follows_of_roster
    · rfl
    · simp [inGroup, isStart]
    · simp [inGroup, isStart, situation, Situation.assigned, recordOf_eq]
    · simp +contextual
  by_cases isStop : transition.isStop
  case neg =>
    apply follows_of_roster <;>
      simp [Roster.judge, Roster.judgeProxy, inGroup, isStart, isStop, situation]
  have vacant : transition.occupancy = 0 :=
    Decidable.byContradiction fun occupied => simple ⟨inGroup, isStop, occupied⟩
  have judged : scene.roster.judge group transition =
      (.allow, scene.roster.closeDrain transition.service) := by
    simp [Roster.judge, Roster.judgeProxy, inGroup, isStart, isStop, vacant]
  rw [judged]
  apply follows_of_roster
  · rfl
  · simp [inGroup, isStart, isStop, vacant]
  · simp [inGroup, isStart, isStop, vacant, situation, Situation.assigned, Roster.closeDrain,
      recordOf_eq]
  · simp +contextual [Roster.closeDrain]

/-- The stop of an occupied proxy is allowed when its drain is over, or its veto is due. -/
private theorem follows_occupied_stop {transition : Transition}
    (inGroup : transition.inGroup group) (isStop : transition.isStop)
    (occupied : transition.occupancy ≠ 0)
    (judged : scene.beginJudgement group transition = (effect, next)) :
    scene.Follows group (.judge transition) effect next := by
  have notStart : transition.isStart = false := Transition.isStart_eq_false_of_isStop isStop
  rw [beginJudgement, if_pos ⟨inGroup, isStop, occupied⟩, Roster.concludeDrain] at judged
  by_cases drained : scene.roster.drained transition.service
  · rw [if_pos drained] at judged
    obtain ⟨rfl, rfl⟩ := Prod.mk.inj judged
    simp only [Roster.drained, Bool.and_eq_true, Option.any_eq_true, decide_eq_true_eq] at drained
    obtain ⟨awaiting, record, known, down⟩ := drained
    apply follows_of_roster
    · rfl
    · simp [inGroup, notStart, isStop, occupied, situation, awaiting, Situation.standing?, known,
        down]
    · simp [inGroup, notStart, isStop, occupied, situation]
    · simp +contextual
  · rw [if_neg drained] at judged
    obtain ⟨rfl, rfl⟩ := Prod.mk.inj judged
    apply follows_of_own <;> simp [inGroup, notStart, isStop, occupied, situation]

/-- A report that is looked at changes nothing yet. -/
private theorem follows_receive {report : Report}
    (received : scene.beginReport report = (effect, next)) :
    scene.Follows group (.receive report) effect next := by
  unfold beginReport at received
  split at received <;> obtain ⟨rfl, rfl⟩ := Prod.mk.inj received <;>
    apply follows_of_own <;> simp [situation]

/-- A report changes the capacity alone, and only that of a known proxy. -/
private theorem follows_noteCapacity (report : Report) :
    scene.Follows group (.noteCapacity report) effect
      (scene.withRoster (scene.roster.noteCapacity report)) := by
  cases given : report.capacity with
  | none => apply follows_of_roster <;> simp [Roster.noteCapacity, given, situation]
  | some capacity =>
    apply follows_of_roster <;> simp +contextual [Roster.noteCapacity, given, situation]

private theorem follows_forget (name : String) :
    scene.Follows group (.forget name) effect (scene.withRoster (scene.roster.forget name)) := by
  apply follows_of_roster
  · rfl
  all_goals simp +contextual [situation]

private theorem follows_override (name : String) (standing : Standing)
    (capacity : Option UInt32) :
    scene.Follows group (.override name standing capacity) effect
      (scene.withRoster (scene.roster.override name standing capacity)) := by
  apply follows_of_roster <;> simp +contextual [situation, recordOf_eq]

/-- A veto that is due opens the drain. -/
private theorem follows_vetoing (name : String) (delivered : Bool) :
    scene.Follows group (.proceed (.vetoing name) delivered) effect
      ({ scene with tasks := scene.tasks.erase (.vetoing name) }.withRoster
        (scene.roster.openDrain name)) := by
  apply follows_of_own
  · rfl
  · trivial
  · simp [situation, Situation.assigned, Roster.openDrain, recordOf_eq, List.count_erase_of_ne]
  · simp +contextual [situation, Roster.openDrain, List.count_erase_of_ne]

/-- A claim that is due is taken when the proxy still awaits its stop, and lost otherwise. -/
private theorem follows_claiming {service : String} {delivered : Bool}
    (proceeded : { scene with tasks := scene.tasks.erase (.claiming service) }.proceed delivered
      (.claiming service) = (effect, next)) :
    scene.Follows group (.proceed (.claiming service) delivered) effect next := by
  simp only [proceed, Roster.claimStop, Roster.takeClaim] at proceeded
  cases awaiting : scene.roster.awaitsStop service with
  | true =>
    rw [awaiting] at proceeded
    obtain ⟨rfl, rfl⟩ := Prod.mk.inj proceeded
    apply follows_of_own
    · rfl
    · simp [situation, awaiting]
    · simp [situation, List.count_erase_of_ne]
    · simp +contextual [situation, List.count_erase_of_ne]
  | false =>
    rw [awaiting] at proceeded
    obtain ⟨rfl, rfl⟩ := Prod.mk.inj proceeded
    apply follows_of_own
    · rfl
    · simp
    · simp [situation, awaiting, List.count_erase_of_ne]
    · simp +contextual [situation, List.count_erase_of_ne]

/-- A request that is answered is no longer in flight, and no other is touched. -/
private theorem count_erase_requesting {service : String} (tasks : List Task) (name : String)
    (other : service ≠ name) :
    (tasks.erase (.requesting service)).count (.requesting name) =
      tasks.count (.requesting name) :=
  List.count_erase_of_ne (by simpa using Ne.symm other)

/-- The answer to a request notes the stop, or gives the claim back. -/
private theorem follows_requesting {service : String} {delivered : Bool}
    (underWay : .requesting service ∈ scene.tasks)
    (proceeded : { scene with tasks := scene.tasks.erase (.requesting service) }.proceed delivered
      (.requesting service) = (effect, next)) :
    scene.Follows group (.proceed (.requesting service) delivered) effect next := by
  have pending : 0 < scene.tasks.count (.requesting service) := List.count_pos_iff.mpr underWay
  cases delivered with
  | true =>
    obtain ⟨rfl, rfl⟩ := Prod.mk.inj proceeded
    apply follows_of_own
    · simp [Roster.noteStopped]
    · exact pending
    · simp [situation, Roster.noteStopped]
    · simp +contextual [situation, Roster.noteStopped, count_erase_requesting]
  | false =>
    obtain ⟨rfl, rfl⟩ := Prod.mk.inj proceeded
    apply follows_of_own
    · simp
    · exact pending
    · simp [situation, Situation.standing?, Roster.any_draining_eq, Bool.or_comm]
    · simp +contextual [situation, count_erase_requesting]

/-- A step does its deed and nothing else. -/
theorem follows_of_step? (step : scene.step? group move = some (effect, next)) :
    scene.Follows group move effect next := by
  cases move with
  | judge transition =>
    have judged := Option.some.inj step
    by_cases occupiedStop :
        transition.inGroup group ∧ transition.isStop ∧ transition.occupancy ≠ 0
    · obtain ⟨inGroup, isStop, occupied⟩ := occupiedStop
      exact follows_occupied_stop inGroup isStop occupied judged
    · rw [beginJudgement, if_neg occupiedStop] at judged
      obtain ⟨rfl, rfl⟩ := Prod.mk.inj judged
      exact follows_judge occupiedStop
  | noteCapacity report =>
    obtain ⟨rfl, rfl⟩ := Prod.mk.inj (Option.some.inj step)
    exact follows_noteCapacity report
  | receive report => exact follows_receive (Option.some.inj step)
  | forget name =>
    obtain ⟨rfl, rfl⟩ := Prod.mk.inj (Option.some.inj step)
    exact follows_forget name
  | override name standing capacity =>
    obtain ⟨rfl, rfl⟩ := Prod.mk.inj (Option.some.inj step)
    exact follows_override name standing capacity
  | proceed task delivered =>
    obtain ⟨underWay, proceeded⟩ := Option.ite_none_right_eq_some.mp step
    have proceeded := Option.some.inj proceeded
    cases task with
    | vetoing name =>
      obtain ⟨rfl, rfl⟩ := Prod.mk.inj proceeded
      exact follows_vetoing name delivered
    | claiming service => exact follows_claiming proceeded
    | requesting service => exact follows_requesting underWay proceeded

end Scene

end Quiesce.Interleaving
