/-
# Interleaved events

Many events can be under way at once. Each changes the roster in a few steps
that nothing divides, and between the steps of one event any steps of others
may come. A veto is two steps: the drain is looked at, then opened. A report
that finishes a drain is three: the proxy is seen vacant, the stop is claimed,
and the answer of the orchestrator is taken in.

An event whose steps follow one another without others in between does what the
gate and the drains do at once; `judge_eq_steps` and `receive_eq_steps` say so.
-/

import Quiesce.Drain
import Quiesce.Gate

namespace Quiesce.Interleaving

/-- An event under way, at the step that is due next. -/
inductive Task where
  /-- The drain of an occupied proxy was not found over; the veto opens a drain. -/
  | vetoing (name : String)
  /-- A report saw its proxy vacant; it claims the stop. -/
  | claiming (service : String)
  /-- A report took the claim; the orchestrator answers its request. -/
  | requesting (service : String)
  deriving DecidableEq, Repr

/-- A roster and the events under way on it. -/
structure Scene where
  roster : Roster
  tasks : List Task

/-- What a step brings about besides its change of the roster. -/
inductive Effect where
  | judged (verdict : Verdict)
  | progressed (progress : Progress)
  /-- A stop of the service is requested. -/
  | requested (service : String)
  /-- Nothing is answered yet, or at all. -/
  | silent
  deriving DecidableEq, Repr

/-- What may happen next. -/
inductive Move where
  | judge (transition : Transition)
  | noteCapacity (report : Report)
  | receive (report : Report)
  | forget (name : String)
  | override (name : String) (standing : Standing) (capacity : Option UInt32)
  /-- An event under way takes its next step. A request is delivered or not; for
  other steps that makes no difference. -/
  | proceed (task : Task) (delivered : Bool)
  deriving DecidableEq, Repr

namespace Scene

variable (scene : Scene)

/-- No proxy is known and nothing is under way. -/
def start (defaultCapacity : UInt32) : Scene :=
  ⟨.empty defaultCapacity, []⟩

/-- Replace the roster. -/
def withRoster (roster : Roster) : Scene :=
  { scene with roster := roster }

/-- Have a task under way as well. -/
def adding (task : Task) : Scene :=
  { scene with tasks := task :: scene.tasks }

/-- The first step of judging a transition. Only the stop of an occupied proxy
takes a second one, and that only when its drain is not over. -/
def beginJudgement (group : String) (transition : Transition) : Effect × Scene :=
  if transition.inGroup group ∧ transition.isStop ∧ transition.occupancy ≠ 0 then
    match scene.roster.concludeDrain transition.service with
    | (true, roster) => (.judged .allow, scene.withRoster roster)
    | (false, roster) => (.silent, (scene.withRoster roster).adding (.vetoing transition.service))
  else
    let (verdict, roster) := scene.roster.judge group transition
    (.judged verdict, scene.withRoster roster)

/-- The first step of taking in a report. -/
def beginReport (report : Report) : Effect × Scene :=
  match scene.roster.sight report with
  | .settled progress => (.progressed progress, scene)
  | .vacant => (.silent, scene.adding (.claiming report.service))

/-- The next step of a task that has been taken off the list. -/
def proceed (delivered : Bool) : Task → Effect × Scene
  | .vetoing name => (.judged .veto, scene.withRoster (scene.roster.openDrain name))
  | .claiming service =>
    match scene.roster.claimStop service with
    | (.settled progress, roster) => (.progressed progress, scene.withRoster roster)
    | (.requesting service, roster) =>
      (.requested service, (scene.withRoster roster).adding (.requesting service))
  | .requesting service =>
    let (progress, roster) := scene.roster.settle service delivered
    (.progressed progress, scene.withRoster roster)

/-- Make a move; `none` when the task that should proceed is not under way. -/
def step? (group : String) : Move → Option (Effect × Scene)
  | .judge transition => some (scene.beginJudgement group transition)
  | .noteCapacity report => some (.silent, scene.withRoster (scene.roster.noteCapacity report))
  | .receive report => some (scene.beginReport report)
  | .forget name => some (.silent, scene.withRoster (scene.roster.forget name))
  | .override name standing capacity =>
    some (.silent, scene.withRoster (scene.roster.override name standing capacity))
  | .proceed task delivered =>
    if task ∈ scene.tasks then
      some ({ scene with tasks := scene.tasks.erase task }.proceed delivered task)
    else none

/-- Make moves one after another. -/
def run? (group : String) (scene : Scene) : List Move → Option (List Effect × Scene)
  | [] => some ([], scene)
  | move :: rest => do
    let (effect, scene) ← scene.step? group move
    let (effects, scene) ← scene.run? group rest
    return (effect :: effects, scene)

/-- Judging a transition at once is its first step, followed at once by the veto
if one is due. -/
theorem judge_eq_steps (group : String) (transition : Transition) :
    let first := scene.beginJudgement group transition
    scene.roster.judge group transition =
      match first.1 with
      | .judged verdict => (verdict, first.2.roster)
      | _ => (.veto, (first.2.proceed false (.vetoing transition.service)).2.roster) := by
  by_cases occupiedStop :
      transition.inGroup group ∧ transition.isStop ∧ transition.occupancy ≠ 0
  · simp only [beginJudgement, if_pos occupiedStop]
    obtain ⟨inGroup, isStop, occupied⟩ := occupiedStop
    have notStart : transition.isStart = false := Transition.isStart_eq_false_of_isStop isStop
    simp only [Roster.judge, inGroup, Roster.judgeProxy, notStart, isStop, occupied,
      Roster.judgeOccupiedStop]
    rcases scene.roster.concludeDrain transition.service with ⟨concluded, roster⟩
    cases concluded <;> simp [proceed, withRoster, adding]
  · simp only [beginJudgement, if_neg occupiedStop]
    rfl

/-- Taking in a report at once is its first step, followed at once by the claim
if one is due. -/
theorem receive_eq_steps (report : Report) :
    let first := scene.beginReport report
    scene.roster.receive report =
      match first.1 with
      | .progressed progress => (.settled progress, first.2.roster)
      | _ => first.2.roster.claimStop report.service := by
  simp only [beginReport, Roster.receive]
  cases scene.roster.sight report <;> rfl

end Scene

end Quiesce.Interleaving
