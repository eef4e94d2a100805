/-
# Whoever awaits its stop is known

A roster keeps its records and the waiting apart, and nothing in its type ties
the two together. Its changes do: a change that makes a proxy await its stop
finds a record of it or leaves one, and the one change that drops a record ends
the waiting of its proxy too. All that an agent does to its roster is a list of
changes, whether its events interleave or follow one another, come over HTTP or
reach the roster directly. So `Roster.Attained.awaiting_known` holds of every
roster that an agent can come to have.
-/

import Quiesce.Proofs.Interleaving.Sessions
import Quiesce.Proofs.Roster.Change

namespace Quiesce

open Interleaving (Scene Move Effect Task Run)

namespace Roster

variable {roster next : Roster}

/-! ## Changes keep it -/

/-- Every proxy that awaits its stop is known. -/
def Grounded (roster : Roster) : Prop :=
  ∀ name, roster.awaitsStop name → (roster.find? name).isSome

theorem grounded_empty (defaultCapacity : UInt32) : (empty defaultCapacity).Grounded := by
  intro name awaiting
  simp at awaiting

/-- A change makes no unknown proxy await its stop, and drops no record of one that does. -/
theorem Grounded.apply (grounded : roster.Grounded) (change : Change) :
    (roster.apply change).Grounded := by
  intro name awaiting
  by_cases other : change.name = name
  case neg =>
    rw [awaitsStop_apply_of_ne roster other] at awaiting
    rw [find?_apply_of_ne roster other]
    exact grounded name awaiting
  subst other
  cases change with
  | enrol | assign | overwrite | openDrain | closeDrain =>
    simp [Roster.apply, enrol, openDrain, closeDrain, Change.name]
  | resize name | noteStopped name =>
    have waited : roster.awaitsStop name := by
      simpa [Roster.apply, noteStopped, Change.name] using awaiting
    simpa [Roster.apply, noteStopped, Change.name] using grounded name waited
  | concludeDrain name =>
    have waited : roster.awaitsStop name := by
      simp only [Roster.apply, awaitsStop_concludeDrain, Change.name, Bool.and_eq_true] at awaiting
      exact awaiting.2
    simpa [Roster.apply, Change.name] using grounded name waited
  | returnClaim name =>
    have waited : (roster.find? name).any (·.standing = .draining) ∨ roster.awaitsStop name := by
      simpa [Roster.apply, Change.name] using awaiting
    rcases waited with draining | waited
    · obtain ⟨record, known, -⟩ := (Option.any_eq_true _ _).mp draining
      simp [Roster.apply, Change.name, known]
    · simpa [Roster.apply, Change.name] using grounded name waited
  | takeClaim name | forget name => simp [Roster.apply, takeClaim, Change.name] at awaiting

theorem Grounded.applyAll (grounded : roster.Grounded) (changes : List Change) :
    (roster.applyAll changes).Grounded := by
  induction changes generalizing roster with
  | nil => exact grounded
  | cons change rest ih => exact ih (grounded.apply change)

/-- The changes that lead from one roster to another keep it. -/
theorem Grounded.of_changesTo (grounded : roster.Grounded) (changes : roster.ChangesTo next) :
    next.Grounded := by
  obtain ⟨changes, rfl⟩ := changes
  exact grounded.applyAll changes

/-- A proxy of a grounded roster that awaits its stop is listed as one that does. -/
theorem Grounded.entry?_of_awaiting (grounded : roster.Grounded) {name : String}
    (awaiting : roster.awaitsStop name) :
    ∃ entry, roster.entry? name = some entry ∧ entry.name = name ∧ entry.awaitingStop := by
  obtain ⟨record, known⟩ := Option.isSome_iff_exists.mp (grounded name awaiting)
  refine ⟨roster.entryOf name record, ?_, rfl, awaiting⟩
  unfold entry?
  rw [known, Option.map_some]

/-! ## Whatever happens is a list of changes -/

section

variable (roster : Roster) (group : String)

/-- What judges a transition as vetoed looks at the drain first, and then opens it. -/
private theorem judgeOccupiedStop_changesTo (name : String) :
    roster.ChangesTo (roster.judgeOccupiedStop name).2 := by
  have looked : roster.ChangesTo (roster.concludeDrain name).2 :=
    .of_apply (.concludeDrain name) rfl
  rw [judgeOccupiedStop]
  generalize roster.concludeDrain name = conclusion at looked ⊢
  obtain ⟨concluded, next⟩ := conclusion
  cases concluded with
  | true => exact looked
  | false => exact looked.trans (.of_apply (.openDrain name) rfl)

private theorem judge_changesTo (transition : Transition) :
    roster.ChangesTo (roster.judge group transition).2 := by
  rw [judge]
  split
  case isFalse => exact .refl
  rw [judgeProxy]
  split
  · exact .of_apply (.assign transition.service .up) rfl
  split
  · exact .refl
  split
  · exact .of_apply (.closeDrain transition.service) rfl
  · exact judgeOccupiedStop_changesTo roster transition.service

private theorem noteCapacity_changesTo (report : Report) :
    roster.ChangesTo (roster.noteCapacity report) := by
  rw [noteCapacity]
  split
  next capacity _ => exact .of_apply (.resize report.service capacity) rfl
  · exact .refl

private theorem override_changesTo (name : String) (standing : Standing)
    (capacity : Option UInt32) :
    roster.ChangesTo (roster.override name standing capacity) := by
  cases capacity with
  | none => exact .of_apply (.assign name standing) rfl
  | some capacity => exact .of_apply (.overwrite name ⟨standing, capacity⟩) rfl

private theorem claimStop_changesTo (service : String) :
    roster.ChangesTo (roster.claimStop service).2 := by
  have taken : roster.ChangesTo (roster.takeClaim service).2 := .of_apply (.takeClaim service) rfl
  rw [claimStop]
  split <;> simpa [*] using taken

private theorem settle_changesTo (service : String) (delivered : Bool) :
    roster.ChangesTo (roster.settle service delivered).2 := by
  cases delivered with
  | true => exact .of_apply (.noteStopped service) rfl
  | false => exact .of_apply (.returnClaim service) rfl

end

end Roster

namespace Interleaving

variable {group : String} {origin scene next : Scene} {history : List Step} {move : Move}
  {effect : Effect}

/-- The first step of judging a transition is a list of changes. -/
private theorem beginJudgement_changesTo (scene : Scene) (group : String)
    (transition : Transition) :
    scene.roster.ChangesTo (scene.beginJudgement group transition).2.roster := by
  rw [Scene.beginJudgement]
  split
  · have looked : scene.roster.ChangesTo (scene.roster.concludeDrain transition.service).2 :=
      .of_apply (.concludeDrain transition.service) rfl
    split <;> simpa [*] using looked
  · exact scene.roster.judge_changesTo group transition

/-- Looking at a report is no change. -/
private theorem beginReport_changesTo (scene : Scene) (report : Report) :
    scene.roster.ChangesTo (scene.beginReport report).2.roster := by
  rw [Scene.beginReport]
  split <;> exact .refl

/-- A task's next step is at most one change. -/
private theorem proceed_changesTo (scene : Scene) (delivered : Bool) (task : Task) :
    scene.roster.ChangesTo (scene.proceed delivered task).2.roster := by
  cases task with
  | vetoing name => exact .of_apply (.openDrain name) rfl
  | claiming service =>
    have claimed := scene.roster.claimStop_changesTo service
    rw [Scene.proceed]
    split <;> simpa [*] using claimed
  | requesting service => exact scene.roster.settle_changesTo service delivered

/-- A step is a list of changes. -/
theorem changesTo_of_step? (step : scene.step? group move = some (effect, next)) :
    scene.roster.ChangesTo next.roster := by
  cases move with
  | judge transition =>
    have begun := beginJudgement_changesTo scene group transition
    rwa [Option.some.inj step] at begun
  | noteCapacity report =>
    obtain ⟨rfl, rfl⟩ := Prod.mk.inj (Option.some.inj step)
    exact scene.roster.noteCapacity_changesTo report
  | receive report =>
    have begun := beginReport_changesTo scene report
    rwa [Option.some.inj step] at begun
  | forget name =>
    obtain ⟨rfl, rfl⟩ := Prod.mk.inj (Option.some.inj step)
    exact .of_apply (.forget name) rfl
  | override name standing capacity =>
    obtain ⟨rfl, rfl⟩ := Prod.mk.inj (Option.some.inj step)
    exact scene.roster.override_changesTo name standing capacity
  | proceed task delivered =>
    obtain ⟨-, proceeded⟩ := Option.ite_none_right_eq_some.mp step
    have done := proceed_changesTo { scene with tasks := scene.tasks.erase task } delivered task
    rwa [Option.some.inj proceeded] at done

/-- A run is a list of changes. -/
theorem Run.changesTo (run : Run group origin history scene) :
    origin.roster.ChangesTo scene.roster := by
  induction run with
  | start => exact .refl
  | extend _ step ih => exact ih.trans (changesTo_of_step? step)

/-- One agent becomes another by changes of its roster. -/
theorem Becomes.changesTo {agent next : Agent} {requests remaining : List String}
    (becomes : Becomes agent requests next remaining) :
    agent.roster.ChangesTo next.roster := by
  obtain ⟨history, run⟩ := becomes.reaches
  exact run.changesTo

end Interleaving

namespace Agent

/-- What is no event reaches the roster directly, by one change at most. -/
theorem begin_changesTo (agent : Agent) (operation : Operation) :
    agent.roster.ChangesTo (agent.begin operation).2.roster := by
  by_cases event : Interleaving.isEvent operation
  case pos => exact (Interleaving.begin_becomes agent [] event).changesTo
  cases operation with
  | enrol name => exact .of_apply (.enrol name) rfl
  | openDrain name => exact .of_apply (.openDrain name) rfl
  | closeDrain name => exact .of_apply (.closeDrain name) rfl
  | concludeDrain name => exact .of_apply (.concludeDrain name) rfl
  | takeClaim name => exact .of_apply (.takeClaim name) rfl
  | returnClaim name => exact .of_apply (.returnClaim name) rfl
  | noteStopped name => exact .of_apply (.noteStopped name) rfl
  | resize name capacity => exact .of_apply (.resize name capacity) rfl
  | assign name word =>
    rw [Agent.begin]
    split
    next standing _ => exact .of_apply (.assign name standing) rfl
    · exact .refl
  | overwrite name word capacity =>
    rw [Agent.begin]
    split
    next standing _ => exact .of_apply (.overwrite name ⟨standing, capacity⟩) rfl
    · exact .refl
  | _ => exact absurd rfl event

theorem finish_changesTo (agent : Agent) (pending : Pending) (delivered : Bool) :
    agent.roster.ChangesTo (agent.finish pending delivered).2.roster :=
  (Interleaving.finish_becomes agent [] pending delivered).changesTo

end Agent

mutual

/-- A step of a session is a list of changes, with those of the steps during it inside. -/
private theorem takeStep_changesTo (agent : Agent) :
    ∀ step, agent.roster.ChangesTo (Session.takeStep agent step).2.roster
  | .mk operation delivered during => by
    have begun := agent.begin_changesTo operation
    rw [Session.takeStep]
    generalize agent.begin operation = taken at begun ⊢
    obtain ⟨phase, next⟩ := taken
    cases phase with
    | answered answer => exact begun
    | waiting pending =>
      have inner := takeSteps_changesTo next during
      exact (begun.trans inner).trans (Agent.finish_changesTo _ pending delivered)

/-- So is a session. -/
private theorem takeSteps_changesTo (agent : Agent) :
    ∀ steps, agent.roster.ChangesTo (Session.takeSteps agent steps).2.roster
  | [] => by
    rw [Session.takeSteps]
    exact .refl
  | step :: rest => by
    rw [Session.takeSteps]
    exact (takeStep_changesTo agent step).trans (takeSteps_changesTo _ rest)

end

/-! ## Every roster that an agent can come to have -/

/-- The rosters that can come about from one that knows no proxy. -/
inductive Roster.Attained (group : String) (defaultCapacity : UInt32) : Roster → Prop where
  /-- By changes of the roster, in any order and about any names. -/
  | changes (changes : List Change) :
      Attained group defaultCapacity ((empty defaultCapacity).applyAll changes)
  /-- By events whose steps interleave. -/
  | run {history : List Interleaving.Step} {scene : Scene}
      (run : Run group (.start defaultCapacity) history scene) :
      Attained group defaultCapacity scene.roster
  /-- By a session of an agent, with its events, its requests over HTTP, its polls and what
  reaches the roster directly. -/
  | session (steps : List Step) :
      Attained group defaultCapacity
        (Session.takeSteps (.start group defaultCapacity) steps).2.roster

namespace Roster.Attained

variable {group : String} {defaultCapacity : UInt32} {roster : Roster}

/-- However a roster came about, it came about by changes. -/
theorem changesTo (attained : roster.Attained group defaultCapacity) :
    (empty defaultCapacity).ChangesTo roster := by
  cases attained with
  | changes changes => exact ⟨changes, rfl⟩
  | run run => exact run.changesTo
  | session steps => exact takeSteps_changesTo (.start group defaultCapacity) steps

/-- On every roster that an agent can come to have, whoever awaits its stop has a record, and
is listed as a proxy that awaits its stop. -/
theorem awaiting_known (attained : roster.Attained group defaultCapacity) :
    (∀ name ∈ roster.awaiting, name ∈ roster.records) ∧
    ∀ name, roster.awaitsStop name →
      ∃ entry, roster.entry? name = some entry ∧ entry.name = name ∧ entry.awaitingStop := by
  have grounded : roster.Grounded :=
    (grounded_empty defaultCapacity).of_changesTo attained.changesTo
  constructor
  · intro name awaiting
    rw [Std.ExtTreeMap.mem_iff_isSome_getElem?]
    exact grounded name (Std.ExtTreeSet.contains_iff_mem.mpr awaiting)
  · intro name awaiting
    exact grounded.entry?_of_awaiting awaiting

/-- A request for the lobby's stop fails, and the lobby awaits its stop again. -/
theorem awaiting_known_after_failure :
    ∃ roster, Attained "Proxy" 10 roster ∧ roster.awaitsStop "lobby-1" ∧
      ∃ entry, roster.entry? "lobby-1" = some entry ∧ entry.name = "lobby-1" ∧
        entry.awaitingStop := by
  have run : Run "Proxy" (.start 10) _ _ :=
    Run.of_moves (Interleaving.Lobby.veto ++ Interleaving.Lobby.claim ++
      Interleaving.Lobby.answer false) (by decide)
  exact ⟨_, .run run, by decide, (awaiting_known (.run run)).2 "lobby-1" (by decide)⟩

end Roster.Attained

end Quiesce
