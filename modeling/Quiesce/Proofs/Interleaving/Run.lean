/-
# Runs and their histories

A run is a list of moves made one after another. Its history keeps each step
with the scene in which it was taken, latest first, so that what came before a
step is the rest of the list. `run?_eq_some_iff` says that the histories are
exactly those of `Scene.run?`, and `Run.situation_induction` is the induction by
which statements about one proxy are proved for all runs: it asks only what each
deed does to the proxy's situation.
-/

import Quiesce.Proofs.Interleaving.Deed

namespace Quiesce.Interleaving

/-- A step that was taken: the scene in which it was taken, its move and its effect. -/
structure Step where
  before : Scene
  move : Move
  effect : Effect

/-- What a step did to a proxy. -/
def Step.deedOn (group name : String) (step : Step) : Deed :=
  step.move.deedOn group name step.effect

/-- A step that does not override a proxy has no override for its deed. -/
theorem Step.deedOn_ne_override (group : String) {name : String} (step : Step)
    (notOverridden : ¬ step.move.overrides name) (standing : Standing)
    (capacity : Option UInt32) : step.deedOn group name ≠ .override standing capacity := by
  intro overridden
  apply notOverridden
  simp [Move.deedOn_eq_override_iff.mp overridden, Move.overrides]

/-- The steps of a history, latest first, lead from an origin to a scene. -/
inductive Run (group : String) (origin : Scene) : List Step → Scene → Prop where
  | start : Run group origin [] origin
  | extend {history : List Step} {scene next : Scene} {move : Move} {effect : Effect}
      (earlier : Run group origin history scene)
      (step : scene.step? group move = some (effect, next)) :
      Run group origin (⟨scene, move, effect⟩ :: history) next

/-- Make moves one after another, and keep the steps, latest first. -/
def Scene.history? (group : String) (scene : Scene) (earlier : List Step) :
    List Move → Option (List Step × Scene)
  | [] => some (earlier, scene)
  | move :: rest => do
    let (effect, next) ← scene.step? group move
    next.history? group (⟨scene, move, effect⟩ :: earlier) rest

namespace Run

variable {group : String} {origin middle scene : Scene} {history later earlier : List Step}

/-- Runs compose. -/
theorem trans (first : Run group origin earlier middle) (second : Run group middle later scene) :
    Run group origin (later ++ earlier) scene := by
  induction second with
  | start => exact first
  | extend _ step ih => exact ih.extend step

/-- The later part of a history starts where the earlier part ends. -/
theorem split (run : Run group origin (later ++ earlier) scene) :
    ∃ middle, Run group origin earlier middle ∧ Run group middle later scene := by
  induction later generalizing scene with
  | nil => exact ⟨scene, run, .start⟩
  | cons last later ih =>
    cases run with
    | extend run step =>
      obtain ⟨middle, first, second⟩ := ih run
      exact ⟨middle, first, second.extend step⟩

private theorem of_history? {moves : List Move} (run : Run group origin earlier middle)
    (made : middle.history? group earlier moves = some (history, scene)) :
    Run group origin history scene := by
  induction moves generalizing middle earlier with
  | nil =>
    obtain ⟨rfl, rfl⟩ := Prod.mk.inj (Option.some.inj made)
    exact run
  | cons move rest ih =>
    simp only [Scene.history?, Option.bind_eq_bind, Option.bind_eq_some_iff, Prod.exists] at made
    obtain ⟨effect, next, step, made⟩ := made
    exact ih (run.extend step) made

/-- Moves that can be made one after another are a run. -/
theorem of_moves (moves : List Move) (possible : (origin.history? group [] moves).isSome) :
    Run group origin ((origin.history? group [] moves).get possible).1
      ((origin.history? group [] moves).get possible).2 :=
  Run.start.of_history? (Option.some_get possible).symm

/-- The default capacity never changes. -/
theorem defaultCapacity_eq (run : Run group origin history scene) :
    scene.roster.defaultCapacity = origin.roster.defaultCapacity := by
  induction run with
  | start => rfl
  | extend _ step ih => rw [(Scene.follows_of_step? step).1, ih]

/-- The last deed leads to the situation at the end. -/
theorem situation_cons {step : Step} (run : Run group origin (step :: history) scene)
    (name : String) :
    scene.situation name = (step.deedOn group name).outcome origin.roster.defaultCapacity
      (step.before.situation name) := by
  cases run with
  | extend earlier step =>
    obtain ⟨-, follows⟩ := Scene.follows_of_step? step
    rw [(follows name).2, earlier.defaultCapacity_eq]
    rfl

/-- What holds of a proxy's situation at the origin, and is kept by every deed that is
possible, holds after every run. -/
theorem situation_induction (run : Run group origin history scene) (name : String)
    (holds : List Step → Situation → Prop)
    (start : holds [] (origin.situation name))
    (extend : ∀ (history : List Step) (step : Step),
      holds history (step.before.situation name) →
      (step.deedOn group name).Possible (step.before.situation name) →
      holds (step :: history) ((step.deedOn group name).outcome origin.roster.defaultCapacity
        (step.before.situation name))) :
    holds history (scene.situation name) := by
  induction run with
  | start => exact start
  | @extend history scene next move effect earlier step ih =>
    obtain ⟨-, follows⟩ := Scene.follows_of_step? step
    obtain ⟨possible, outcome⟩ := follows name
    rw [outcome, earlier.defaultCapacity_eq]
    exact extend history ⟨scene, move, effect⟩ ih possible

/-- An invariant that holds at the origin, and is kept by every admitted step that is
possible, holds after every run of admitted steps. -/
theorem situation_invariant (run : Run group origin history scene) (name : String)
    (invariant : Situation → Prop) {admitted : Step → Prop}
    (only : ∀ step ∈ history, admitted step)
    (start : invariant (origin.situation name))
    (extend : ∀ step : Step, admitted step →
      (step.deedOn group name).Possible (step.before.situation name) →
      invariant (step.before.situation name) →
      invariant ((step.deedOn group name).outcome origin.roster.defaultCapacity
        (step.before.situation name))) :
    invariant (scene.situation name) := by
  refine run.situation_induction name (fun history situation =>
    (∀ step ∈ history, admitted step) → invariant situation) (fun _ => start) ?_ only
  intro history step ih possible only
  obtain ⟨last, earlier⟩ := List.forall_mem_cons.mp only
  exact extend step last possible (ih earlier)

end Run

/-- One move more can be made in the scene that the moves before it lead to. -/
private theorem run?_concat {group : String} {origin scene next : Scene} {moves : List Move}
    {effects : List Effect} {move : Move} {effect : Effect}
    (ran : origin.run? group moves = some (effects, scene))
    (step : scene.step? group move = some (effect, next)) :
    origin.run? group (moves ++ [move]) = some (effects ++ [effect], next) := by
  induction moves generalizing origin effects with
  | nil =>
    obtain ⟨rfl, rfl⟩ := Prod.mk.inj (Option.some.inj ran)
    simp [Scene.run?, step]
  | cons first rest ih =>
    simp only [Scene.run?, Option.bind_eq_bind, Option.bind_eq_some_iff, Prod.exists] at ran
    obtain ⟨firstEffect, middle, firstStep, restEffects, final, restRan, same⟩ := ran
    obtain ⟨rfl, rfl⟩ := Prod.mk.inj (Option.some.inj same)
    simp [Scene.run?, firstStep, ih restRan]

/-- Making moves one after another is running through a history with these moves and
effects. -/
theorem run?_eq_some_iff {group : String} {origin scene : Scene} {moves : List Move}
    {effects : List Effect} :
    origin.run? group moves = some (effects, scene) ↔
      ∃ history, Run group origin history scene ∧
        history.reverse.map Step.move = moves ∧ history.reverse.map Step.effect = effects := by
  constructor
  · intro ran
    induction moves generalizing origin effects with
    | nil =>
      obtain ⟨rfl, rfl⟩ := Prod.mk.inj (Option.some.inj ran)
      exact ⟨[], .start, rfl, rfl⟩
    | cons move rest ih =>
      simp only [Scene.run?, Option.bind_eq_bind, Option.bind_eq_some_iff, Prod.exists] at ran
      obtain ⟨effect, next, step, remaining, final, ran, same⟩ := ran
      obtain ⟨rfl, rfl⟩ := Prod.mk.inj (Option.some.inj same)
      obtain ⟨later, run, sameMoves, sameEffects⟩ := ih ran
      refine ⟨later ++ [⟨origin, move, effect⟩], (Run.start.extend step).trans run, ?_, ?_⟩
      · simp [sameMoves]
      · simp [sameEffects]
  · rintro ⟨history, run, rfl, rfl⟩
    induction run with
    | start => rfl
    | extend _ step ih => simpa using run?_concat ih step

/-! ## A proxy for concrete runs -/

namespace Lobby

/-- The lobby is about to stop with so many players on it. -/
def stopping (players : UInt32) : Transition :=
  ⟨"lobby-1", ["Proxy"], .running, .stopped, players⟩

/-- The lobby is about to start. -/
def starting : Transition :=
  ⟨"lobby-1", ["Proxy"], .prepared, .running, 0⟩

/-- No player is on the lobby. -/
def vacant : Report :=
  ⟨"lobby-1", 0, none⟩

/-- The stop of the occupied lobby is vetoed. -/
def veto : List Move :=
  [.judge (stopping 3), .proceed (.vetoing "lobby-1") false]

/-- A report sees the lobby vacant and claims its stop. -/
def claim : List Move :=
  [.receive vacant, .proceed (.claiming "lobby-1") false]

/-- A request for the lobby's stop is answered. -/
def answer (delivered : Bool) : List Move :=
  [.proceed (.requesting "lobby-1") delivered]

end Lobby

end Quiesce.Interleaving
