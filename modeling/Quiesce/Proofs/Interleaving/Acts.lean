/-
# Acts and plays

Beside the moves that events are made of, a roster meets operations that are answered at
once: polls, requests that fetch, and direct calls. An act is a move or such an operation.
A play makes acts one after another, in any order, so that anything may happen between
two steps of one event or while a request for a stop is in flight; it keeps what each act
came to. An operation that only looks can always be made, and leaves the scene as it is.
-/

import Quiesce.Proofs.Api.Refusal
import Quiesce.Proofs.Interleaving.Deed

namespace Quiesce

/-- Whether an operation only looks at the roster. -/
def Operation.isLook : Operation → Bool
  | .find _ | .entry _ | .awaitsStop _ | .size | .poll _ _ | .missConnection => true
  | .request asked => asked.method ∈ ["GET", "HEAD"]
  | _ => false

/-- An operation that only looks is answered at once, and leaves the roster as it is. -/
theorem Agent.begin_of_isLook (agent : Agent) {operation : Operation}
    (look : operation.isLook) :
    ∃ answer next, agent.begin operation = (.answered answer, next) ∧
      next.roster = agent.roster := by
  cases operation with
  | find | entry | awaitsStop | size | missConnection => exact ⟨_, _, rfl, rfl⟩
  | poll payload written =>
    obtain ⟨tally, polled⟩ := agent.exists_tally_poll payload written
    have kept : (agent.poll payload written).2.roster = agent.roster := by rw [polled]; rfl
    exact ⟨_, _, rfl, kept⟩
  | request request =>
    have fetched : request.method ∈ ["GET", "HEAD"] := of_decide_eq_true look
    obtain ⟨response, handled⟩ := Api.handle_of_isLook agent request fun _ accepted =>
      Api.isLook_of_fetched fetched accepted
    refine ⟨.response response, Api.counted agent request response.status, ?_, rfl⟩
    simp only [begin, handled]
  | _ => cases look

namespace Interleaving

/-- What is done to a scene. -/
inductive Act where
  | move (move : Move)
  /-- An operation that is answered at once. -/
  | call (operation : Operation)

/-- What an act comes to. -/
inductive Outcome where
  | effect (effect : Effect)
  | answer (answer : Answer)
  deriving DecidableEq

/-- An act that was done, and what it came to. -/
structure Occurrence where
  act : Act
  outcome : Outcome

/-- What an occurrence did to a proxy that its situation shows, if operations only look. -/
def Occurrence.deedOn (group name : String) (occurrence : Occurrence) : Deed :=
  match occurrence.act, occurrence.outcome with
  | .move move, .effect effect => move.deedOn group name effect
  | _, _ => .nothing

namespace Scene

/-- An agent that holds the roster of a scene. -/
def agent (group : String) (scene : Scene) : Agent :=
  ⟨group, scene.roster, .empty, [], false, none⟩

@[simp] theorem roster_agent (group : String) (scene : Scene) :
    (scene.agent group).roster = scene.roster := rfl

/-- Do an act; `none` when a move cannot be made or an operation is not answered at once. -/
def act? (group : String) (scene : Scene) : Act → Option (Outcome × Scene)
  | .move move => (scene.step? group move).map fun (effect, next) => (.effect effect, next)
  | .call operation =>
    match (scene.agent group).begin operation with
    | (.answered answer, agent) => some (.answer answer, scene.withRoster agent.roster)
    | (.waiting _, _) => none

/-- Do acts one after another. -/
def play? (group : String) (scene : Scene) : List Act → Option (List Occurrence × Scene)
  | [] => some ([], scene)
  | act :: rest => do
    let (outcome, next) ← scene.act? group act
    let (occurrences, final) ← next.play? group rest
    return (⟨act, outcome⟩ :: occurrences, final)

variable {group : String} {scene next final : Scene}

/-- A play of acts is the first act and a play of the others. -/
theorem play?_cons_eq_some {act : Act} {rest : List Act} {occurrences : List Occurrence}
    (played : scene.play? group (act :: rest) = some (occurrences, final)) :
    ∃ outcome next later, scene.act? group act = some (outcome, next) ∧
      next.play? group rest = some (later, final) ∧ occurrences = ⟨act, outcome⟩ :: later := by
  simp only [play?, Option.bind_eq_bind, Option.bind_eq_some_iff, Prod.exists] at played
  obtain ⟨outcome, next, done, later, last, played, same⟩ := played
  obtain ⟨rfl, rfl⟩ := Prod.mk.inj (Option.some.inj same)
  exact ⟨outcome, next, later, done, played, rfl⟩

/-- A play of acts can be made when the first act can be done and the others played after it. -/
theorem play?_cons {act : Act} {outcome : Outcome} {rest : List Act} {later : List Occurrence}
    (done : scene.act? group act = some (outcome, next))
    (played : next.play? group rest = some (later, final)) :
    scene.play? group (act :: rest) = some (⟨act, outcome⟩ :: later, final) := by
  simp only [play?, done, played, Option.bind_eq_bind, Option.bind_some, Option.pure_def]

theorem act?_move_eq_some {move : Move} {outcome : Outcome}
    (done : scene.act? group (.move move) = some (outcome, next)) :
    ∃ effect, scene.step? group move = some (effect, next) ∧ outcome = .effect effect := by
  simp only [act?, Option.map_eq_some_iff, Prod.exists, Prod.mk.injEq] at done
  obtain ⟨effect, _, step, rfl, rfl⟩ := done
  exact ⟨effect, step, rfl⟩

theorem act?_call_eq_some {operation : Operation} {outcome : Outcome}
    (done : scene.act? group (.call operation) = some (outcome, next)) :
    ∃ answer agent, (scene.agent group).begin operation = (.answered answer, agent) ∧
      outcome = .answer answer ∧ next = scene.withRoster agent.roster := by
  rw [act?] at done
  split at done
  next answer agent begun =>
    obtain ⟨rfl, rfl⟩ := Prod.mk.inj (Option.some.inj done)
    exact ⟨answer, agent, begun, rfl, rfl⟩
  · cases done

/-- An operation that only looks can be made in every scene, and leaves it as it is. -/
theorem act?_of_isLook (group : String) (scene : Scene) {operation : Operation}
    (look : operation.isLook) :
    ∃ answer, scene.act? group (.call operation) = some (.answer answer, scene) := by
  obtain ⟨answer, agent, begun, same⟩ := (scene.agent group).begin_of_isLook look
  have unchanged : scene.withRoster agent.roster = scene := by
    rw [same]
    rfl
  exact ⟨answer, by rw [act?, begun, ← unchanged]; rfl⟩

end Scene

end Interleaving

end Quiesce
