/-
# What lets an occupied proxy stop

The gate allows the stop of an occupied proxy that is down and awaits its stop
all the same. A proxy does not get there by itself. With no more than one stop
pending, a request in flight leaves nothing to await, so its delivery sets down a
proxy that awaits no stop; and whatever else sets a proxy down ends its waiting.
Two things break this order: a veto while a request is in flight, after which two
stops are pending, and an override that sets a proxy down and leaves its waiting.
`Run.occupied_stop_allowed_for_cause` says that one of them came first.
-/

import Quiesce.Proofs.Interleaving.LateStop

namespace Quiesce.Interleaving

/-- An override set a proxy down that awaited its stop, or its stop was vetoed while a
request for it was in flight. -/
def Unsettled (group name : String) (history : List Step) : Prop :=
  (∃ step ∈ history, (∃ capacity, step.move = .override name .down capacity) ∧
      (step.before.situation name).awaiting) ∨
    ∃ step ∈ history, step.deedOn group name = .veto ∧
      0 < (step.before.situation name).inFlight

/-- A history unsettles a proxy when a step of it does. -/
theorem unsettled_of_unsettles {group name : String} {history : List Step} {step : Step}
    (taken : step ∈ history)
    (unsettles : (step.deedOn group name).Unsettles (step.before.situation name)) :
    Unsettled group name history := by
  rcases unsettles with ⟨veto, unanswered⟩ | ⟨⟨capacity, overridden⟩, awaiting⟩
  · exact .inr ⟨step, taken, veto, unanswered⟩
  · have move := Move.deedOn_eq_override_iff.mp overridden
    exact .inl ⟨step, taken, ⟨capacity, move⟩, awaiting⟩

namespace Run

variable {group : String} {history : List Step} {scene : Scene} {defaultCapacity : UInt32}

/-- A gate that allows the stop of an occupied proxy does so for cause: earlier in the run,
an override set the proxy down while it awaited its stop, or its stop was vetoed while a
request for it was in flight. Without such a cause, no proxy is ever down and awaits its
stop. -/
theorem occupied_stop_allowed_for_cause
    (run : Run group (.start defaultCapacity) history scene) :
    (∀ (transition : Transition) (next : Scene),
      transition.inGroup group → transition.isStop → transition.occupancy ≠ 0 →
      scene.step? group (.judge transition) = some (.judged .allow, next) →
      Unsettled group transition.service history) ∧
    ∀ name, ¬ Unsettled group name history →
      ¬ ((scene.situation name).awaiting ∧ (scene.situation name).standing? = some .down) := by
  have cause (name : String) (awaiting : (scene.situation name).awaiting)
      (down : (scene.situation name).standing? = some .down) : Unsettled group name history := by
    obtain ⟨step, taken, unsettles⟩ := run.exists_unsettling awaiting down
    exact unsettled_of_unsettles taken unsettles
  constructor
  · intro transition next inGroup isStop occupied allowed
    obtain ⟨awaiting, down⟩ :=
      (Scene.allowed_iff inGroup isStop occupied).mp ⟨next, allowed⟩
    exact cause transition.service awaiting down
  · rintro name settled ⟨awaiting, down⟩
    exact settled (cause name awaiting down)

end Run

/-- The lobby's stop is vetoed, and an override sets the lobby down. -/
def Lobby.setDown : List Move :=
  veto ++ [.override "lobby-1" .down none]

theorem Run.occupied_stop_allowed_for_cause_at_setDown :
    ∃ history scene next, Run "Proxy" (.start 0) history scene ∧
      scene.step? "Proxy" (.judge (Lobby.stopping 3)) = some (.judged .allow, next) ∧
      Unsettled "Proxy" "lobby-1" history := by
  have run : Run "Proxy" (.start 0) _ _ := Run.of_moves Lobby.setDown (by decide)
  exact ⟨_, _, _, run, rfl,
    run.occupied_stop_allowed_for_cause.1 (Lobby.stopping 3) _ rfl rfl (by decide) rfl⟩

end Quiesce.Interleaving
