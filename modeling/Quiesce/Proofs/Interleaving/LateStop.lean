/-
# The stop that comes too late

The gate lets an occupied proxy stop only when its drain is over: when it is
down and awaits its stop all the same. Without overrides there is one way to
get there. A request for the stop is in flight when another stop of the proxy
is vetoed; the veto opens a new drain, and then the old request is delivered
and notes the proxy down in the middle of it. `Run.occupied_stop_allowed_iff`
says that an occupied stop is allowed exactly then, until an answer of the gate,
a claim or a deletion ends it.
-/

import Quiesce.Proofs.Interleaving.StopTokens

namespace Quiesce.Interleaving

/-! ## Orderly situations -/

/-- At most one stop is pending, and a proxy that is down awaits none. -/
structure Situation.Orderly (situation : Situation) : Prop where
  pending_le_one : situation.pending ≤ 1
  not_awaiting_of_down : situation.standing? = some .down → ¬ situation.awaiting

namespace Deed

/-- Whether a deed leaves a situation that need not be orderly: a veto while a request is
in flight, or an override that sets a proxy down that awaits its stop. -/
def Unsettles (situation : Situation) (deed : Deed) : Prop :=
  deed = .veto ∧ 0 < situation.inFlight ∨
    (∃ capacity, deed = .override .down capacity) ∧ situation.awaiting

variable {situation : Situation} {deed : Deed} (defaultCapacity : UInt32)

/-- All other deeds keep a situation orderly. -/
theorem orderly_outcome (settled : ¬ deed.Unsettles situation) (possible : deed.Possible situation)
    (orderly : situation.Orderly) : (deed.outcome defaultCapacity situation).Orderly := by
  constructor
  · have bound := pending_outcome_le defaultCapacity possible
    have atMostOne : (if deed.Opens situation then 1 else 0) ≤ 1 := by split <;> decide
    by_cases opens : deed.Opens situation
    · obtain ⟨rfl, notAwaiting⟩ := opens
      have answered : situation.inFlight = 0 :=
        Nat.eq_zero_of_not_pos fun unanswered => settled (.inl ⟨rfl, unanswered⟩)
      have nothingPending : situation.pending = 0 := by
        simp [Situation.pending, answered, notAwaiting]
      omega
    · have := orderly.pending_le_one
      rw [if_neg opens] at bound
      omega
  · intro down awaiting
    rw [standing?_outcome] at down
    cases deed with
    | nothing | resize => exact orderly.not_awaiting_of_down down awaiting
    | start | veto | forget => cases down
    | stop | conclude | claim => cases awaiting
    | deliver =>
      have unanswered : 0 < situation.inFlight := possible
      have awaiting : situation.awaiting = true := awaiting
      have atMostOne := orderly.pending_le_one
      simp [Situation.pending, awaiting] at atMostOne
      omega
    | fail =>
      have down : situation.standing? = some .down := down
      simp [down] at awaiting
      exact orderly.not_awaiting_of_down down awaiting
    | override standing capacity =>
      cases down
      exact settled (.inr ⟨⟨capacity, rfl⟩, awaiting⟩)

/-- A proxy that awaits its stop is known. -/
theorem known_outcome (known : situation.awaiting → situation.standing? ≠ none) :
    (deed.outcome defaultCapacity situation).awaiting →
      (deed.outcome defaultCapacity situation).standing? ≠ none := by
  intro awaiting
  rw [standing?_outcome]
  cases deed with
  | nothing | resize => exact known awaiting
  | start | veto | override => simp
  | stop | conclude | claim | forget => cases awaiting
  | deliver => simpa using known awaiting
  | fail =>
    intro unknown
    have unknown : situation.standing? = none := unknown
    simp [unknown] at awaiting
    exact known awaiting unknown

end Deed

/-! ## Late stops -/

/-- A stop of a proxy was delivered while it awaited another, and since then neither an
answer of the gate nor a claim or a deletion has changed that. -/
def StoppedLate (group name : String) (history : List Step) : Prop :=
  ∃ later step earlier, history = later ++ step :: earlier ∧
    step.deedOn group name = .deliver ∧ (step.before.situation name).awaiting ∧
    ∀ other ∈ later,
      ¬ (other.deedOn group name).isAnswer ∧ ¬ (other.deedOn group name).takesMembership

/-- A step makes a stop late, or leaves it so. -/
theorem stoppedLate_cons_iff {group name : String} {step : Step} {history : List Step} :
    StoppedLate group name (step :: history) ↔
      step.deedOn group name = .deliver ∧ (step.before.situation name).awaiting ∨
      StoppedLate group name history ∧
        ¬ (step.deedOn group name).isAnswer ∧ ¬ (step.deedOn group name).takesMembership := by
  constructor
  · rintro ⟨later, late, earlier, split, delivered, awaiting, quiet⟩
    cases later with
    | nil =>
      obtain ⟨rfl, rfl⟩ := List.cons.inj split
      exact .inl ⟨delivered, awaiting⟩
    | cons last later =>
      obtain ⟨rfl, rfl⟩ := List.cons.inj split
      obtain ⟨quietLast, quietLater⟩ := List.forall_mem_cons.mp quiet
      exact .inr ⟨⟨later, late, earlier, rfl, delivered, awaiting, quietLater⟩, quietLast⟩
  · rintro (⟨delivered, awaiting⟩ | ⟨stoppedLate, still⟩)
    · exact ⟨[], step, history, rfl, delivered, awaiting, by simp⟩
    · obtain ⟨later, late, earlier, rfl, delivered, awaiting, quiet⟩ := stoppedLate
      exact ⟨step :: later, late, earlier, rfl, delivered, awaiting,
        List.forall_mem_cons.mpr ⟨still, quiet⟩⟩

/-- The stop of an occupied proxy is allowed when the proxy is down and awaits its stop. -/
theorem Scene.allowed_iff {scene : Scene} {group : String} {transition : Transition}
    (inGroup : transition.inGroup group) (isStop : transition.isStop)
    (occupied : transition.occupancy ≠ 0) :
    (∃ next, scene.step? group (.judge transition) = some (.judged .allow, next)) ↔
      (scene.situation transition.service).awaiting ∧
        (scene.situation transition.service).standing? = some .down := by
  have drained_iff : scene.roster.drained transition.service ↔
      (scene.situation transition.service).awaiting ∧
        (scene.situation transition.service).standing? = some .down := by
    simp [Roster.drained, situation, Situation.standing?, Option.any_eq_true]
  rw [← drained_iff, step?, beginJudgement, if_pos ⟨inGroup, isStop, occupied⟩,
    Roster.concludeDrain]
  by_cases drained : scene.roster.drained transition.service <;> simp [drained]

namespace Run

variable {group : String} {history : List Step} {scene : Scene} {defaultCapacity : UInt32}

/-- Without overrides, a proxy that awaits its stop is down exactly when it was stopped
late. -/
private theorem awaiting_and_down_iff (run : Run group (.start defaultCapacity) history scene)
    (name : String) (noOverride : ∀ step ∈ history, ¬ step.move.overrides name) :
    (scene.situation name).awaiting ∧ (scene.situation name).standing? = some .down ↔
      StoppedLate group name history := by
  -- A delivery notes only a known proxy down, so the induction also carries that a proxy
  -- that awaits its stop is known.
  refine run.situation_induction name (fun history situation =>
    (situation.awaiting → situation.standing? ≠ none) ∧
      ((∀ step ∈ history, ¬ step.move.overrides name) →
        (situation.awaiting ∧ situation.standing? = some .down ↔
          StoppedLate group name history))) ?_ ?_ |>.2 noOverride
  · simp [StoppedLate]
  intro history step ⟨known, ih⟩ possible
  refine ⟨Deed.known_outcome _ known, fun noOverride => ?_⟩
  obtain ⟨notOverridden, noOverride⟩ := List.forall_mem_cons.mp noOverride
  rw [stoppedLate_cons_iff, ← ih noOverride, Deed.standing?_outcome]
  cases deed : step.deedOn group name with
  | nothing | resize | start | veto | stop | conclude | claim | forget =>
    simp [Deed.isAnswer, Deed.takesMembership]
  | deliver =>
    simp only [Deed.outcome, Deed.isAnswer, Deed.takesMembership]
    constructor
    · rintro ⟨awaiting, -⟩
      exact .inl ⟨trivial, awaiting⟩
    · intro late
      have awaiting : (step.before.situation name).awaiting := by
        rcases late with ⟨-, awaiting⟩ | ⟨⟨awaiting, -⟩, -⟩ <;> exact awaiting
      obtain ⟨standing, known⟩ := Option.ne_none_iff_exists'.mp (known awaiting)
      exact ⟨awaiting, by rw [known, Option.map_some]⟩
  | fail =>
    simp [Deed.isAnswer, Deed.takesMembership]
    intro down
    simp [down]
  | override standing capacity =>
    exact absurd deed (step.deedOn_ne_override group notOverridden standing capacity)

/-- A proxy that no step has unsettled is in an orderly situation. -/
theorem orderly (run : Run group (.start defaultCapacity) history scene) (name : String)
    (settled : ∀ step ∈ history,
      ¬ (step.deedOn group name).Unsettles (step.before.situation name)) :
    (scene.situation name).Orderly := by
  refine run.situation_invariant name Situation.Orderly settled ?_ ?_
  · constructor <;> simp [Situation.pending]
  · intro step settledLast possible orderly
    exact Deed.orderly_outcome _ settledLast possible orderly

/-- A proxy that is down and awaits its stop was unsettled by some step. -/
theorem exists_unsettling (run : Run group (.start defaultCapacity) history scene) {name : String}
    (awaiting : (scene.situation name).awaiting)
    (down : (scene.situation name).standing? = some .down) :
    ∃ step ∈ history, (step.deedOn group name).Unsettles (step.before.situation name) := by
  apply Classical.byContradiction
  intro never
  have orderly := run.orderly name fun step taken unsettles => never ⟨step, taken, unsettles⟩
  exact orderly.not_awaiting_of_down down awaiting

/-- Without overrides, a proxy that is down and awaits its stop was vetoed while a request
for its stop was in flight. -/
private theorem exists_veto_in_flight (run : Run group (.start defaultCapacity) history scene)
    {name : String} (noOverride : ∀ step ∈ history, ¬ step.move.overrides name)
    (awaiting : (scene.situation name).awaiting)
    (down : (scene.situation name).standing? = some .down) :
    ∃ step ∈ history, step.deedOn group name = .veto ∧
      0 < (step.before.situation name).inFlight := by
  obtain ⟨step, taken, unsettles⟩ := run.exists_unsettling awaiting down
  rcases unsettles with ⟨veto, unanswered⟩ | ⟨⟨capacity, overridden⟩, -⟩
  · exact ⟨step, taken, veto, unanswered⟩
  · exact absurd overridden
      (step.deedOn_ne_override group (noOverride step taken) .down capacity)

/-- Without overrides, a gate allows the stop of an occupied proxy exactly when the proxy
was stopped late: when a request for its stop was delivered while it awaited another stop
already. It did so because a stop of it was vetoed while a request was in flight. -/
theorem occupied_stop_allowed_iff (run : Run group (.start defaultCapacity) history scene)
    {transition : Transition} (inGroup : transition.inGroup group) (isStop : transition.isStop)
    (occupied : transition.occupancy ≠ 0)
    (noOverride : ∀ step ∈ history, ¬ step.move.overrides transition.service) :
    ((∃ next, scene.step? group (.judge transition) = some (.judged .allow, next)) ↔
      StoppedLate group transition.service history) ∧
    (StoppedLate group transition.service history →
      ∃ step ∈ history, step.deedOn group transition.service = .veto ∧
        0 < (step.before.situation transition.service).inFlight) := by
  have late := run.awaiting_and_down_iff transition.service noOverride
  refine ⟨(Scene.allowed_iff inGroup isStop occupied).trans late, fun stoppedLate => ?_⟩
  obtain ⟨awaiting, down⟩ := late.mpr stoppedLate
  exact run.exists_veto_in_flight noOverride awaiting down

end Run

/-- The lobby's stop is vetoed again while a request for it is in flight, and then the
request is delivered. -/
def Lobby.lateStop : List Move :=
  veto ++ claim ++ veto ++ answer true

theorem Run.occupied_stop_allowed_at_lateStop :
    ∃ history scene, Run "Proxy" (.start 0) history scene ∧
      (∀ step ∈ history, ¬ step.move.overrides "lobby-1") ∧
      ((∃ next, scene.step? "Proxy" (.judge (Lobby.stopping 3)) = some (.judged .allow, next)) ↔
        StoppedLate "Proxy" "lobby-1" history) := by
  have run : Run "Proxy" (.start 0) _ _ := Run.of_moves Lobby.lateStop (by decide)
  exact ⟨_, _, run, by decide,
    (run.occupied_stop_allowed_iff rfl rfl (by decide) (by decide)).1⟩

/-- Players can be cut off without any override: the gate may allow the stop of an occupied
proxy. -/
theorem Lobby.occupied_stop_allowed :
    ¬ ∀ (group : String) (defaultCapacity : UInt32) (history : List Step) (scene next : Scene)
      (transition : Transition), Run group (.start defaultCapacity) history scene →
      (∀ step ∈ history, ¬ step.move.isOverride) →
      transition.inGroup group → transition.isStop → transition.occupancy ≠ 0 →
      scene.step? group (.judge transition) ≠ some (.judged .allow, next) := by
  intro never
  have run : Run "Proxy" (.start 0) _ _ := Run.of_moves lateStop (by decide)
  exact never _ _ _ _ _ (stopping 3) run (by decide) rfl rfl (by decide) rfl

end Quiesce.Interleaving
