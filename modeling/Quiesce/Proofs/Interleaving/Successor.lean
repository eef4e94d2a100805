/-
# The answer that outlives its proxy

A request for a stop knows its proxy by name alone. When the proxy is deleted
while the request is in flight, and another proxy takes its name, the answer finds
the successor. A delivery sets it down, whatever it is; a failure gives it a claim
back, if it drains. `Run.late_answer_spares_iff` says exactly when the answer
leaves the successor alone: a delivery does when the successor is down anyway, and
a failure does unless the successor's own stop has been claimed.
-/

import Quiesce.Proofs.Interleaving.Run

namespace Quiesce.Interleaving

/-- A situation leaves a proxy's record and its waiting as they were. Requests in flight do
not count. -/
def Situation.Spares (situation next : Situation) : Prop :=
  next.record = situation.record ∧ next.awaiting = situation.awaiting

instance (situation next : Situation) : Decidable (situation.Spares next) :=
  inferInstanceAs (Decidable (_ ∧ _))

namespace Deed

/-- Whether a deed answers a request. -/
def answersRequest : Deed → Bool
  | .deliver | .fail => true
  | _ => false

variable {situation : Situation} {deed : Deed} (defaultCapacity : UInt32)

/-- Requests come into flight by claims and leave it by answers. -/
theorem inFlight_outcome (possible : deed.Possible situation) :
    (deed.outcome defaultCapacity situation).inFlight + (if deed.answersRequest then 1 else 0) =
      situation.inFlight + if deed = .claim then 1 else 0 := by
  cases deed with
  | deliver | fail =>
    have unanswered : 0 < situation.inFlight := possible
    simp [answersRequest]
    omega
  | _ => simp [answersRequest, Situation.assigned]

/-- A deed that leaves a proxy draining leaves it awaiting its stop as well, if it did so
before and the deed is neither a claim nor an override. -/
theorem awaiting_outcome_of_draining (notClaim : deed ≠ .claim)
    (notOverride : ∀ standing capacity, deed ≠ .override standing capacity)
    (possible : deed.Possible situation)
    (awaited : situation.standing? = some .draining → situation.awaiting)
    (draining : (deed.outcome defaultCapacity situation).standing? = some .draining) :
    (deed.outcome defaultCapacity situation).awaiting := by
  rw [standing?_outcome] at draining
  cases deed with
  | nothing | resize => exact awaited draining
  | start | stop | forget => cases draining
  | conclude => cases possible.2.symm.trans draining
  | veto => rfl
  | claim => exact absurd rfl notClaim
  | deliver => simp at draining
  | fail =>
    have draining : situation.standing? = some .draining := draining
    simp [draining]
  | override standing capacity => exact absurd rfl (notOverride standing capacity)

/-- A delivery leaves a proxy alone that is unknown or down. -/
theorem spares_deliver_iff :
    situation.Spares (Deed.deliver.outcome defaultCapacity situation) ↔
      situation.standing? = none ∨ situation.standing? = some .down := by
  cases known : situation.record with
  | none => simp [Situation.Spares, Situation.standing?, known]
  | some record =>
    obtain ⟨standing, capacity⟩ := record
    simp [Situation.Spares, Situation.standing?, known, eq_comm]

/-- A failure leaves a proxy alone unless it drains and awaits no stop. -/
theorem spares_fail_iff :
    situation.Spares (Deed.fail.outcome defaultCapacity situation) ↔
      ¬ (situation.standing? = some .draining ∧ ¬ situation.awaiting) := by
  cases awaiting : situation.awaiting <;> simp [Situation.Spares, awaiting]

end Deed

/-- A request under way can be answered either way, and the answer does its deed. -/
theorem Scene.exists_answer (scene : Scene) (group : String) {name : String}
    (underWay : .requesting name ∈ scene.tasks) (delivered : Bool) :
    ∃ next, scene.step? group (.proceed (.requesting name) delivered) =
        some (.progressed (if delivered then .stopped else .stopFailed), next) ∧
      next.situation name = (if delivered then Deed.deliver else .fail).outcome
        scene.roster.defaultCapacity (scene.situation name) := by
  have answered : ∃ next, scene.step? group (.proceed (.requesting name) delivered) =
      some (.progressed (if delivered then .stopped else .stopFailed), next) := by
    cases delivered <;> simp [step?, underWay, proceed, Roster.settle]
  obtain ⟨next, step⟩ := answered
  have after := ((follows_of_step? step).2 name).2
  refine ⟨next, step, ?_⟩
  cases delivered <;> simpa [Move.deedOn] using after

/-- Whether a step answers a request for a proxy's stop. -/
def Step.answersRequest (group name : String) (step : Step) : Bool :=
  (step.deedOn group name).answersRequest

namespace Run

variable {group name : String} {origin scene : Scene} {history later earlier : List Step}
  {deletion : Step}

/-- The requests in flight are those that were at the origin or were claimed since, less
those that were answered. -/
private theorem inFlight_add_answered (run : Run group origin history scene) (name : String) :
    (scene.situation name).inFlight + history.countP (·.answersRequest group name) =
      (origin.situation name).inFlight + history.countP (·.deedOn group name = .claim) := by
  refine run.situation_induction name (fun history situation =>
    situation.inFlight + history.countP (·.answersRequest group name) =
      (origin.situation name).inFlight + history.countP (·.deedOn group name = .claim)) (by simp) ?_
  intro history step ih possible
  have moved : ((step.deedOn group name).outcome origin.roster.defaultCapacity
        (step.before.situation name)).inFlight + (if step.answersRequest group name then 1 else 0) =
      (step.before.situation name).inFlight + if step.deedOn group name = .claim then 1 else 0 :=
    Deed.inFlight_outcome _ possible
  rw [List.countP_cons, List.countP_cons]
  simp only [decide_eq_true_eq]
  omega

/-- A proxy that drains and awaits no stop, though it was not so at the origin, has had its
stop claimed since. -/
private theorem claimed_of_draining (run : Run group origin history scene)
    (noOverride : ∀ step ∈ history, ¬ step.move.overrides name)
    (awaited : (origin.situation name).standing? = some .draining →
      (origin.situation name).awaiting)
    (draining : (scene.situation name).standing? = some .draining)
    (notAwaiting : ¬ (scene.situation name).awaiting) :
    ∃ step ∈ history, step.deedOn group name = .claim := by
  apply Classical.byContradiction
  intro never
  have unclaimed : ∀ step ∈ history, step.deedOn group name ≠ .claim ∧ ¬ step.move.overrides name :=
    fun step taken => ⟨fun claim => never ⟨step, taken, claim⟩, noOverride step taken⟩
  have kept : (scene.situation name).standing? = some .draining →
      (scene.situation name).awaiting := by
    refine run.situation_invariant name (fun situation =>
      situation.standing? = some .draining → situation.awaiting) unclaimed awaited ?_
    rintro step ⟨notClaim, notOverridden⟩ possible awaited
    exact Deed.awaiting_outcome_of_draining _ notClaim (step.deedOn_ne_override group notOverridden)
      possible awaited
  exact notAwaiting (kept draining)

/-- A deletion leaves its proxy unknown, and its requests in flight. -/
private theorem split_at_deletion (run : Run group origin (later ++ deletion :: earlier) scene)
    (deleted : deletion.deedOn group name = .forget) :
    ∃ middle, Run group middle later scene ∧ (middle.situation name).standing? = none ∧
      (middle.situation name).inFlight = (deletion.before.situation name).inFlight := by
  obtain ⟨middle, first, second⟩ := run.split
  have left := first.situation_cons name
  rw [deleted] at left
  exact ⟨middle, second, by rw [left]; rfl, by rw [left]; rfl⟩

/-- A proxy is deleted while a request for its stop is in flight, and the request is not
answered yet. No override is made of the name since; whether another proxy has it now, and in
what state, is left open. The answer is taken in either way. A delivery sets the proxy down,
if there is one, so it leaves it alone exactly when it is unknown or down; a proxy that has
started again is set down. A failure leaves it alone exactly when it does not drain or awaits
its stop; when it does neither, its own stop was claimed since the deletion, and that
request is in flight beside the old one. -/
theorem late_answer_spares_iff
    (run : Run group origin (later ++ deletion :: earlier) scene) (name : String)
    (deleted : deletion.deedOn group name = .forget)
    (unanswered : later.countP (·.answersRequest group name) <
      (deletion.before.situation name).inFlight)
    (noOverride : ∀ step ∈ later, ¬ step.move.overrides name) :
    let situation := scene.situation name
    (∃ next, scene.step? group (.proceed (.requesting name) true) =
        some (.progressed .stopped, next) ∧
      ((next.situation name).standing? = situation.standing?.map fun _ => .down) ∧
      (situation.Spares (next.situation name) ↔
        situation.standing? = none ∨ situation.standing? = some .down)) ∧
    ∃ next, scene.step? group (.proceed (.requesting name) false) =
        some (.progressed .stopFailed, next) ∧
      (situation.Spares (next.situation name) ↔
        ¬ (situation.standing? = some .draining ∧ ¬ situation.awaiting)) ∧
      (¬ situation.Spares (next.situation name) →
        1 < situation.inFlight ∧ ∃ step ∈ later, step.deedOn group name = .claim) := by
  intro situation
  obtain ⟨middle, since, unknown, inFlight⟩ := run.split_at_deletion deleted
  -- Old requests are left over, so every claim since the deletion makes one more.
  have leftOver : later.countP (·.deedOn group name = .claim) <
      (scene.situation name).inFlight := by
    have conserved := since.inFlight_add_answered name
    omega
  have underWay : .requesting name ∈ scene.tasks :=
    List.count_pos_iff.mp (Nat.zero_lt_of_lt leftOver)
  constructor
  · obtain ⟨next, step, after⟩ := scene.exists_answer group underWay true
    refine ⟨next, step, ?_, ?_⟩
    · rw [after]
      exact Deed.standing?_outcome scene.roster.defaultCapacity situation .deliver
    · rw [after]
      exact Deed.spares_deliver_iff scene.roster.defaultCapacity
  · obtain ⟨next, step, after⟩ := scene.exists_answer group underWay false
    have spares_iff : situation.Spares (next.situation name) ↔
        ¬ (situation.standing? = some .draining ∧ ¬ situation.awaiting) := by
      rw [after]
      exact Deed.spares_fail_iff scene.roster.defaultCapacity
    refine ⟨next, step, spares_iff, fun touched => ?_⟩
    obtain ⟨draining, notAwaiting⟩ := Decidable.not_not.mp (mt spares_iff.mpr touched)
    have awaited : (middle.situation name).standing? = some .draining →
        (middle.situation name).awaiting := by
      rw [unknown]
      exact nofun
    obtain ⟨claim, taken, claimed⟩ :=
      since.claimed_of_draining noOverride awaited draining notAwaiting
    have once : 0 < later.countP (·.deedOn group name = .claim) :=
      List.countP_pos_iff.mpr ⟨claim, taken, by simp [claimed]⟩
    exact ⟨Nat.lt_of_le_of_lt once leftOver, claim, taken, claimed⟩

end Run

/-- The lobby is deleted while a request for its stop is in flight, and starts again. -/
def Lobby.succeeded : List Move :=
  veto ++ claim ++ [.forget "lobby-1", .judge starting]

theorem Run.late_answer_spares_iff_at_succeeded :
    ∃ later deletion earlier scene, Run "Proxy" (.start 0) (later ++ deletion :: earlier) scene ∧
      deletion.deedOn "Proxy" "lobby-1" = .forget ∧
      later.countP (·.answersRequest "Proxy" "lobby-1") <
        (deletion.before.situation "lobby-1").inFlight ∧
      (∀ step ∈ later, ¬ step.move.overrides "lobby-1") ∧
      (scene.situation "lobby-1").standing? = some .up ∧
      ∃ next, scene.step? "Proxy" (.proceed (.requesting "lobby-1") true) =
          some (.progressed .stopped, next) ∧
        (next.situation "lobby-1").standing? = some .down := by
  have run : Run "Proxy" (.start 0) ([_] ++ _ :: _) _ := Run.of_moves Lobby.succeeded (by decide)
  obtain ⟨next, answered, down, -⟩ :=
    (run.late_answer_spares_iff "lobby-1" (by decide) (by decide) (by decide)).1
  exact ⟨_, _, _, _, run, by decide, by decide, by decide, by decide, next, answered, down⟩

/-- An answer need not spare the successor of its proxy: without any override, and with no
request in flight but those of the deleted proxy, its answer may change the proxy that has
taken the name since. -/
theorem Lobby.successor_changed_by_late_answer :
    ¬ ∀ (group name : String) (defaultCapacity : UInt32) (later earlier : List Step)
      (deletion : Step) (scene next : Scene) (delivered : Bool) (effect : Effect),
      Run group (.start defaultCapacity) (later ++ deletion :: earlier) scene →
      (∀ step ∈ later ++ deletion :: earlier, ¬ step.move.isOverride) →
      deletion.deedOn group name = .forget →
      later.countP (·.answersRequest group name) < (deletion.before.situation name).inFlight →
      (∀ step ∈ later, step.deedOn group name ≠ .claim) →
      (scene.situation name).record ≠ none →
      scene.step? group (.proceed (.requesting name) delivered) = some (effect, next) →
      (scene.situation name).Spares (next.situation name) := by
  intro spared
  have run : Run "Proxy" (.start 0) ([_] ++ _ :: _) _ := Run.of_moves succeeded (by decide)
  have spares := spared _ "lobby-1" _ _ _ _ _ _ true _ run (by decide) (by decide) (by decide)
    (by decide) (by decide) rfl
  exact absurd spares (by decide)

end Quiesce.Interleaving
