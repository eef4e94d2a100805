/-
# A start does not close the drain

A start sets its proxy up but leaves its membership alone. A proxy that awaited
its stop when it started awaits it still, and the next report that sees it
vacant, as a proxy that has just started is, has it stopped.
`Run.stop_after_start_iff` says that a proxy whose last answer from the gate was
a start is stopped in no other way: the membership was left over from before the
start, and neither a claim nor a deletion has taken it since.
-/

import Quiesce.Proofs.Interleaving.Attended

namespace Quiesce.Interleaving

/-- A start found its proxy awaiting its stop, and no later step has taken the membership. -/
def LeftAwaiting (group name : String) (start : Step) (later : List Step) : Prop :=
  (start.before.situation name).awaiting ∧
    ∀ step ∈ later, ¬ (step.deedOn group name).takesMembership

namespace Deed

variable {situation : Situation} {deed : Deed} (defaultCapacity : UInt32)

/-- What is neither an answer of the gate nor an override begins no drain, and so gives no
claim back to a proxy that does not drain. -/
theorem quiet_outcome (notAnswer : ¬ deed.isAnswer)
    (notOverride : ∀ standing capacity, deed ≠ .override standing capacity)
    (notDraining : situation.standing? ≠ some .draining) :
    (deed.outcome defaultCapacity situation).standing? ≠ some .draining ∧
      ((deed.outcome defaultCapacity situation).awaiting ↔
        situation.awaiting ∧ ¬ deed.takesMembership) := by
  rw [standing?_outcome]
  cases deed with
  | nothing | resize | claim => exact ⟨notDraining, by simp [takesMembership]⟩
  | deliver | forget => simp [takesMembership]
  | fail => exact ⟨notDraining, by simp [takesMembership, notDraining]⟩
  | start | stop | conclude | veto => exact absurd rfl notAnswer
  | override standing capacity => exact absurd rfl (notOverride standing capacity)

/-- It leaves a proxy up, unless it delivers a stop or deletes the proxy. -/
theorem up_outcome (notAnswer : ¬ deed.isAnswer)
    (notOverride : ∀ standing capacity, deed ≠ .override standing capacity)
    (kept : deed ≠ .deliver ∧ deed ≠ .forget) (up : situation.standing? = some .up) :
    (deed.outcome defaultCapacity situation).standing? = some .up := by
  rw [standing?_outcome]
  cases deed with
  | nothing | resize | claim | fail => exact up
  | deliver => exact absurd rfl kept.1
  | forget => exact absurd rfl kept.2
  | start | stop | conclude | veto => exact absurd rfl notAnswer
  | override standing capacity => exact absurd rfl (notOverride standing capacity)

end Deed

namespace Scene

variable (scene : Scene) (group : String)

/-- A claim requests the stop exactly when it is due and the proxy awaits it. -/
private theorem step?_claiming_eq_requested_iff {name : String} {delivered : Bool} :
    (∃ next, scene.step? group (.proceed (.claiming name) delivered) =
      some (.requested name, next)) ↔
    .claiming name ∈ scene.tasks ∧ (scene.situation name).awaiting := by
  constructor
  · rintro ⟨next, requested⟩
    by_cases due : .claiming name ∈ scene.tasks
    · cases awaiting : scene.roster.awaitsStop name with
      | true => exact ⟨due, awaiting⟩
      | false =>
        simp [step?, due, proceed, Roster.claimStop, Roster.takeClaim, awaiting] at requested
    · simp [step?, due] at requested
  · rintro ⟨due, awaiting⟩
    obtain ⟨asked, claimed⟩ := scene.step?_claiming_of_awaiting group due awaiting
    exact ⟨asked, claimed delivered⟩

/-- A report that sees a proxy vacant finds it not draining exactly when it awaits no
stop. -/
private theorem step?_receive_eq_notDraining_iff {report : Report} (vacant : report.occupancy = 0) :
    scene.step? group (.receive report) = some (.progressed .notDraining, scene) ↔
      ¬ (scene.situation report.service).awaiting := by
  cases awaiting : (scene.situation report.service).awaiting with
  | true => simp [scene.step?_receive_of_awaiting group vacant awaiting]
  | false =>
    have unawaited : scene.roster.awaitsStop report.service = false := awaiting
    simp [step?, beginReport, Roster.sight, unawaited]

end Scene

namespace Run

variable {group name : String} {origin scene : Scene} {later earlier : List Step} {start : Step}

/-- After a start, with no other answer of the gate and no override since, a proxy does not
drain. It awaits its stop exactly when it was left awaiting it, and it is up as long as
no stop of it is delivered and it is not deleted. -/
private theorem situation_after_start
    (run : Run group origin (later ++ start :: earlier) scene)
    (started : start.deedOn group name = .start)
    (latest : ∀ step ∈ later,
      ¬ (step.deedOn group name).isAnswer ∧ ¬ step.move.overrides name) :
    (scene.situation name).standing? ≠ some .draining ∧
      ((scene.situation name).awaiting ↔ LeftAwaiting group name start later) ∧
      ((∀ step ∈ later,
          step.deedOn group name ≠ .deliver ∧ step.deedOn group name ≠ .forget) →
        (scene.situation name).standing? = some .up) := by
  -- The induction is on the steps since the start. It needs the standing: a request that
  -- fails gives its claim back to a proxy that drains, and to no other.
  obtain ⟨middle, first, second⟩ := run.split
  have atStart := first.situation_cons name
  rw [started] at atStart
  refine second.situation_induction name (fun later situation =>
    (∀ step ∈ later, ¬ (step.deedOn group name).isAnswer ∧ ¬ step.move.overrides name) →
      situation.standing? ≠ some .draining ∧
        (situation.awaiting ↔ LeftAwaiting group name start later) ∧
        ((∀ step ∈ later,
            step.deedOn group name ≠ .deliver ∧ step.deedOn group name ≠ .forget) →
          situation.standing? = some .up)) ?_ ?_ latest
  · intro _
    rw [atStart, Deed.standing?_outcome]
    simp [LeftAwaiting, Situation.assigned]
  · intro later step ih possible latest
    obtain ⟨⟨notAnswer, notOverridden⟩, latest⟩ := List.forall_mem_cons.mp latest
    obtain ⟨notDraining, awaiting_iff, up⟩ := ih latest
    have notOverride := step.deedOn_ne_override group notOverridden
    obtain ⟨stillNot, still_iff⟩ :=
      Deed.quiet_outcome middle.roster.defaultCapacity notAnswer notOverride notDraining
    refine ⟨stillNot, still_iff.trans ?_, fun kept => ?_⟩
    · rw [awaiting_iff, LeftAwaiting, LeftAwaiting, List.forall_mem_cons, and_right_comm, and_assoc]
    · obtain ⟨keptLast, kept⟩ := List.forall_mem_cons.mp kept
      exact Deed.up_outcome _ notAnswer notOverride keptLast (up kept)

/-- Suppose that the last answer of the gate about a proxy was its start, and that no
override of it came since. A report may then still request its stop, and it can exactly
when the proxy awaited its stop when it started and neither a claim nor a deletion has
taken the membership since. Otherwise a report that sees it vacant is told that it does
not drain. Either way it is up until a stop of it is delivered or it is deleted. -/
theorem stop_after_start_iff (run : Run group origin (later ++ start :: earlier) scene)
    (started : start.deedOn group name = .start)
    (latest : ∀ step ∈ later,
      ¬ (step.deedOn group name).isAnswer ∧ ¬ step.move.overrides name) :
    (∀ delivered,
      (∃ next, scene.step? group (.proceed (.claiming name) delivered) =
        some (.requested name, next)) ↔
      .claiming name ∈ scene.tasks ∧ LeftAwaiting group name start later) ∧
    (∀ report : Report, report.service = name → report.occupancy = 0 →
      (scene.step? group (.receive report) = some (.progressed .notDraining, scene) ↔
        ¬ LeftAwaiting group name start later)) ∧
    ((∀ step ∈ later,
        step.deedOn group name ≠ .deliver ∧ step.deedOn group name ≠ .forget) →
      (scene.situation name).standing? = some .up) := by
  obtain ⟨-, awaiting_iff, up⟩ := run.situation_after_start started latest
  refine ⟨fun delivered => ?_, ?_, up⟩
  · rw [← awaiting_iff]
    exact scene.step?_claiming_eq_requested_iff group
  · rintro report rfl vacant
    rw [← awaiting_iff]
    exact scene.step?_receive_eq_notDraining_iff group vacant

end Run

/-- The lobby's stop is vetoed, the lobby starts once more, and a report sees it vacant. -/
def Lobby.restart : List Move :=
  veto ++ [.judge starting, .receive vacant]

theorem Run.stop_after_start_iff_at_restart :
    ∃ later start earlier scene, Run "Proxy" (.start 0) (later ++ start :: earlier) scene ∧
      start.deedOn "Proxy" "lobby-1" = .start ∧
      (∀ step ∈ later,
        ¬ (step.deedOn "Proxy" "lobby-1").isAnswer ∧ ¬ step.move.overrides "lobby-1") ∧
      ∀ delivered,
        (∃ next, scene.step? "Proxy" (.proceed (.claiming "lobby-1") delivered) =
          some (.requested "lobby-1", next)) ↔
        .claiming "lobby-1" ∈ scene.tasks ∧ LeftAwaiting "Proxy" "lobby-1" start later := by
  have run : Run "Proxy" (.start 0) ([_] ++ _ :: _) _ := Run.of_moves Lobby.restart (by decide)
  exact ⟨_, _, _, _, run, by decide, by decide,
    (run.stop_after_start_iff (by decide) (by decide)).1⟩

/-- A start need not end a drain: without any override, the stop of a proxy may be requested
although its start was the last answer of the gate about it. -/
theorem Lobby.stop_requested_after_start :
    ¬ ∀ (group name : String) (defaultCapacity : UInt32) (later earlier : List Step)
      (start : Step) (scene next : Scene) (delivered : Bool),
      Run group (.start defaultCapacity) (later ++ start :: earlier) scene →
      (∀ step ∈ later ++ start :: earlier, ¬ step.move.isOverride) →
      start.deedOn group name = .start →
      (∀ step ∈ later, ¬ (step.deedOn group name).isAnswer) →
      scene.step? group (.proceed (.claiming name) delivered) ≠ some (.requested name, next) := by
  intro never
  have run : Run "Proxy" (.start 0) ([_] ++ _ :: _) _ := Run.of_moves restart (by decide)
  exact never _ "lobby-1" _ _ _ _ _ _ false run (by decide) (by decide) (by decide) rfl

end Quiesce.Interleaving
