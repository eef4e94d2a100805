/-
# Every drain is worth one stop

A veto that finds its proxy not awaiting a stop opens a drain. The drain is
worth one stop, which is at any time awaited, in flight, or delivered; it is
lost when its proxy is stopped, concluded or forgotten first, or when a request
fails for a proxy that drains no more. Nothing but a new drain makes another:
a request that fails gives back no more than it took. So stops never outnumber
drains, and a membership is claimed by one report alone.
-/

import Quiesce.Proofs.Interleaving.Run

namespace Quiesce.Interleaving

/-- The stops that a situation may still come to. -/
def Situation.pending (situation : Situation) : Nat :=
  situation.inFlight + situation.awaiting.toNat

namespace Deed

/-- Whether a deed opens a drain in a situation. -/
def Opens (situation : Situation) (deed : Deed) : Prop :=
  deed = .veto ∧ ¬ situation.awaiting

/-- Whether a deed gives a claim back in a situation. -/
def Returns (situation : Situation) (deed : Deed) : Prop :=
  deed = .fail ∧ ¬ situation.awaiting ∧ situation.standing? = some .draining

instance (situation : Situation) (deed : Deed) : Decidable (deed.Opens situation) :=
  inferInstanceAs (Decidable (_ ∧ _))

instance (situation : Situation) (deed : Deed) : Decidable (deed.Returns situation) :=
  inferInstanceAs (Decidable (_ ∧ _))

variable {situation : Situation} {deed : Deed} (defaultCapacity : UInt32)

/-- A delivered stop uses one up, and only a drain that is opened adds one. -/
theorem pending_outcome_le (possible : deed.Possible situation) :
    (if deed = .deliver then 1 else 0) + (deed.outcome defaultCapacity situation).pending ≤
      situation.pending + if deed.Opens situation then 1 else 0 := by
  obtain ⟨record, awaiting, inFlight⟩ := situation
  cases deed with
  | nothing | start | resize | override => simp [Situation.pending, Situation.assigned]
  | stop | conclude | forget =>
    simp [Situation.pending, Situation.assigned]
    omega
  | veto => cases awaiting <;> simp [Situation.pending, Situation.assigned, Opens]
  | claim =>
    obtain rfl : awaiting = true := possible
    simp [Situation.pending]
  | deliver =>
    have unanswered : 0 < inFlight := possible
    simp [Situation.pending]
    omega
  | fail =>
    have unanswered : 0 < inFlight := possible
    have := Bool.toNat_le (awaiting || (Situation.mk record awaiting inFlight).standing? =
      some .draining)
    simp [Situation.pending]
    omega

/-- A claim uses the membership up, and only a drain that is opened or a claim that is
given back makes a new one. -/
theorem awaiting_outcome_le (possible : deed.Possible situation) :
    (if deed = .claim then 1 else 0) +
        (deed.outcome defaultCapacity situation).awaiting.toNat ≤
      situation.awaiting.toNat + (if deed.Opens situation then 1 else 0) +
        if deed.Returns situation then 1 else 0 := by
  cases deed with
  | nothing | start | resize | override | deliver => simp [Situation.assigned, Opens, Returns]
  | stop | conclude | forget => simp
  | veto => cases awaiting : situation.awaiting <;> simp [Opens, awaiting]
  | claim =>
    have awaiting : situation.awaiting = true := possible
    simp [Opens, Returns, awaiting]
  | fail =>
    cases awaiting : situation.awaiting with
    | true => simp [Opens, Returns, awaiting]
    | false => by_cases draining : situation.standing? = some .draining <;>
        simp [Returns, awaiting, draining]

end Deed

/-- Whether a step opened a drain of a proxy. -/
def Step.opensDrain (group name : String) (step : Step) : Bool :=
  (step.deedOn group name).Opens (step.before.situation name)

/-- Whether a step gave a claim to a proxy's stop back. -/
def Step.returnsClaim (group name : String) (step : Step) : Bool :=
  (step.deedOn group name).Returns (step.before.situation name)

namespace Run

variable {group : String} {origin scene : Scene} {history : List Step}

/-- What is delivered, in flight or awaited at the end of a run was in flight or awaited
at its origin, or belongs to a drain opened since. -/
private theorem delivered_add_pending_le (run : Run group origin history scene) (name : String) :
    history.countP (·.deedOn group name = .deliver) + (scene.situation name).pending ≤
      (origin.situation name).pending + history.countP (·.opensDrain group name) := by
  refine run.situation_induction name (fun history situation =>
    history.countP (·.deedOn group name = .deliver) + situation.pending ≤
      (origin.situation name).pending + history.countP (·.opensDrain group name)) (by simp) ?_
  intro history step ih possible
  have kept := Deed.pending_outcome_le origin.roster.defaultCapacity possible
  rw [List.countP_cons, List.countP_cons]
  simp only [Step.opensDrain, decide_eq_true_eq] at ih kept ⊢
  omega

/-- Every claim takes a membership that stood at the origin, or that a drain opened since
or a claim given back since has made. -/
private theorem claimed_add_awaiting_le (run : Run group origin history scene) (name : String) :
    history.countP (·.deedOn group name = .claim) + (scene.situation name).awaiting.toNat ≤
      (origin.situation name).awaiting.toNat + history.countP (·.opensDrain group name) +
        history.countP (·.returnsClaim group name) := by
  refine run.situation_induction name (fun history situation =>
    history.countP (·.deedOn group name = .claim) + situation.awaiting.toNat ≤
      (origin.situation name).awaiting.toNat + history.countP (·.opensDrain group name) +
        history.countP (·.returnsClaim group name)) (by simp) ?_
  intro history step ih possible
  have kept := Deed.awaiting_outcome_le origin.roster.defaultCapacity possible
  rw [List.countP_cons, List.countP_cons, List.countP_cons]
  simp only [Step.opensDrain, Step.returnsClaim, decide_eq_true_eq] at ih kept ⊢
  omega

/-- No drain is stopped twice. In every run from an empty scene, the stops delivered to
a proxy, its requests in flight and the stop that it awaits, if it does, are together no
more than the drains opened for it. And from any scene of the run on, its stop is claimed
no more often than there are memberships to claim: the one that stands, if it does, and
one for each drain that is opened and each claim that a failed request gives back. So of
all reports that race for one membership, at most one requests the stop until a claim
is given back or a veto opens a drain. -/
theorem stops_le_drains {defaultCapacity : UInt32}
    (run : Run group (.start defaultCapacity) history scene) (name : String) :
    history.countP (·.deedOn group name = .deliver) + (scene.situation name).inFlight +
        (if (scene.situation name).awaiting then 1 else 0) ≤
      history.countP (·.opensDrain group name) ∧
    ∀ later final, Run group scene later final →
      later.countP (·.deedOn group name = .claim) ≤
        (if (scene.situation name).awaiting then 1 else 0) +
          later.countP (·.opensDrain group name) + later.countP (·.returnsClaim group name) ∧
      ((∀ step ∈ later, ¬ step.opensDrain group name ∧ ¬ step.returnsClaim group name) →
        later.countP (·.deedOn group name = .claim) ≤ 1) := by
  have membership : (if (scene.situation name).awaiting then 1 else 0) =
      (scene.situation name).awaiting.toNat := by
    cases (scene.situation name).awaiting <;> rfl
  rw [membership]
  constructor
  · have conserved := run.delivered_add_pending_le name
    simp only [Scene.situation_start, Situation.pending, Bool.toNat_false] at conserved
    omega
  · intro later final run
    have bound := run.claimed_add_awaiting_le name
    refine ⟨by omega, fun quiet => ?_⟩
    have noDrain : later.countP (·.opensDrain group name) = 0 :=
      List.countP_eq_zero.mpr fun step taken => (quiet step taken).1
    have noReturn : later.countP (·.returnsClaim group name) = 0 :=
      List.countP_eq_zero.mpr fun step taken => (quiet step taken).2
    have := Bool.toNat_le (scene.situation name).awaiting
    omega

end Run

/-- Two reports see the lobby vacant in one drain. One of them requests its stop, and the
other finds it claimed. -/
def Lobby.race : List Move :=
  veto ++ [.receive vacant] ++ claim ++ [.proceed (.claiming "lobby-1") false] ++ answer true

theorem Run.stops_le_drains_at_race :
    ∃ history scene, Run "Proxy" (.start 0) history scene ∧
      history.countP (·.deedOn "Proxy" "lobby-1" = .deliver) = 1 ∧
      history.countP (·.deedOn "Proxy" "lobby-1" = .deliver) +
          (scene.situation "lobby-1").inFlight +
          (if (scene.situation "lobby-1").awaiting then 1 else 0) ≤
        history.countP (·.opensDrain "Proxy" "lobby-1") := by
  have run : Run "Proxy" (.start 0) _ _ := Run.of_moves Lobby.race (by decide)
  exact ⟨_, _, run, by decide, (run.stops_le_drains "lobby-1").1⟩

end Quiesce.Interleaving
