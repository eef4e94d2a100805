/-
# No drain is stranded

A proxy that drains is attended: it awaits its stop, or a request for its stop
is in flight. Every deed keeps that, as long as no override sets the proxy
draining, for then nobody asked for its stop. A claim ends the waiting but puts
its request in flight; a request that fails gives the claim back to a proxy
that still drains; and whatever else ends the waiting ends the draining too.
-/

import Quiesce.Proofs.Interleaving.Run

namespace Quiesce.Interleaving

/-- A proxy that drains awaits its stop or has a request for it in flight. -/
def Situation.Attended (situation : Situation) : Prop :=
  situation.standing? = some .draining → situation.awaiting ∨ 0 < situation.inFlight

/-- A deed leaves no drain unattended, unless it is an override that begins one. -/
theorem Deed.attended_outcome {situation : Situation} {deed : Deed} (defaultCapacity : UInt32)
    (noDrain : ∀ capacity, deed ≠ .override .draining capacity)
    (possible : deed.Possible situation) (attended : situation.Attended) :
    (deed.outcome defaultCapacity situation).Attended := by
  intro draining
  rw [standing?_outcome] at draining
  cases deed with
  | nothing | resize => exact attended draining
  | start | stop | forget => cases draining
  | conclude => cases possible.2.symm.trans draining
  | veto => exact .inl rfl
  | claim => exact .inr (Nat.succ_pos _)
  | deliver => simp at draining
  | fail => exact .inl (by simp [show situation.standing? = some .draining from draining])
  | override standing capacity =>
    cases draining
    exact absurd rfl (noDrain capacity)

namespace Scene

variable (scene : Scene) (group : String)

/-- A report that no player is on a proxy is seen to ask for a claim when the proxy
awaits its stop. -/
theorem step?_receive_of_awaiting {report : Report} (vacant : report.occupancy = 0)
    (awaiting : (scene.situation report.service).awaiting) :
    scene.step? group (.receive report) =
      some (.silent, scene.adding (.claiming report.service)) := by
  have awaiting : scene.roster.awaitsStop report.service = true := awaiting
  simp [step?, beginReport, Roster.sight, awaiting, vacant]

/-- A claim that is due requests the stop of a proxy that awaits it. -/
theorem step?_claiming_of_awaiting {name : String} (due : .claiming name ∈ scene.tasks)
    (awaiting : (scene.situation name).awaiting) :
    ∃ asked, ∀ delivered, scene.step? group (.proceed (.claiming name) delivered) =
      some (.requested name, asked) := by
  have awaiting : scene.roster.awaitsStop name = true := awaiting
  simp [step?, due, proceed, Roster.claimStop, Roster.takeClaim, awaiting]

end Scene

namespace Run

variable {group : String} {history : List Step} {scene : Scene} {defaultCapacity : UInt32}

/-- In every run from an empty scene in which no override sets a proxy draining, each
proxy that drains is attended. So once no request for its stop is in flight, the next
report that sees it vacant takes the claim and requests the stop. -/
theorem draining_attended (run : Run group (.start defaultCapacity) history scene)
    (noDrain : ∀ step ∈ history, ¬ step.move.overridesTo .draining) :
    (∀ name, (scene.situation name).standing? = some .draining →
      (scene.situation name).awaiting ∨ 0 < (scene.situation name).inFlight) ∧
    ∀ report : Report, report.occupancy = 0 →
      (scene.situation report.service).standing? = some .draining →
      (scene.situation report.service).inFlight = 0 →
      ∃ seen asked, scene.step? group (.receive report) = some (.silent, seen) ∧
        ∀ delivered, seen.step? group (.proceed (.claiming report.service) delivered) =
          some (.requested report.service, asked) := by
  have attended (name : String) : (scene.situation name).Attended := by
    refine run.situation_induction name (fun history situation =>
      (∀ step ∈ history, ∀ capacity, step.deedOn group name ≠ .override .draining capacity) →
        situation.Attended) ?_ ?_ ?_
    · intro _ draining
      simp [Situation.standing?] at draining
    · intro history step ih possible noDrain
      exact Deed.attended_outcome _ (noDrain step List.mem_cons_self) possible
        (ih fun step earlier => noDrain step (List.mem_cons_of_mem _ earlier))
    · intro step taken capacity overridden
      apply noDrain step taken
      simp [Move.deedOn_eq_override_iff.mp overridden, Move.overridesTo]
  refine ⟨attended, fun report vacant draining unasked => ?_⟩
  have awaiting : (scene.situation report.service).awaiting :=
    (attended report.service draining).resolve_right (by omega)
  obtain ⟨asked, claimed⟩ := Scene.step?_claiming_of_awaiting
    (scene.adding (.claiming report.service)) group List.mem_cons_self awaiting
  exact ⟨_, asked, scene.step?_receive_of_awaiting group vacant awaiting, claimed⟩

end Run

/-- The request for the lobby's stop fails, and the next report requests it again. -/
theorem Run.draining_attended_after_failure :
    ∃ history scene, Run "Proxy" (.start 0) history scene ∧
      (∀ step ∈ history, ¬ step.move.overridesTo .draining) ∧
      (scene.situation "lobby-1").standing? = some .draining ∧
      (scene.situation "lobby-1").inFlight = 0 ∧
      ∃ seen asked, scene.step? "Proxy" (.receive Lobby.vacant) = some (.silent, seen) ∧
        ∀ delivered, seen.step? "Proxy" (.proceed (.claiming "lobby-1") delivered) =
          some (.requested "lobby-1", asked) := by
  have run : Run "Proxy" (.start 0) _ _ :=
    Run.of_moves (Lobby.veto ++ Lobby.claim ++ Lobby.answer false) (by decide)
  exact ⟨_, _, run, by decide, by decide, by decide,
    (run.draining_attended (by decide)).2 Lobby.vacant rfl (by decide) (by decide)⟩

end Quiesce.Interleaving
