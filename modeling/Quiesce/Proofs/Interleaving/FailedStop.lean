/-
# What a failed request leaves of a drain

A request for a stop takes the waiting of its proxy, whatever the standing of that proxy is, and
a failure gives it back to a draining proxy only. With nothing in between, the failure therefore
leaves the roster as it was before the report exactly when the proxy was draining; otherwise the
waiting is lost, and the next report comes to nothing. `Run.failed_stop_keeps_drain_iff` says so
for every roster that a run leads to. There a proxy can await its stop without draining only
because something displaced it from its drain: a start, an override, or the delivery of an
earlier request.
-/

import Quiesce.Proofs.Interleaving.Unsettled
import Quiesce.Proofs.Session.Completion

namespace Quiesce

/-! ## Failed requests -/

namespace Roster

variable {roster left : Roster} {name : String}

/-- A failure gives back the waiting of a draining proxy that its request took. -/
theorem Completes.eq_of_draining
    (completes : (roster.unawait name).Completes name false left)
    (awaits : roster.awaitsStop name)
    (draining : (roster.find? name).map (·.standing) = some .draining) : left = roster := by
  refine ext_views completes.defaultCapacity (fun other => ?_) fun other => ?_
  · by_cases same : other = name
    · rw [same]
      exact completes.record
    · exact (completes.others other same).1
  · by_cases same : other = name
    · rw [same, awaits]
      exact completes.awaiting.mpr (.inr ⟨Bool.false_ne_true, draining⟩)
    · rw [(completes.others other same).2]
      simp [Ne.symm same]

/-- A vacant report requests the stop of a proxy when that awaits it, and comes to nothing
otherwise. -/
theorem receive_fst_of_vacant (roster : Roster) {report : Report} (vacant : report.occupancy = 0) :
    (roster.receive report).1 =
      if roster.awaitsStop report.service then .requesting report.service
      else .settled .notDraining := by
  by_cases awaits : roster.awaitsStop report.service
  · rw [receive_of_vacant awaits vacant, if_pos awaits]
  · simp [receive, sight, awaits]

end Roster

/-- A report whose request fails saw its proxy vacant and awaiting its stop. With nothing in
between, the failure finds the roster that the request has taken the waiting from. -/
private theorem Session.completes_of_stopFailed {agent : Agent} {event : Json} {report : Report}
    {delivered : Bool} (reads : Report.ofDraft .loaded (.ofJson event) = .ok report)
    (failed : (takeStep agent (.mk (.receive event) delivered [])).1.answer =
      .progress .stopFailed) :
    agent.roster.awaitsStop report.service ∧
      (agent.roster.unawait report.service).Completes report.service false
        (takeStep agent (.mk (.receive event) delivered [])).2.roster := by
  simp only [takeStep, Agent.begin, reads] at failed ⊢
  by_cases awaits : agent.roster.awaitsStop report.service
  case neg => simp [Agent.receive, Roster.receive, Roster.sight, awaits, Trace.answer] at failed
  by_cases vacant : report.occupancy = 0
  case neg =>
    simp [Agent.receive, Roster.receive, Roster.sight, awaits, vacant, Trace.answer] at failed
  rw [Agent.receive_of_vacant awaits vacant] at failed ⊢
  cases delivered with
  | true => cases failed
  | false => exact ⟨awaits, Roster.completes_returnClaim _ report.service⟩

namespace Interleaving

/-! ## Displaced drains -/

namespace Deed

/-- A deed takes a proxy out of its drain without ending the waiting for its stop. -/
def Displaces (situation : Situation) (deed : Deed) : Prop :=
  situation.awaiting ∧ (deed = .start ∨ deed = .deliver ∨
    ∃ standing capacity, deed = .override standing capacity ∧ standing ≠ .draining)

variable {situation : Situation} {deed : Deed}

/-- Unless a deed displaces it, a proxy that awaits its stop is draining. -/
theorem draining_outcome (defaultCapacity : UInt32) (stays : ¬ deed.Displaces situation)
    (drains : situation.awaiting → situation.standing? = some .draining) :
    (deed.outcome defaultCapacity situation).awaiting →
      (deed.outcome defaultCapacity situation).standing? = some .draining := by
  intro awaiting
  rw [standing?_outcome]
  cases deed with
  | nothing | resize => exact drains awaiting
  | veto => rfl
  | stop | conclude | claim | forget => cases awaiting
  | start => exact absurd ⟨awaiting, .inl rfl⟩ stays
  | deliver => exact absurd ⟨awaiting, .inr (.inl rfl)⟩ stays
  | fail =>
    rcases Bool.or_eq_true_iff.mp awaiting with awaited | draining
    · exact drains awaited
    · exact of_decide_eq_true draining
  | override standing capacity =>
    by_cases draining : standing = .draining
    · rw [draining]
    · exact absurd ⟨awaiting, .inr (.inr ⟨standing, capacity, rfl, draining⟩)⟩ stays

end Deed

namespace Run

variable {group : String} {history : List Step} {scene : Scene} {defaultCapacity : UInt32}

/-- A proxy that awaits its stop and is not draining was displaced from its drain. -/
theorem exists_displacing (run : Run group (.start defaultCapacity) history scene) {name : String}
    (awaiting : (scene.situation name).awaiting)
    (notDraining : (scene.situation name).standing? ≠ some .draining) :
    ∃ step ∈ history, (step.deedOn group name).Displaces (step.before.situation name) := by
  apply Classical.byContradiction
  intro none
  have stays : ∀ step ∈ history,
      ¬ (step.deedOn group name).Displaces (step.before.situation name) :=
    fun step taken displaces => none ⟨step, taken, displaces⟩
  refine notDraining (run.situation_invariant name
    (fun situation => situation.awaiting → situation.standing? = some .draining)
    stays ?_ ?_ awaiting)
  · simp
  · intro step stays _ drains
    exact Deed.draining_outcome _ stays drains

/-- A report whose request for a stop fails, with nothing in between, leaves the roster as it
was exactly when its proxy was draining; then the next report that sees the proxy vacant
requests the stop again. Otherwise the proxy was displaced from its drain earlier in the run, it
no longer awaits its stop, and the next report is told that it does not drain. -/
theorem failed_stop_keeps_drain_iff (run : Run group (.start defaultCapacity) history scene)
    {agent : Agent} (holds : agent.roster = scene.roster) (event : Json) {report : Report}
    (reads : Report.ofDraft .loaded (.ofJson event) = .ok report) (delivered : Bool)
    (failed : (Session.takeStep agent (.mk (.receive event) delivered [])).1.answer =
      .progress .stopFailed) :
    let left := (Session.takeStep agent (.mk (.receive event) delivered [])).2.roster
    let standing := (scene.situation report.service).standing?
    (left = agent.roster ↔ standing = some .draining) ∧
      (standing ≠ some .draining → left = agent.roster.unawait report.service ∧
        ∃ step ∈ history, (step.deedOn group report.service).Displaces
          (step.before.situation report.service)) ∧
      ∀ next : Report, next.service = report.service → next.occupancy = 0 →
        (left.receive next).1 =
          if standing = some .draining then .requesting report.service
          else .settled .notDraining := by
  intro left standing
  obtain ⟨awaits, completes⟩ := Session.completes_of_stopFailed reads failed
  have shown : standing = (agent.roster.find? report.service).map (·.standing) := by
    rw [holds]
    rfl
  have kept (draining : standing = some .draining) : left = agent.roster :=
    completes.eq_of_draining awaits (shown ▸ draining)
  have lost (other : standing ≠ some .draining) : left = agent.roster.unawait report.service :=
    completes.settled Bool.false_ne_true (shown ▸ other)
  have still : left.awaitsStop report.service ↔ standing = some .draining := by
    by_cases draining : standing = some .draining
    · simp [kept draining, awaits, draining]
    · simp [lost draining, draining]
  refine ⟨⟨fun same => ?_, kept⟩, fun other => ⟨lost other, ?_⟩, ?_⟩
  · rw [← still, same]
    exact awaits
  · rw [holds] at awaits
    exact run.exists_displacing awaits other
  · intro next same vacant
    simp only [left.receive_fst_of_vacant vacant, same, still]

end Run

/-- The request for the stop of a lobby that was set down fails, and the lobby no longer awaits
its stop. -/
theorem Run.failed_stop_keeps_drain_iff_at_setDown :
    ∃ history scene, Run "Proxy" (.start 0) history scene ∧
      let agent := scene.agent "Proxy"
      let taken := Session.takeStep agent (.mk (.receive Lobby.vacant.toJson) false [])
      taken.1.answer = .progress .stopFailed ∧
        taken.2.roster = agent.roster.unawait "lobby-1" ∧
        (taken.2.roster.receive Lobby.vacant).1 = .settled .notDraining := by
  have run : Run "Proxy" (.start 0) _ _ := Run.of_moves Lobby.setDown (by decide)
  have reads : Report.ofDraft .loaded (.ofJson Lobby.vacant.toJson) = .ok Lobby.vacant :=
    eq_ok_of_toOption (by decide +kernel)
  obtain ⟨-, lost, next⟩ := run.failed_stop_keeps_drain_iff (Scene.roster_agent "Proxy" _)
    Lobby.vacant.toJson reads false (by decide +kernel)
  exact ⟨_, _, run, by decide +kernel, (lost (by decide)).1, next Lobby.vacant rfl rfl⟩

/-- A failed request need not leave the roster as it was, though nothing happens in between. -/
theorem Lobby.waiting_lost_by_failure :
    ¬ ∀ (group : String) (defaultCapacity : UInt32) (history : List Step) (scene : Scene)
      (agent : Agent) (event : Json) (delivered : Bool),
      Run group (.start defaultCapacity) history scene → agent.roster = scene.roster →
      (Session.takeStep agent (.mk (.receive event) delivered [])).1.answer =
        .progress .stopFailed →
      (Session.takeStep agent (.mk (.receive event) delivered [])).2.roster = agent.roster := by
  intro always
  have run : Run "Proxy" (.start 0) _ _ := Run.of_moves setDown (by decide)
  have same := always _ _ _ _ _ vacant.toJson false run (Scene.roster_agent "Proxy" _)
    (by decide +kernel)
  have awaits := congrArg (·.awaitsStop "lobby-1") same
  revert awaits
  decide +kernel

end Interleaving

end Quiesce
