/-
# A drain from its veto to the stop

The vetoed stop of a proxy opens a drain, and the reports on the proxy finish it.
As long as players are left, nothing is requested; once none is, each report
requests the stop, until a request is delivered. Then the proxy is down, further
reports come to nothing, and the stop that was vetoed is allowed.
`Roster.finished_by_reports` says so for every list of reports, whatever is changed
about other proxies between any two steps of them.

The induction is on the reports. Of the proxy it keeps one bit, whether its drain
is over: standing and waiting follow from that bit.
-/

import Quiesce.Drain
import Quiesce.Gate
import Quiesce.Proofs.Roster.Change

namespace Quiesce

/-- A report, and what it meets with until it is answered. -/
structure Handling where
  report : Report
  /-- Whether the request for the stop is delivered, if the report leads to one. -/
  delivered : Bool
  /-- What is changed before the capacity is noted. -/
  beforeNoting : List Roster.Change
  /-- What is changed before the report is looked at. -/
  beforeSight : List Roster.Change
  /-- What is changed before the stop is claimed, if the proxy is seen vacant. -/
  beforeClaim : List Roster.Change
  /-- What is changed before the request is answered, if there is one. -/
  beforeAnswer : List Roster.Change

/-- What comes of a report. -/
structure Upshot where
  progress : Progress
  /-- The services whose stop was requested. -/
  requests : List String
  deriving DecidableEq, Repr

namespace Handling

/-- A report with nothing in between. -/
def alone (report : Report) (delivered : Bool) : Handling :=
  ⟨report, delivered, [], [], [], []⟩

/-- The report is about a proxy, and all that is changed in between is about others. -/
structure IsAbout (handling : Handling) (name : String) : Prop where
  service : handling.report.service = name
  beforeNoting : ∀ change ∈ handling.beforeNoting, change.name ≠ name
  beforeSight : ∀ change ∈ handling.beforeSight, change.name ≠ name
  beforeClaim : ∀ change ∈ handling.beforeClaim, change.name ≠ name
  beforeAnswer : ∀ change ∈ handling.beforeAnswer, change.name ≠ name

instance (handling : Handling) (name : String) : Decidable (handling.IsAbout name) :=
  decidable_of_iff (handling.report.service = name ∧
      (∀ change ∈ handling.beforeNoting, change.name ≠ name) ∧
      (∀ change ∈ handling.beforeSight, change.name ≠ name) ∧
      (∀ change ∈ handling.beforeClaim, change.name ≠ name) ∧
      ∀ change ∈ handling.beforeAnswer, change.name ≠ name)
    ⟨fun ⟨service, noting, sight, claim, answer⟩ => ⟨service, noting, sight, claim, answer⟩,
      fun ⟨service, noting, sight, claim, answer⟩ => ⟨service, noting, sight, claim, answer⟩⟩

/-- No player is left, and the request is delivered. -/
def finishes (handling : Handling) : Bool :=
  handling.report.occupancy = 0 && handling.delivered

end Handling

namespace Roster

/-! ## Handling reports -/

/-- The roster on which a report is looked at. -/
def seenBy (roster : Roster) (handling : Handling) : Roster :=
  ((roster.applyAll handling.beforeNoting).noteCapacity handling.report).applyAll
    handling.beforeSight

/-- Claim the stop of a proxy that was seen vacant, and take in the answer to the request. -/
def stopVacant (roster : Roster) (handling : Handling) : Upshot × Roster :=
  match (roster.applyAll handling.beforeClaim).claimStop handling.report.service with
  | (.settled progress, roster) => (⟨progress, []⟩, roster)
  | (.requesting service, roster) =>
    let (progress, roster) :=
      (roster.applyAll handling.beforeAnswer).settle service handling.delivered
    (⟨progress, [service]⟩, roster)

/-- Handle a report until it is answered. -/
def handle (roster : Roster) (handling : Handling) : Upshot × Roster :=
  match (roster.seenBy handling).sight handling.report with
  | .settled progress => (⟨progress, []⟩, roster.seenBy handling)
  | .vacant => (roster.seenBy handling).stopVacant handling

/-- Handle reports one after another. -/
def handleAll (roster : Roster) (handlings : List Handling) : Roster :=
  handlings.foldl (fun roster handling => (roster.handle handling).2) roster

/-- With nothing in between, a report is taken in at once, and so is the answer to its
request if it makes one. -/
theorem handle_alone (roster : Roster) (report : Report) (delivered : Bool) :
    roster.handle (.alone report delivered) =
      match (roster.noteCapacity report).receive report with
      | (.settled progress, next) => (⟨progress, []⟩, next)
      | (.requesting service, waiting) =>
        let (progress, next) := waiting.settle service delivered
        (⟨progress, [service]⟩, next) := by
  have handled : roster.handle (.alone report delivered) =
      match (roster.noteCapacity report).sight report with
      | .settled progress => (⟨progress, []⟩, roster.noteCapacity report)
      | .vacant => (roster.noteCapacity report).stopVacant (.alone report delivered) := rfl
  rw [handled, receive]
  cases (roster.noteCapacity report).sight report with
  | settled progress => rfl
  | vacant => rfl

/-! ## What a proxy shows -/

/-- A proxy is known with a standing, and it awaits its stop or does not. -/
def Shows (roster : Roster) (name : String) (standing : Standing) (awaiting : Bool) : Prop :=
  (roster.find? name).map (·.standing) = some standing ∧ roster.awaitsStop name = awaiting

section

variable {roster : Roster} {name : String} {standing : Standing} {awaiting : Bool}
  {handling : Handling}

/-- Changes about others leave it as it is. -/
theorem Shows.applyAll (shows : roster.Shows name standing awaiting) {changes : List Change}
    (others : ∀ change ∈ changes, change.name ≠ name) :
    (roster.applyAll changes).Shows name standing awaiting := by
  rw [Shows, find?_applyAll_of_ne roster others, awaitsStop_applyAll_of_ne roster others]
  exact shows

/-- So does the capacity that a report gives. -/
theorem Shows.noteCapacity (shows : roster.Shows name standing awaiting) (report : Report) :
    (roster.noteCapacity report).Shows name standing awaiting := by
  rw [Roster.noteCapacity]
  split
  case h_2 => exact shows
  obtain ⟨stands, awaits⟩ := shows
  refine ⟨?_, by rw [awaitsStop_resize, awaits]⟩
  rw [find?_resize]
  split
  next about => simp only [about, Option.map_map, Function.comp_def, stands]
  · exact stands

theorem Shows.seenBy (shows : roster.Shows name standing awaiting) (about : handling.IsAbout name) :
    (roster.seenBy handling).Shows name standing awaiting :=
  ((shows.applyAll about.beforeNoting).noteCapacity handling.report).applyAll about.beforeSight

/-- The veto of an occupied stop opens the drain. -/
private theorem shows_of_occupied_veto
    (vetoed : (roster.judgeOccupiedStop name).1 = .veto) :
    (roster.judgeOccupiedStop name).2.Shows name .draining true := by
  rw [judgeOccupiedStop] at vetoed ⊢
  generalize roster.concludeDrain name = conclusion at vetoed ⊢
  obtain ⟨concluded, next⟩ := conclusion
  cases concluded with
  | true => cases vetoed
  | false => simp [Shows, openDrain]

/-- A veto leaves its proxy draining, and awaiting its stop. -/
theorem shows_of_vetoed {group : String} {transition : Transition}
    (vetoed : (roster.judge group transition).1 = .veto) :
    (roster.judge group transition).2.Shows transition.service .draining true := by
  -- Only the stop of an occupied proxy is ever vetoed.
  by_cases inGroup : transition.inGroup group
  case neg => simp [judge, inGroup] at vetoed
  by_cases isStart : transition.isStart
  case pos => simp [judge, judgeProxy, inGroup, isStart] at vetoed
  by_cases isStop : transition.isStop
  case neg => simp [judge, judgeProxy, inGroup, isStart, isStop] at vetoed
  by_cases vacant : transition.occupancy = 0
  case pos => simp [judge, judgeProxy, inGroup, isStart, isStop, vacant] at vetoed
  have judged : roster.judge group transition = roster.judgeOccupiedStop transition.service := by
    simp [judge, judgeProxy, inGroup, isStart, isStop, vacant]
  rw [judged] at vetoed ⊢
  exact shows_of_occupied_veto vetoed

/-- The stop of a proxy without players is allowed, and leaves it down and awaiting nothing. -/
theorem judge_vacant_stop (roster : Roster) {group : String} {transition : Transition}
    (inGroup : transition.inGroup group) (isStop : transition.isStop)
    (vacant : transition.occupancy = 0) :
    (roster.judge group transition).1 = .allow ∧
      (roster.judge group transition).2.Shows transition.service .down false := by
  have notStart : transition.isStart = false := Transition.isStart_eq_false_of_isStop isStop
  have judged : roster.judge group transition =
      (.allow, roster.closeDrain transition.service) := by
    simp [judge, judgeProxy, inGroup, notStart, isStop, vacant]
  rw [judged]
  exact ⟨rfl, by simp [Shows, closeDrain]⟩

/-! ## One report -/

/-- A report on a proxy that awaits nothing comes to nothing. -/
theorem handle_of_not_awaiting (shows : roster.Shows name standing false)
    (about : handling.IsAbout name) :
    (roster.handle handling).1 = ⟨.notDraining, []⟩ ∧
      (roster.handle handling).2.Shows name standing false := by
  have seen := shows.seenBy about
  have sighted : (roster.seenBy handling).sight handling.report = .settled .notDraining := by
    simp [sight, about.service, seen.2]
  rw [handle, sighted]
  exact ⟨rfl, seen⟩

/-- A report that players are left on a proxy that awaits its stop says so. -/
theorem handle_of_occupied (shows : roster.Shows name standing true)
    (about : handling.IsAbout name) (occupied : handling.report.occupancy ≠ 0) :
    (roster.handle handling).1 = ⟨.occupied handling.report.occupancy, []⟩ ∧
      (roster.handle handling).2.Shows name standing true := by
  have seen := shows.seenBy about
  have sighted : (roster.seenBy handling).sight handling.report =
      .settled (.occupied handling.report.occupancy) := by
    simp [sight, about.service, seen.2, occupied]
  rw [handle, sighted]
  exact ⟨rfl, seen⟩

/-- A request that is delivered leaves its proxy down. -/
private theorem Shows.noteStopped (shows : roster.Shows name standing awaiting) :
    (roster.noteStopped name).Shows name .down awaiting := by
  obtain ⟨stands, awaits⟩ := shows
  obtain ⟨record, known, -⟩ := Option.map_eq_some_iff.mp stands
  simp [Shows, Roster.noteStopped, known, awaits]

/-- A request that fails gives its claim back to a proxy that is draining. -/
private theorem Shows.returnClaim (shows : roster.Shows name .draining awaiting) :
    (roster.returnClaim name).2.Shows name .draining true := by
  obtain ⟨record, known, draining⟩ := Option.map_eq_some_iff.mp shows.1
  simp [Shows, known, draining]

/-- A report that no player is left on a draining proxy requests its stop. The proxy is down
if the request is delivered, and drains on if it fails. -/
theorem handle_of_vacant (shows : roster.Shows name .draining true)
    (about : handling.IsAbout name) (vacant : handling.report.occupancy = 0) :
    (handling.delivered → (roster.handle handling).1 = ⟨.stopped, [name]⟩ ∧
      (roster.handle handling).2.Shows name .down false) ∧
    (¬ handling.delivered → (roster.handle handling).1 = ⟨.stopFailed, [name]⟩ ∧
      (roster.handle handling).2.Shows name .draining true) := by
  have seen := shows.seenBy about
  have sighted : (roster.seenBy handling).sight handling.report = .vacant := by
    simp [sight, about.service, seen.2, vacant]
  rw [handle, sighted]
  obtain ⟨stands, awaits⟩ := seen.applyAll about.beforeClaim
  have claimed : (((roster.seenBy handling).applyAll handling.beforeClaim).unawait name).Shows name
      .draining false := ⟨stands, by simp⟩
  have waiting := claimed.applyAll about.beforeAnswer
  simp only [stopVacant, claimStop, takeClaim, about.service, awaits, settle]
  constructor
  · intro delivered
    simp only [delivered, if_true]
    exact ⟨trivial, waiting.noteStopped⟩
  · intro failed
    simp only [failed]
    exact ⟨rfl, waiting.returnClaim⟩

end

/-! ## The whole drain -/

section

variable {roster : Roster} {name : String} {handlings : List Handling} {handling : Handling}

/-- The drain of a proxy goes on, or it is over. -/
def DrainIs (roster : Roster) (name : String) (ended : Bool) : Prop :=
  if ended then roster.Shows name .down false else roster.Shows name .draining true

/-- A report finishes the drain, or leaves it as it is. -/
theorem DrainIs.handle {ended : Bool} (drain : roster.DrainIs name ended)
    (about : handling.IsAbout name) :
    (roster.handle handling).2.DrainIs name (ended || handling.finishes) := by
  cases ended with
  | true => exact (handle_of_not_awaiting drain about).2
  | false =>
    by_cases vacant : handling.report.occupancy = 0
    case neg =>
      have goesOn := (handle_of_occupied drain about vacant).2
      simpa [DrainIs, Handling.finishes, vacant] using goesOn
    obtain ⟨stopped, failed⟩ := handle_of_vacant drain about vacant
    cases delivered : handling.delivered with
    | true =>
      have finished := (stopped delivered).2
      simpa [DrainIs, Handling.finishes, vacant, delivered] using finished
    | false =>
      have goesOn := (failed (by simp [delivered])).2
      simpa [DrainIs, Handling.finishes, delivered] using goesOn

/-- Reports finish the drain when one of them does. -/
theorem DrainIs.handleAll {ended : Bool} (drain : roster.DrainIs name ended)
    (about : ∀ handling ∈ handlings, handling.IsAbout name) :
    (roster.handleAll handlings).DrainIs name (ended || handlings.any Handling.finishes) := by
  induction handlings generalizing roster ended with
  | nil => simpa [Roster.handleAll] using drain
  | cons handling rest ih =>
    obtain ⟨first, others⟩ := List.forall_mem_cons.mp about
    have next := ih (drain.handle first) others
    rwa [List.any_cons, ← Bool.or_assoc]

/-- The stop of a proxy is vetoed, and reports on the proxy follow, with nothing else about
it in between. As long as none of them has finished the drain, the proxy drains and awaits
its stop. A report that players are left then tells how many and requests nothing; a report
that none is left requests the stop once, and either the request fails and the drain goes
on, or it is delivered and the proxy is down and awaits nothing. Further reports come to
nothing and request nothing. When the stop is announced again, with no player left, it is
allowed whatever was changed in the meantime, and the proxy is down and awaits nothing. -/
theorem finished_by_reports {group : String} {transition : Transition}
    (vetoed : (roster.judge group transition).1 = .veto)
    (about : ∀ handling ∈ handlings, handling.IsAbout transition.service) :
    let name := transition.service
    let opened := (roster.judge group transition).2
    (∀ earlier handling later, handlings = earlier ++ handling :: later →
      let seen := opened.handleAll earlier
      let upshot := (seen.handle handling).1
      let left := (seen.handle handling).2
      (¬ earlier.any Handling.finishes →
        seen.Shows name .draining true ∧
        (handling.report.occupancy ≠ 0 →
          upshot = ⟨.occupied handling.report.occupancy, []⟩ ∧ left.Shows name .draining true) ∧
        (handling.report.occupancy = 0 → ¬ handling.delivered →
          upshot = ⟨.stopFailed, [name]⟩ ∧ left.Shows name .draining true) ∧
        (handling.report.occupancy = 0 → handling.delivered →
          upshot = ⟨.stopped, [name]⟩ ∧ left.Shows name .down false)) ∧
      (earlier.any Handling.finishes →
        seen.Shows name .down false ∧ upshot = ⟨.notDraining, []⟩ ∧
          left.Shows name .down false)) ∧
    ∀ changes again, again.service = name → again.inGroup group → again.isStop →
      again.occupancy = 0 →
      let judged := ((opened.handleAll handlings).applyAll changes).judge group again
      judged.1 = .allow ∧ judged.2.Shows name .down false := by
  intro name opened
  constructor
  · intro earlier handling later split
    subst split
    have before : ∀ handling ∈ earlier, handling.IsAbout name :=
      fun handling taken => about handling (List.mem_append_left _ taken)
    have own : handling.IsAbout name :=
      about handling (List.mem_append_right _ List.mem_cons_self)
    have drain : opened.DrainIs name false := shows_of_vetoed vetoed
    have reached := drain.handleAll before
    constructor
    · intro unfinished
      rw [Bool.not_eq_true _ |>.mp unfinished] at reached
      have vacant := handle_of_vacant reached own
      exact ⟨reached, handle_of_occupied reached own, fun none => (vacant none).2,
        fun none => (vacant none).1⟩
    · intro finished
      rw [finished] at reached
      exact ⟨reached, handle_of_not_awaiting reached own⟩
  · intro changes again same inGroup isStop vacant
    have allowed := judge_vacant_stop ((opened.handleAll handlings).applyAll changes) inGroup
      isStop vacant
    rwa [same] at allowed

end

/-- The lobby is about to stop with three players on it. -/
def lobbyStop : Transition :=
  ⟨"lobby-1", ["Proxy"], .running, .stopped, 3⟩

/-- A player leaves the lobby while it drains, then all have left. A request for its stop fails
while another lobby opens a drain, and the next is delivered. -/
def lobbyReports : List Handling :=
  [.alone ⟨"lobby-1", 2, some 50⟩ true,
    ⟨⟨"lobby-1", 0, none⟩, false, [], [], [], [.openDrain "lobby-2"]⟩,
    .alone ⟨"lobby-1", 0, none⟩ true]

theorem finished_by_reports_at_lobby :
    ((empty 10).judge "Proxy" lobbyStop).1 = .veto ∧
      (∀ handling ∈ lobbyReports, handling.IsAbout lobbyStop.service) ∧
      ((((empty 10).judge "Proxy" lobbyStop).2.handleAll (lobbyReports.take 2)).handle
        (.alone ⟨"lobby-1", 0, none⟩ true)).1 = ⟨.stopped, [lobbyStop.service]⟩ ∧
      ((((empty 10).judge "Proxy" lobbyStop).2.handleAll lobbyReports).judge "Proxy"
        { lobbyStop with occupancy := 0 }).1 = .allow := by
  have vetoed : ((empty 10).judge "Proxy" lobbyStop).1 = .veto := by decide
  have about : ∀ handling ∈ lobbyReports, handling.IsAbout lobbyStop.service := by decide
  obtain ⟨reported, announced⟩ := finished_by_reports vetoed about
  obtain ⟨draining, -⟩ := reported (lobbyReports.take 2) (.alone ⟨"lobby-1", 0, none⟩ true) [] rfl
  obtain ⟨-, -, -, delivered⟩ := draining (by decide)
  obtain ⟨allowed, -⟩ := announced [] { lobbyStop with occupancy := 0 } rfl rfl rfl rfl
  exact ⟨vetoed, about, (delivered rfl rfl).1, allowed⟩

end Roster

end Quiesce
