/-
# The record of a proxy follows from its history

Whether a proxy has a record, and with what capacity, can be read off what was done to
it since its last deletion. It is known once the gate has answered a start or a stop of
it, or an operator has overridden it; nothing else makes it known. Its capacity is the
latest that a report or an override has given it since then, or the default.
`record_chronicle` says so for every play of events, overrides, deletions, polls and
requests that fetch, however they are interleaved.
-/

import Mathlib.Data.List.DropRight
import Quiesce.Proofs.Interleaving.Acts
import Quiesce.Proofs.Interleaving.Run

namespace Quiesce.Interleaving

namespace Deed

/-- Whether a deed makes its proxy known: an answer of the gate to a start or a stop, or an
override. -/
def enrols : Deed → Bool
  | .start | .stop | .conclude | .veto | .override _ _ => true
  | _ => false

/-- The capacity that a deed gives to a known proxy. -/
def capacity? : Deed → Option UInt32
  | .resize capacity => some capacity
  | .override _ capacity => capacity
  | _ => none

/-- The deeds since the last deletion, given all of them, earliest first. -/
def sinceDeletion (deeds : List Deed) : List Deed :=
  deeds.rtakeWhile (· ≠ .forget)

/-- The latest capacity given by deeds from the first on that makes the proxy known. -/
def latestCapacity? (deeds : List Deed) : Option UInt32 :=
  ((deeds.dropWhile (!·.enrols)).filterMap capacity?).getLast?

/-- The capacity of a known proxy, by the deeds since the last deletion. -/
def chronicle (defaultCapacity : UInt32) (since : List Deed) : Option UInt32 :=
  if since.any enrols then some ((latestCapacity? since).getD defaultCapacity) else none

/-- A deed that is no deletion comes last of the deeds since the last one. -/
private theorem sinceDeletion_concat {deed : Deed} (deeds : List Deed) (kept : deed ≠ .forget) :
    sinceDeletion (deeds ++ [deed]) = sinceDeletion deeds ++ [deed] :=
  List.rtakeWhile_concat_pos _ _ _ (by simpa using kept)

private theorem sinceDeletion_concat_forget (deeds : List Deed) :
    sinceDeletion (deeds ++ [.forget]) = [] :=
  List.rtakeWhile_concat_neg _ _ _ (by simp)

/-- Deeds before the first that makes the proxy known give no capacity. -/
private theorem latestCapacity?_of_unknown {deeds : List Deed}
    (unknown : deeds.any enrols = false) : latestCapacity? deeds = none := by
  have none_left : deeds.dropWhile (!·.enrols) = [] := by
    simpa [List.dropWhile_eq_nil_iff] using unknown
  rw [latestCapacity?, none_left]
  rfl

/-- Of a proxy that is known afterwards, the last deed gives the capacity if it gives any. -/
private theorem latestCapacity?_concat {deeds : List Deed} {deed : Deed}
    (known : (deeds.any enrols || deed.enrols) = true) :
    latestCapacity? (deeds ++ [deed]) = deed.capacity?.or (latestCapacity? deeds) := by
  cases before : deeds.any enrols with
  | false =>
    have first : deed.enrols = true := by simpa [before] using known
    have none_before : ∀ earlier ∈ deeds, (!earlier.enrols) = true := by simpa using before
    rw [latestCapacity?_of_unknown before, latestCapacity?,
      List.dropWhile_append_of_pos none_before]
    cases given : deed.capacity? <;> simp [first, given]
  | true =>
    have started : deeds.dropWhile (!·.enrols) ≠ [] := by
      simpa [List.dropWhile_eq_nil_iff] using before
    rw [latestCapacity?, List.dropWhile_append, if_neg (by simpa using started),
      List.filterMap_append, List.getLast?_append, ← latestCapacity?]
    cases given : deed.capacity? <;> simp [given]

/-- What a deed other than a deletion does to the capacity of a proxy: a proxy that was known or
is made known has the capacity that the deed gives, or else the one it had, or the default. -/
private theorem capacity_outcome (defaultCapacity : UInt32) {situation : Situation} {deed : Deed}
    (kept : deed ≠ .forget) (possible : deed.Possible situation) :
    (deed.outcome defaultCapacity situation).record.map (·.capacity) =
      if situation.record.isSome || deed.enrols then
        some (deed.capacity?.getD ((situation.record.map (·.capacity)).getD defaultCapacity))
      else none := by
  cases known : situation.record with
  | none =>
    cases deed with
    | forget => exact absurd rfl kept
    | conclude => simp [Situation.standing?, known] at possible
    | _ => simp [Situation.assigned, known, enrols, capacity?]
  | some record =>
    cases deed with
    | forget => exact absurd rfl kept
    | _ => simp [Situation.assigned, known, enrols, capacity?]

/-- A deed takes the capacity of a proxy to what the history with the deed says of it. -/
theorem chronicle_outcome {defaultCapacity : UInt32} {deeds : List Deed} {situation : Situation}
    {deed : Deed} (possible : deed.Possible situation)
    (earlier : situation.record.map (·.capacity) =
      chronicle defaultCapacity (sinceDeletion deeds)) :
    (deed.outcome defaultCapacity situation).record.map (·.capacity) =
      chronicle defaultCapacity (sinceDeletion (deeds ++ [deed])) := by
  by_cases deletion : deed = .forget
  · rw [deletion, sinceDeletion_concat_forget]
    rfl
  have known : situation.record.isSome = (sinceDeletion deeds).any enrols := by
    rw [← Option.isSome_map, earlier, chronicle]
    cases (sinceDeletion deeds).any enrols <;> rfl
  have sofar : (situation.record.map (·.capacity)).getD defaultCapacity =
      (latestCapacity? (sinceDeletion deeds)).getD defaultCapacity := by
    rw [earlier, chronicle]
    cases before : (sinceDeletion deeds).any enrols with
    | true => rfl
    | false => rw [latestCapacity?_of_unknown before]; rfl
  have after : chronicle defaultCapacity (sinceDeletion (deeds ++ [deed])) =
      if (sinceDeletion deeds).any enrols || deed.enrols then
        some ((latestCapacity? (sinceDeletion deeds ++ [deed])).getD defaultCapacity)
      else none := by
    simp [sinceDeletion_concat deeds deletion, chronicle]
  rw [capacity_outcome defaultCapacity deletion possible, known, sofar, after]
  split
  next alive =>
    rw [latestCapacity?_concat alive]
    cases deed.capacity? <;> rfl
  · rfl

end Deed

variable {group : String} {scene next final : Scene} {defaultCapacity : UInt32}

/-- Whether an act is a step of an event, an override, a deletion or a look. -/
def Act.isMoveOrLook : Act → Bool
  | .move _ => true
  | .call operation => operation.isLook

/-- An act leaves the default capacity, and does its deed, which was possible, to a proxy. -/
private theorem follows_of_act? {act : Act} {outcome : Outcome} (admitted : act.isMoveOrLook)
    (done : scene.act? group act = some (outcome, next)) (name : String) :
    next.roster.defaultCapacity = scene.roster.defaultCapacity ∧
      ((Occurrence.mk act outcome).deedOn group name).Possible (scene.situation name) ∧
      next.situation name = ((Occurrence.mk act outcome).deedOn group name).outcome
        scene.roster.defaultCapacity (scene.situation name) := by
  cases act with
  | move move =>
    obtain ⟨effect, step, rfl⟩ := Scene.act?_move_eq_some done
    obtain ⟨sameDefault, follows⟩ := Scene.follows_of_step? step
    exact ⟨sameDefault, follows name⟩
  | call operation =>
    obtain ⟨answer, looked⟩ := scene.act?_of_isLook group admitted
    obtain ⟨rfl, rfl⟩ := Prod.mk.inj (Option.some.inj (looked.symm.trans done))
    exact ⟨rfl, trivial, rfl⟩

/-- What the history says of the capacity of a proxy, it says after any further play. -/
private theorem chronicle_of_play? (name : String) {acts : List Act}
    {occurrences : List Occurrence} (admitted : ∀ act ∈ acts, act.isMoveOrLook)
    (sameDefault : scene.roster.defaultCapacity = defaultCapacity) {deeds : List Deed}
    (sofar : (scene.situation name).record.map (·.capacity) =
      Deed.chronicle defaultCapacity (Deed.sinceDeletion deeds))
    (played : scene.play? group acts = some (occurrences, final)) :
    (final.situation name).record.map (·.capacity) = Deed.chronicle defaultCapacity
      (Deed.sinceDeletion (deeds ++ occurrences.map (·.deedOn group name))) := by
  induction acts generalizing scene occurrences deeds with
  | nil =>
    obtain ⟨rfl, rfl⟩ := Prod.mk.inj (Option.some.inj played)
    simpa using sofar
  | cons act rest ih =>
    obtain ⟨first, admitted⟩ := List.forall_mem_cons.mp admitted
    obtain ⟨outcome, next, later, done, remaining, rfl⟩ := Scene.play?_cons_eq_some played
    obtain ⟨kept, possible, after⟩ := follows_of_act? first done name
    have extended := Deed.chronicle_outcome possible sofar
    rw [← sameDefault, ← after, sameDefault] at extended
    have told := ih admitted (kept.trans sameDefault) extended remaining
    rwa [List.append_assoc] at told

/-- Events, overrides, deletions and looks are played from the empty roster, in any order and
with any steps in between. A proxy is known exactly when, since its last deletion, the gate has
answered its start or its stop or an operator has overridden it. Its capacity is then the
latest that a report or an override gave it since the first of these, or the default. -/
theorem record_chronicle {acts : List Act} {occurrences : List Occurrence}
    (admitted : ∀ act ∈ acts, act.isMoveOrLook)
    (played : (Scene.start defaultCapacity).play? group acts = some (occurrences, final))
    (name : String) :
    let since := Deed.sinceDeletion (occurrences.map (·.deedOn group name))
    ((final.roster.find? name).isSome ↔ ∃ deed ∈ since, deed.enrols) ∧
      ∀ record, final.roster.find? name = some record →
        record.capacity = (Deed.latestCapacity? since).getD defaultCapacity := by
  intro since
  have told : (final.roster.find? name).map (·.capacity) =
      Deed.chronicle defaultCapacity since := by
    have started : ((Scene.start defaultCapacity).situation name).record.map (·.capacity) =
        Deed.chronicle defaultCapacity (Deed.sinceDeletion []) := by
      rw [Scene.situation_start]
      rfl
    exact chronicle_of_play? name admitted rfl started played
  rw [Deed.chronicle] at told
  constructor
  · rw [← Option.isSome_map, told, ← List.any_eq_true]
    cases since.any Deed.enrols <;> simp
  · intro record known
    rw [known] at told
    cases enrolled : since.any Deed.enrols with
    | false => simp [enrolled] at told
    | true => simpa [enrolled] using told

namespace Lobby

/-- The lobby drains, is given a capacity, and is polled and fetched while a request for its
stop is in flight. -/
def watched : List Act :=
  (veto ++ .noteCapacity ⟨"lobby-1", 0, some 50⟩ :: claim).map .move ++
    [.call (.poll (some (Utf8.encode "lobby-1"))),
      .call (.request ⟨"GET", "/proxies/lobby-1", none, []⟩)]

/-- Then it is deleted; a late report changes nothing, an operator overrides it, and the
request is delivered. -/
def recreated : List Act :=
  watched ++ [.move (.forget "lobby-1"), .move (.noteCapacity ⟨"lobby-1", 0, some 60⟩),
    .move (.override "lobby-1" .draining none), .move (.proceed (.requesting "lobby-1") true)]

private theorem recreated_possible :
    ((Scene.start 10).play? "Proxy" recreated).isSome := by
  decide +kernel

end Lobby

theorem record_chronicle_at_recreated :
    ∃ occurrences final,
      (∀ act ∈ Lobby.recreated, act.isMoveOrLook) ∧
      (Scene.start 10).play? "Proxy" Lobby.recreated = some (occurrences, final) ∧
      ∃ record, final.roster.find? "lobby-1" = some record ∧ record.capacity = 10 := by
  have admitted : ∀ act ∈ Lobby.recreated, act.isMoveOrLook := by decide
  have played := (Option.some_get Lobby.recreated_possible).symm
  obtain ⟨known, capacity⟩ := record_chronicle admitted played "lobby-1"
  obtain ⟨record, found⟩ := Option.isSome_iff_exists.mp (known.mpr (by decide +kernel))
  have none_given := capacity record found
  exact ⟨_, _, admitted, played, record, found, none_given.trans (by decide +kernel)⟩

end Quiesce.Interleaving
