/-
# Proxies do not interfere

Two scenes agree on a proxy when their rosters do and the same events about it are under
way. An act that names the proxy comes to the same in scenes that agree on it, and they
agree afterwards; an act that names another leaves a scene in agreement with itself.
`isolated` follows by induction on the acts: when the acts that name other proxies are
left out of a play, the acts that name the proxy still come to the same, the same stops
of it are requested, and it is left with the same record and the same waiting.
-/

import Quiesce.Proofs.Interleaving.Acts
import Quiesce.Proofs.Interleaving.Run
import Quiesce.Proofs.Roster.Agreement

namespace Quiesce.Interleaving

namespace Scene

/-- The rosters of two scenes agree on a proxy, and the same events about it are under way. -/
structure AgreeOn (name : String) (first second : Scene) : Prop where
  roster : Roster.AgreeOn name first.roster second.roster
  tasks : first.tasks.filter (·.name = name) = second.tasks.filter (·.name = name)

/-- Two results have the same effect, and scenes that agree on a proxy. -/
def SameOn (name : String) (first second : Effect × Scene) : Prop :=
  first.1 = second.1 ∧ AgreeOn name first.2 second.2

variable {name group : String} {first second scene next : Scene} {effect : Effect} {move : Move}

namespace AgreeOn

theorem refl (scene : Scene) : AgreeOn name scene scene := ⟨.refl scene.roster, rfl⟩

theorem symm (agree : AgreeOn name first second) : AgreeOn name second first :=
  ⟨agree.roster.symm, agree.tasks.symm⟩

theorem trans {third : Scene} (earlier : AgreeOn name first second)
    (later : AgreeOn name second third) : AgreeOn name first third :=
  ⟨earlier.roster.trans later.roster, earlier.tasks.trans later.tasks⟩

private theorem withRoster (agree : AgreeOn name first second) {roster other : Roster}
    (rosters : Roster.AgreeOn name roster other) :
    AgreeOn name (first.withRoster roster) (second.withRoster other) :=
  ⟨rosters, agree.tasks⟩

private theorem adding (agree : AgreeOn name first second) (task : Task) :
    AgreeOn name (first.adding task) (second.adding task) := by
  refine ⟨agree.roster, ?_⟩
  simp only [tasks_adding, List.filter_cons, agree.tasks]

private theorem erasing (agree : AgreeOn name first second) (task : Task) :
    AgreeOn name { first with tasks := first.tasks.erase task }
      { second with tasks := second.tasks.erase task } := by
  refine ⟨agree.roster, ?_⟩
  simp only [← List.erase_filter, agree.tasks]

private theorem mem_tasks (agree : AgreeOn name first second) {task : Task}
    (own : task.name = name) (underWay : task ∈ first.tasks) : task ∈ second.tasks := by
  have among : task ∈ first.tasks.filter (·.name = name) :=
    List.mem_filter.mpr ⟨underWay, decide_eq_true own⟩
  rw [agree.tasks] at among
  exact (List.mem_filter.mp among).1

/-! ## Acts that name the proxy -/

private theorem beginJudgement (agree : AgreeOn name first second) (group : String)
    {transition : Transition} (own : transition.service = name) :
    SameOn name (first.beginJudgement group transition)
      (second.beginJudgement group transition) := by
  subst own
  unfold Scene.beginJudgement
  split
  case isTrue =>
    obtain ⟨concluded, firstNext, secondNext, firstIs, secondIs, after⟩ :=
      agree.roster.exists_concludeDrain
    rw [firstIs, secondIs]
    cases concluded with
    | true => exact ⟨rfl, agree.withRoster after⟩
    | false => exact ⟨rfl, (agree.withRoster after).adding _⟩
  case isFalse =>
    obtain ⟨sameVerdict, after⟩ := agree.roster.judge group transition rfl
    exact ⟨congrArg Effect.judged sameVerdict, agree.withRoster after⟩

private theorem beginReport (agree : AgreeOn name first second) {report : Report}
    (own : report.service = name) :
    SameOn name (first.beginReport report) (second.beginReport report) := by
  rw [Scene.beginReport, Scene.beginReport, agree.roster.sight own]
  cases second.roster.sight report with
  | settled progress => exact ⟨rfl, agree⟩
  | vacant => exact ⟨rfl, agree.adding _⟩

private theorem proceed (agree : AgreeOn name first second) (delivered : Bool) {task : Task}
    (own : task.name = name) :
    SameOn name (first.proceed delivered task) (second.proceed delivered task) := by
  subst own
  cases task with
  | vetoing name =>
    exact ⟨rfl, agree.withRoster (agree.roster.apply (.openDrain name) rfl)⟩
  | claiming service =>
    obtain ⟨attempt, firstNext, secondNext, firstIs, secondIs, after⟩ :=
      Roster.AgreeOn.exists_answer agree.roster.claimStop.1 agree.roster.claimStop.2
    simp only [Task.name] at firstIs secondIs after
    simp only [Scene.proceed, firstIs, secondIs]
    cases attempt with
    | settled progress => exact ⟨rfl, agree.withRoster after⟩
    | requesting service => exact ⟨rfl, (agree.withRoster after).adding _⟩
  | requesting service =>
    obtain ⟨same, after⟩ := agree.roster.settle delivered
    exact ⟨congrArg Effect.progressed same, agree.withRoster after⟩

/-- A move that names the proxy can be made in both scenes or in neither, and comes to the
same. -/
private theorem step? (agree : AgreeOn name first second) (own : move.name = name)
    (step : first.step? group move = some (effect, next)) :
    ∃ other, second.step? group move = some (effect, other) ∧ AgreeOn name next other := by
  have exists_of_same {result : Effect × Scene} (same : SameOn name (effect, next) result)
      (made : second.step? group move = some result) :
      ∃ other, second.step? group move = some (effect, other) ∧ AgreeOn name next other := by
    obtain ⟨_, other⟩ := result
    obtain ⟨rfl, after⟩ := same
    exact ⟨other, made, after⟩
  cases move with
  | judge transition =>
    have same := agree.beginJudgement group own
    rw [Option.some.inj step] at same
    exact exists_of_same same rfl
  | noteCapacity report =>
    obtain ⟨rfl, rfl⟩ := Prod.mk.inj (Option.some.inj step)
    exact ⟨_, rfl, agree.withRoster (agree.roster.noteCapacity own)⟩
  | receive report =>
    have same := agree.beginReport own
    rw [Option.some.inj step] at same
    exact exists_of_same same rfl
  | forget other =>
    obtain ⟨rfl, rfl⟩ := Prod.mk.inj (Option.some.inj step)
    exact ⟨_, rfl, agree.withRoster (agree.roster.apply (.forget other) own)⟩
  | override other standing capacity =>
    obtain rfl := own
    obtain ⟨rfl, rfl⟩ := Prod.mk.inj (Option.some.inj step)
    exact ⟨_, rfl, agree.withRoster (agree.roster.override standing capacity)⟩
  | proceed task delivered =>
    obtain ⟨underWay, proceeded⟩ := Option.ite_none_right_eq_some.mp step
    have same := (agree.erasing task).proceed delivered own
    rw [Option.some.inj proceeded] at same
    exact exists_of_same same (if_pos (agree.mem_tasks own underWay))

end AgreeOn

/-! ## Acts that name another -/

private theorem filter_adding (scene : Scene) {task : Task} (other : task.name ≠ name) :
    (scene.adding task).tasks.filter (·.name = name) = scene.tasks.filter (·.name = name) :=
  List.filter_cons_of_neg (by rwa [decide_eq_true_eq])

private theorem filter_proceed (scene : Scene) (delivered : Bool) {task : Task}
    (other : task.name ≠ name) :
    (scene.proceed delivered task).2.tasks.filter (·.name = name) =
      scene.tasks.filter (·.name = name) := by
  cases task with
  | vetoing | requesting => rfl
  | claiming service =>
    simp only [Scene.proceed, Roster.claimStop, Roster.takeClaim]
    cases scene.roster.awaitsStop service with
    | false => rfl
    | true => exact filter_adding _ other

/-- A step leaves the same events about other proxies under way. -/
private theorem tasks_of_step?_of_ne (step : scene.step? group move = some (effect, next))
    (other : move.name ≠ name) :
    next.tasks.filter (·.name = name) = scene.tasks.filter (·.name = name) := by
  cases move with
  | noteCapacity | forget | override =>
    obtain ⟨rfl, rfl⟩ := Prod.mk.inj (Option.some.inj step)
    rfl
  | judge transition =>
    have left : (scene.beginJudgement group transition).2 = next :=
      congrArg Prod.snd (Option.some.inj step)
    rw [← left, beginJudgement]
    split
    · split
      · rfl
      · exact filter_adding _ other
    · rfl
  | receive report =>
    have left : (scene.beginReport report).2 = next := congrArg Prod.snd (Option.some.inj step)
    rw [← left, beginReport]
    split
    · rfl
    · exact filter_adding _ other
  | proceed task delivered =>
    obtain ⟨-, proceeded⟩ := Option.ite_none_right_eq_some.mp step
    have notErased : task ∉ scene.tasks.filter (·.name = name) := fun among =>
      other (of_decide_eq_true (List.mem_filter.mp among).2)
    have left : ({ scene with tasks := scene.tasks.erase task }.proceed delivered task).2 = next :=
      congrArg Prod.snd (Option.some.inj proceeded)
    rw [← left, filter_proceed _ delivered other, ← List.erase_filter,
      List.erase_of_not_mem notErased]

/-- A step leaves the scene in agreement with itself on other proxies. -/
private theorem agreeOn_of_step?_of_ne (step : scene.step? group move = some (effect, next))
    (other : move.name ≠ name) : AgreeOn name next scene := by
  obtain ⟨sameDefault, follows⟩ := follows_of_step? step
  have unmoved : next.situation name = scene.situation name := by
    rw [(follows name).2, Move.deedOn_of_name_ne other]
    rfl
  exact ⟨⟨sameDefault, congrArg Situation.record unmoved, congrArg Situation.awaiting unmoved⟩,
    tasks_of_step?_of_ne step other⟩

end Scene

/-! ## Plays -/

namespace Act

/-- The proxy that an act names, if it names one. -/
def proxy? : Act → Option String
  | .move made => some made.name
  | .call operation => operation.proxy?

/-- Whether an act is a step of an event or a direct operation on the roster. -/
def isOnRoster : Act → Bool
  | .move _ => true
  | .call operation => operation.isDirect

/-- Whether an act names a proxy. -/
def names (name : String) (act : Act) : Bool :=
  act.proxy? = some name

/-- Whether an act names another proxy. -/
def namesOther (name : String) (act : Act) : Bool :=
  act.proxy?.any (· ≠ name)

/-- An act that names another proxy does not name the proxy. -/
private theorem names_eq_false {name : String} {act : Act} (foreign : act.namesOther name) :
    act.names name = false := by
  refine decide_eq_false fun named => ?_
  simp [namesOther, named] at foreign

private theorem proxy?_eq_none {name : String} {act : Act}
    (noOther : act.namesOther name = false) (unnamed : act.names name = false) :
    act.proxy? = none := by
  cases named : act.proxy? with
  | none => rfl
  | some proxy => simp_all [names, namesOther]

end Act

/-- Whether a stop of a proxy was requested. -/
def Occurrence.requestsStop (name : String) (occurrence : Occurrence) : Bool :=
  occurrence.outcome = .effect (.requested name)

namespace Scene

variable {name group : String} {first second scene next : Scene} {act : Act} {outcome : Outcome}

/-- An act that names the proxy comes to the same in scenes that agree on it. -/
private theorem AgreeOn.act? (agree : AgreeOn name first second) (admitted : act.isOnRoster)
    (own : act.names name) (done : first.act? group act = some (outcome, next)) :
    ∃ other, second.act? group act = some (outcome, other) ∧ AgreeOn name next other := by
  have own : act.proxy? = some name := of_decide_eq_true own
  cases act with
  | move move =>
    obtain ⟨effect, step, rfl⟩ := act?_move_eq_some done
    obtain ⟨other, made, after⟩ := agree.step? (Option.some.inj own) step
    exact ⟨other, by rw [Scene.act?, made]; rfl, after⟩
  | call operation =>
    obtain ⟨answer, agent, begun, rfl, rfl⟩ := act?_call_eq_some done
    have rosters : Roster.AgreeOn name (first.agent group).roster (second.agent group).roster :=
      agree.roster
    obtain ⟨other, same, after⟩ := Agent.agreeOn_begin rosters admitted own begun
    exact ⟨second.withRoster other.roster, by rw [Scene.act?, same], agree.withRoster after⟩

/-- An act that does not name a proxy leaves the scene in agreement with itself on it. -/
private theorem agreeOn_of_act? (admitted : act.isOnRoster) (other : act.names name = false)
    (done : scene.act? group act = some (outcome, next)) : AgreeOn name next scene := by
  have other : act.proxy? ≠ some name := of_decide_eq_false other
  cases act with
  | move move =>
    obtain ⟨effect, step, rfl⟩ := act?_move_eq_some done
    exact agreeOn_of_step?_of_ne step fun same => other (congrArg some same)
  | call operation =>
    obtain ⟨answer, agent, begun, rfl, rfl⟩ := act?_call_eq_some done
    exact ⟨Agent.agreeOn_begin_of_ne admitted other begun, rfl⟩

/-- An act that names no proxy can be done in every scene. -/
private theorem exists_act?_of_nameless (scene : Scene) (group : String)
    (admitted : act.isOnRoster) (nameless : act.proxy? = none) :
    ∃ outcome next, scene.act? group act = some (outcome, next) := by
  cases act with
  | move move => cases nameless
  | call operation =>
    obtain ⟨answer, agent, begun, -⟩ := (scene.agent group).begin_of_isDirect admitted
    exact ⟨_, _, by rw [Scene.act?, begun]⟩

/-- Only the claim of a proxy's stop requests it. -/
private theorem name_of_requested {move : Move}
    (step : scene.step? group move = some (.requested name, next)) : move.name = name := by
  cases move with
  | noteCapacity | forget | override => cases step
  | judge transition =>
    have effect := congrArg Prod.fst (Option.some.inj step)
    simp only [beginJudgement] at effect
    repeat' split at effect
    all_goals cases effect
  | receive report =>
    have effect := congrArg Prod.fst (Option.some.inj step)
    simp only [beginReport] at effect
    split at effect <;> cases effect
  | proceed task delivered =>
    obtain ⟨-, proceeded⟩ := Option.ite_none_right_eq_some.mp step
    have effect := congrArg Prod.fst (Option.some.inj proceeded)
    cases task with
    | vetoing | requesting => cases effect
    | claiming service =>
      simp only [Scene.proceed, Roster.claimStop, Roster.takeClaim] at effect
      cases awaiting : scene.roster.awaitsStop service with
      | false => simp [awaiting] at effect
      | true => simpa [awaiting] using effect

/-- Only an act that names a proxy requests its stop. -/
private theorem names_of_requestsStop (done : scene.act? group act = some (outcome, next))
    (requests : (Occurrence.mk act outcome).requestsStop name) : act.names name := by
  have requested : outcome = .effect (.requested name) := of_decide_eq_true requests
  cases act with
  | move move =>
    obtain ⟨effect, step, rfl⟩ := act?_move_eq_some done
    obtain rfl := Outcome.effect.inj requested
    exact decide_eq_true (congrArg some (name_of_requested step))
  | call operation =>
    obtain ⟨answer, agent, -, rfl, -⟩ := act?_call_eq_some done
    cases requested

/-- An act that names no other proxy can be done in both scenes, and they agree afterwards; it
comes to the same if it names the proxy. -/
private theorem AgreeOn.exists_act? (agree : AgreeOn name first second)
    (admitted : act.isOnRoster) (noOther : act.namesOther name = false)
    (done : first.act? group act = some (outcome, next)) :
    ∃ answer other, second.act? group act = some (answer, other) ∧
      (act.names name → answer = outcome) ∧ AgreeOn name next other := by
  cases names : act.names name with
  | true =>
    obtain ⟨other, made, after⟩ := agree.act? admitted names done
    exact ⟨outcome, other, made, fun _ => rfl, after⟩
  | false =>
    -- The act may come to something else, as the size of the roster does.
    have nameless : act.proxy? = none := Act.proxy?_eq_none noOther names
    obtain ⟨answer, other, made⟩ := exists_act?_of_nameless second group admitted nameless
    have unmoved : AgreeOn name other second := agreeOn_of_act? admitted names made
    exact ⟨answer, other, made, nofun,
      ((agreeOn_of_act? admitted names done).trans agree).trans unmoved.symm⟩

/-- A play can be repeated, without the acts that name other proxies, in a scene that agrees on
the proxy: the acts that name it come to the same, and the scenes agree on it in the end. -/
private theorem AgreeOn.play? {final : Scene} {acts : List Act} {occurrences : List Occurrence}
    (agree : AgreeOn name scene second) (admitted : ∀ act ∈ acts, act.isOnRoster)
    (played : scene.play? group acts = some (occurrences, final)) :
    ∃ own alone, second.play? group (acts.filter (!·.namesOther name)) = some (own, alone) ∧
      own.filter (·.act.names name) = occurrences.filter (·.act.names name) ∧
      AgreeOn name final alone := by
  induction acts generalizing scene second occurrences with
  | nil =>
    obtain ⟨rfl, rfl⟩ := Prod.mk.inj (Option.some.inj played)
    exact ⟨[], second, rfl, rfl, agree⟩
  | cons act rest ih =>
    obtain ⟨first, admitted⟩ := List.forall_mem_cons.mp admitted
    obtain ⟨outcome, next, later, done, remaining, rfl⟩ := play?_cons_eq_some played
    cases foreign : act.namesOther name with
    | true =>
      have unnamed : act.names name = false := Act.names_eq_false foreign
      have agreeNext : AgreeOn name next second :=
        (agreeOn_of_act? first unnamed done).trans agree
      obtain ⟨own, alone, repeated, same, after⟩ := ih agreeNext admitted remaining
      refine ⟨own, alone, ?_, by simpa [unnamed] using same, after⟩
      rwa [List.filter_cons_of_neg (by simp [foreign])]
    | false =>
      obtain ⟨answer, other, made, sameOutcome, agreeNext⟩ := agree.exists_act? first foreign done
      obtain ⟨own, alone, repeated, same, after⟩ := ih agreeNext admitted remaining
      refine ⟨⟨act, answer⟩ :: own, alone, ?_, ?_, after⟩
      · rw [List.filter_cons_of_pos (by simp [foreign])]
        exact play?_cons made repeated
      · by_cases names : act.names name
        · rw [sameOutcome names]
          simp [names, same]
        · simp [names, same]

/-- In a play, the stops of a proxy that are requested are among the acts that name it. -/
private theorem requests_of_play? {final : Scene} {acts : List Act}
    {occurrences : List Occurrence}
    (played : scene.play? group acts = some (occurrences, final)) :
    occurrences.filter (·.requestsStop name) =
      (occurrences.filter (·.act.names name)).filter (·.requestsStop name) := by
  induction acts generalizing scene occurrences with
  | nil =>
    obtain ⟨rfl, rfl⟩ := Prod.mk.inj (Option.some.inj played)
    rfl
  | cons act rest ih =>
    obtain ⟨outcome, next, later, done, remaining, rfl⟩ := play?_cons_eq_some played
    have others := ih remaining
    cases requests : (Occurrence.mk act outcome).requestsStop name with
    | true =>
      have own := names_of_requestsStop done requests
      simp [requests, own, others]
    | false => cases own : act.names name <;> simp [requests, own, others]

end Scene

/-- Acts are played in any order. When those that name other proxies are left out, the play
can still be made: the acts that name the proxy come to the same, the same stops of it are
requested in the same order, and the proxy is left with the same record and the same waiting.
The answers to its own requests are given with the acts, so they are the same in both. -/
theorem isolated {group : String} {scene final : Scene} {acts : List Act}
    {occurrences : List Occurrence} (name : String) (admitted : ∀ act ∈ acts, act.isOnRoster)
    (played : scene.play? group acts = some (occurrences, final)) :
    ∃ own alone,
      scene.play? group (acts.filter (!·.namesOther name)) = some (own, alone) ∧
      own.filter (·.act.names name) = occurrences.filter (·.act.names name) ∧
      own.filter (·.requestsStop name) = occurrences.filter (·.requestsStop name) ∧
      alone.roster.find? name = final.roster.find? name ∧
      alone.roster.awaitsStop name = final.roster.awaitsStop name := by
  obtain ⟨own, alone, repeated, same, after⟩ :=
    (Scene.AgreeOn.refl scene).play? admitted played
  have sameRequests : own.filter (·.requestsStop name) =
      occurrences.filter (·.requestsStop name) := by
    rw [Scene.requests_of_play? repeated, same, ← Scene.requests_of_play? played]
  exact ⟨own, alone, repeated, same, sameRequests, after.roster.record.symm,
    after.roster.awaiting.symm⟩

namespace Lobby

/-- The lobby drains and is stopped, while another lobby is overridden, drained, claimed and
forgotten in between. -/
def crowded : List Act :=
  [.move (.judge (stopping 3)), .move (.override "lobby-2" .up (some 20)),
    .move (.proceed (.vetoing "lobby-1") false), .call .size, .call (.openDrain "lobby-2"),
    .move (.receive ⟨"lobby-2", 0, none⟩), .move (.receive vacant),
    .move (.proceed (.claiming "lobby-2") false), .move (.proceed (.claiming "lobby-1") false),
    .call (.takeClaim "lobby-1"), .move (.proceed (.requesting "lobby-2") false),
    .move (.proceed (.requesting "lobby-1") true), .move (.forget "lobby-2")]

private theorem crowded_possible :
    ((Scene.start 10).play? "Proxy" crowded).isSome := by
  decide +kernel

end Lobby

theorem isolated_at_crowded :
    ∃ occurrences final own alone,
      (∀ act ∈ Lobby.crowded, act.isOnRoster) ∧
      (Scene.start 10).play? "Proxy" Lobby.crowded = some (occurrences, final) ∧
      (Scene.start 10).play? "Proxy" (Lobby.crowded.filter (!·.namesOther "lobby-1")) =
        some (own, alone) ∧
      (own.filter (·.requestsStop "lobby-1")).length = 1 ∧
      alone.roster.find? "lobby-1" = some ⟨.down, 10⟩ := by
  have admitted : ∀ act ∈ Lobby.crowded, act.isOnRoster := by decide
  have played := (Option.some_get Lobby.crowded_possible).symm
  obtain ⟨own, alone, repeated, -, sameRequests, sameRecord, -⟩ :=
    isolated "lobby-1" admitted played
  refine ⟨_, _, own, alone, admitted, played, repeated, ?_, ?_⟩
  · rw [sameRequests]
    decide +kernel
  · rw [sameRecord]
    decide +kernel

end Quiesce.Interleaving
