/-
# An operator's override

An operator sets the standing of a proxy by a word, and its capacity along with it or not. The
word counts letter by letter but for ASCII case; one that names no standing is told back and
changes nothing. `override_end_to_end` follows an override from the bytes of the request to what
is fetched afterwards.
-/

import Quiesce.Proofs.Api.Views
import Quiesce.Proofs.Json.Events

namespace Quiesce

open Http (Request Response Route)
open Json (Draft)

/-! ## Words for standings -/

namespace Standing

/-- The words for standings, in small letters. -/
def words : List (String × Standing) :=
  [("up", .up), ("drain", .draining), ("draining", .draining), ("down", .down)]

/-- A text spells a word of small ASCII letters when each of its characters is the letter in that
place, or the capital of it. -/
def Spells (text word : String) : Prop :=
  List.Forall₂ (fun c letter => c = letter ∨ c.toNat + 32 = letter.toNat) text.toList word.toList

/-- A text denotes a standing when it spells a word for it. -/
def Denotes (text : String) (standing : Standing) : Prop :=
  ∃ word, (word, standing) ∈ words ∧ Spells text word

/-- The capital of a small letter comes 32 before it, and no other character has one. -/
private theorem toNat_toUpper (c : Char) : c.toUpper.toNat =
    if 97 ≤ c.toNat ∧ c.toNat ≤ 122 then c.toNat - 32 else c.toNat := by
  have small : 'a'.val ≤ c.val ∧ c.val ≤ 'z'.val ↔ 97 ≤ c.toNat ∧ c.toNat ≤ 122 := Iff.rfl
  unfold Char.toUpper
  split
  next isSmall =>
    have bounds := small.mp isSmall
    have value : (c.val + ('A'.val - 'a'.val)).toNat = (c.toNat + 4294967264) % 4294967296 :=
      UInt32.toNat_add c.val ('A'.val - 'a'.val)
    rw [if_pos bounds]
    exact value.trans (by omega)
  next other => rw [if_neg (mt small.mpr other)]

/-- A character has the capital of a small letter when it is that letter or its capital. -/
private theorem toUpper_eq_iff {c letter : Char} (small : letter.isLower) :
    c.toUpper = letter.toUpper ↔ c = letter ∨ c.toNat + 32 = letter.toNat := by
  obtain ⟨least, most⟩ := Bool.and_eq_true_iff.mp small
  have bounds : 97 ≤ letter.toNat ∧ letter.toNat ≤ 122 :=
    ⟨of_decide_eq_true least, of_decide_eq_true most⟩
  rw [← Char.toNat_inj, ← Char.toNat_inj, toNat_toUpper, toNat_toUpper letter, if_pos bounds]
  split <;> omega

/-- The capitals of a text are those of a word when it spells the word. -/
private theorem map_toUpper_eq_iff {text word : String} (small : word.toList.all Char.isLower) :
    text.map Char.toUpper = word.map Char.toUpper ↔ Spells text word := by
  rw [← String.toList_inj, String.toList_map, String.toList_map, Spells]
  generalize text.toList = chars
  generalize word.toList = letters at small
  induction letters generalizing chars with
  | nil => simp
  | cons letter letters ih =>
    obtain ⟨isSmall, small⟩ := Bool.and_eq_true_iff.mp small
    cases chars with
    | nil => simp
    | cons c chars => simp [toUpper_eq_iff isSmall, ih chars small]

/-- What is read of a text is the standing that it denotes. -/
theorem ofWord?_eq_some_iff {text : String} {standing : Standing} :
    ofWord? text = some standing ↔ Denotes text standing := by
  have small : ∀ entry ∈ words, entry.1.toList.all Char.isLower := by decide
  constructor
  · intro found
    -- The capitals that the text is compared with are those of a word.
    obtain ⟨word, listed, same⟩ : ∃ word, (word, standing) ∈ words ∧
        text.map Char.toUpper = word.map Char.toUpper := by
      rw [ofWord?] at found
      split at found <;> cases found
      next same => exact ⟨"up", by decide, same.trans (by decide +kernel)⟩
      next same => exact ⟨"drain", by decide, same.trans (by decide +kernel)⟩
      next same => exact ⟨"draining", by decide, same.trans (by decide +kernel)⟩
      next same => exact ⟨"down", by decide, same.trans (by decide +kernel)⟩
    exact ⟨word, listed, (map_toUpper_eq_iff (small _ listed)).mp same⟩
  · rintro ⟨word, listed, spelt⟩
    have known : ∀ entry ∈ words, ofWord? entry.1 = some entry.2 := by decide +kernel
    rw [ofWord?, (map_toUpper_eq_iff (small _ listed)).mpr spelt]
    exact known _ listed

/-- A text that denotes no standing is not read as one. -/
theorem ofWord?_eq_none_iff {text : String} :
    ofWord? text = none ↔ ¬ ∃ standing, Denotes text standing := by
  simp only [← ofWord?_eq_some_iff, Option.eq_none_iff_forall_ne_some, not_exists, ne_eq]

end Standing

/-! ## Bodies of overrides -/

namespace Override

/-- The JSON forms of an override. One without a capacity has no such member, or a null one. -/
def forms (override : Override) : List Json :=
  match override.capacity with
  | some capacity =>
    [.object [("state", .string override.word), ("max_players", .nat capacity.toNat)]]
  | none =>
    [.object [("state", .string override.word)],
      .object [("state", .string override.word), ("max_players", .null)]]

theorem regular_of_mem_forms {override : Override} {form : Json} (isForm : form ∈ override.forms) :
    form.Regular := by
  obtain ⟨word, capacity⟩ := override
  have pair {value : Json} (regular : value.Regular) :
      (Json.object [("state", .string word), ("max_players", value)]).Regular := by
    refine .object ?_
    simp only [List.forall_mem_cons, List.not_mem_nil, false_implies, implies_true, and_true]
    exact ⟨.string word, regular⟩
  cases capacity with
  | some capacity =>
    obtain rfl := List.mem_singleton.mp isForm
    exact pair (.nat _)
  | none =>
    rcases List.mem_pair.mp isForm with rfl | rfl
    · refine .object ?_
      simp only [List.forall_mem_cons, List.not_mem_nil, false_implies, implies_true, and_true]
      exact .string word
    · exact pair .null

/-- A word and what is read of a capacity make an override. -/
private theorem ofDraft_pair (word : String) {value : Draft} {capacity : Option UInt32}
    (read : value.readOptionalWord32 = .ok capacity) :
    ofDraft .text (.ofNamed [("state", .string (some word)), ("max_players", value)]) =
      .ok ⟨word, capacity⟩ := by
  have first : Slots.take ⟨none, none⟩ "state" (.string (some word)) = .ok ⟨some word, none⟩ := rfl
  have second : Slots.take ⟨some word, none⟩ "max_players" value =
      .ok ⟨some word, some capacity⟩ := by
    rw [Slots.take, read]
    rfl
  simp only [ofDraft, Json.readMembers, Draft.ofNamed, Json.Medium.arrange, List.map_cons,
    List.foldlM_cons, first, second, Json.ok_bind]
  rfl

/-- An override is read back from each of its forms. -/
theorem ofDraft_of_mem_forms {override : Override} {form : Json} (isForm : form ∈ override.forms) :
    ofDraft .text (.ofJson form) = .ok override := by
  obtain ⟨word, capacity⟩ := override
  cases capacity with
  | some capacity =>
    obtain rfl := List.mem_singleton.mp isForm
    exact ofDraft_pair word
      (Draft.readOptionalWord32_eq_ok_iff.mpr (.inr ⟨capacity, Draft.isWord_ofJson capacity, rfl⟩))
  | none =>
    rcases List.mem_pair.mp isForm with rfl | rfl
    · rfl
    · exact ofDraft_pair word rfl

end Override

/-! ## Requests for overrides -/

/-- A request overrides a proxy: to the path of that proxy's standing it puts what is read as the
override, in a body that is not too long. -/
structure Http.Request.Overrides (request : Request) (name : String) (override : Override) :
    Prop where
  method : request.method = "PUT"
  path : ∃ rawName,
    Http.pathOf request.target = "/proxies/".toList ++ rawName ++ "/state".toList ∧
      '/' ∉ rawName ∧ Http.nameOf? rawName = some name
  saysJson : request.saysJson
  short : request.body.length ≤ Api.bodyLimit
  body : Json.readBytes (Override.ofDraft .text) request.body = .ok override

/-- A request that puts a JSON value to a target. -/
def Http.putting (target : String) (value : Json) : Request :=
  ⟨"PUT", target, some "application/json", Utf8.encode value.render⟩

/-- It overrides a proxy, when the value is a form of the override that is not too long and the
target leads to the proxy's standing. -/
theorem Http.overrides_putting (rawName : List Char) {target name : String} {override : Override}
    {form : Json} (path : pathOf target = "/proxies/".toList ++ rawName ++ "/state".toList)
    (single : '/' ∉ rawName) (named : nameOf? rawName = some name)
    (isForm : form ∈ override.forms) (short : (Utf8.encode form.render).length ≤ Api.bodyLimit) :
    (putting target form).Overrides name override where
  method := rfl
  path := ⟨rawName, path, single, named⟩
  saysJson := Request.saysJson_of_plain rfl
  short := short
  body := (Json.readBytes_render (Override.regular_of_mem_forms isForm) _).trans
    (Override.ofDraft_of_mem_forms isForm)

/-- Any proxy can be overridden by any form of an override that is not too long. -/
theorem Http.exists_overrides (name : String) {override : Override} {form : Json}
    (isForm : form ∈ override.forms) (short : (Utf8.encode form.render).length ≤ Api.bodyLimit) :
    ∃ request : Request, request.Overrides name override ∧
      request.body = Utf8.encode form.render := by
  obtain ⟨target, rawName, path, single, named⟩ :=
    exists_pathOf name "/state".toList (by decide)
  exact ⟨putting target form, overrides_putting rawName path single named isForm short, rfl⟩

/-! ## Effects of overrides -/

/-- The capacity of a proxy if it is known, or else the default. -/
def Roster.heldCapacity (roster : Roster) (name : String) : UInt32 :=
  ((roster.find? name).map (·.capacity)).getD roster.defaultCapacity

/-- One entry was set in an agent's roster: its proxy is known as it says, all other records and
all waiting are as they were, no stop was requested, and the override is counted. -/
structure Agent.Sets (agent next : Agent) (entry : Entry) : Prop where
  known : next.roster.entry? entry.name = some entry
  others : ∀ name, name ≠ entry.name → next.roster.find? name = agent.roster.find? name
  awaiting : ∀ name, next.roster.awaitsStop name = agent.roster.awaitsStop name
  defaultCapacity : next.roster.defaultCapacity = agent.roster.defaultCapacity
  stops : next.stops = agent.stops
  counts : ∀ series, ¬ series.isOfApi → next.tally.count series =
    agent.tally.count series + if series = .overrides entry.standing then 1 else 0

namespace Agent

variable (agent : Agent) (name : String) (standing : Standing) (capacity : Option UInt32)

/-- The entry of a proxy that was overridden: its capacity is the given one, or the held one. -/
def overriddenEntry : Entry :=
  ⟨name, standing, capacity.getD (agent.roster.heldCapacity name), agent.roster.awaitsStop name⟩

private theorem entry?_overrideWith :
    (agent.overrideWith name standing capacity).roster.entry? name =
      some (agent.overriddenEntry name standing capacity) := by
  have awaiting : (agent.overrideWith name standing capacity).roster.awaitsStop name =
      agent.roster.awaitsStop name := Roster.awaitsStop_override _ _ _ _ _
  rw [Roster.entry?, Api.find?_overrideWith, Roster.capacity_recordOf, Option.map_some,
    Roster.entryOf, awaiting]
  rfl

/-- An override sets the entry it leads to, whatever request is counted for it. -/
theorem sets_overrideWith (request : Request) (status : Nat) :
    agent.Sets (Api.counted (agent.overrideWith name standing capacity) request status)
      (agent.overriddenEntry name standing capacity) where
  known := agent.entry?_overrideWith name standing capacity
  others _ different := (Roster.find?_override _ _ _ _ _).trans (if_neg different.symm)
  awaiting other := agent.roster.awaitsStop_override name other standing capacity
  defaultCapacity := agent.roster.defaultCapacity_override name standing capacity
  stops := rfl
  counts series notOfApi :=
    ((Api.spares_counted _ request status).counts series notOfApi).trans (Tally.count_bump _ _ _)

/-- To give the capacity that is held is to give none. -/
private theorem overrideWith_heldCapacity :
    agent.overrideWith name standing (some (agent.roster.heldCapacity name)) =
      agent.overrideWith name standing none := by
  rw [Roster.heldCapacity, ← Roster.capacity_recordOf]
  rfl

end Agent

namespace Api

variable {request : Request} {name : String} {override : Override}

/-- What is put to the path of a proxy's standing is an override of that proxy, if its body is an
override by a word for a standing. -/
theorem commandOf_of_puts {rawName : List Char} (exported : Bool) (method : request.method = "PUT")
    (target : Route.ofTarget? request.target = some (.proxyStanding rawName))
    (named : Http.nameOf? rawName = some name) :
    commandOf exported request = (readBody request (Override.ofDraft .text)).bind fun override =>
      match Standing.ofWord? override.word with
      | some standing => .ok (.override name standing override.capacity)
      | none => .error (.badStanding override.word) := by
  have named : readName rawName = .ok name := by rw [readName, named]
  have allowed : (Route.proxyStanding rawName).methods.contains request.method := by
    rw [method]
    rfl
  have found : routeOf? exported request = some (.proxyStanding rawName) :=
    routeOf?_eq_some target rfl
  simp only [commandOf, found, if_pos allowed]
  rw [commandAt, named]
  rfl

private theorem commandOf_of_overrides (exported : Bool)
    (overrides : request.Overrides name override) :
    commandOf exported request = match Standing.ofWord? override.word with
      | some standing => .ok (.override name standing override.capacity)
      | none => .error (.badStanding override.word) := by
  obtain ⟨rawName, path, single, named⟩ := overrides.path
  rw [commandOf_of_puts exported overrides.method (Route.ofTarget?_proxyStanding path single) named,
    readBody_of_fits overrides.saysJson overrides.short overrides.body]
  rfl

private theorem shown_of_overrides (overrides : request.Overrides name override)
    (response : Response) : shown request response = response :=
  shown_of_ne_head (by rw [overrides.method]; decide) response

/-- Overrides are counted alike. -/
private theorem counted_of_overrides (agent : Agent) (overrides : request.Overrides name override)
    (status : Nat) : counted agent request status =
      (agent.counting (.requests "PUT" "/proxies/:name/state" status)).counting
        (.latencies "PUT" "/proxies/:name/state" status) := by
  obtain ⟨rawName, path, single, -⟩ := overrides.path
  have found : routeOf? agent.exports request = some (.proxyStanding rawName) :=
    routeOf?_eq_some (Route.ofTarget?_proxyStanding path single) rfl
  rw [counted, patternOf, found, overrides.method]
  rfl

/-- An override is carried out, and answered with the entry that it sets. -/
theorem handle_of_override (agent : Agent) {standing : Standing} {capacity : Option UInt32}
    (accepted : commandOf agent.exports request = .ok (.override name standing capacity)) :
    handle agent request =
      (.answered (.json 200 (agent.overriddenEntry name standing capacity).toJson),
        counted (agent.overrideWith name standing capacity) request 200) := by
  simp only [handle, accepted, perform, complete_eq, shown_of_change accepted rfl, entryResponse,
    agent.entry?_overrideWith]
  rfl

/-- An override whose word denotes a standing is carried out. -/
private theorem handle_of_denotes (agent : Agent) (overrides : request.Overrides name override)
    {standing : Standing} (denotes : Standing.Denotes override.word standing) :
    handle agent request =
      (.answered (.json 200 (agent.overriddenEntry name standing override.capacity).toJson),
        counted (agent.overrideWith name standing override.capacity) request 200) := by
  apply handle_of_override
  rw [commandOf_of_overrides _ overrides, Standing.ofWord?_eq_some_iff.mpr denotes]

/-- Any other is refused with its word. -/
private theorem handle_of_not_denotes (agent : Agent) (overrides : request.Overrides name override)
    (unknown : ¬ ∃ standing, Standing.Denotes override.word standing) :
    handle agent request =
      (.answered (.json 400 (errorJson (override.word ++ " is not a valid proxy state"))),
        counted agent request 400) := by
  have command : commandOf agent.exports request = .error (.badStanding override.word) := by
    rw [commandOf_of_overrides _ overrides, Standing.ofWord?_eq_none_iff.mpr unknown]
  simp only [handle, command, complete_eq, shown_of_overrides overrides]
  rfl

/-- An override that gives the capacity which is held is one that gives none. -/
private theorem handle_of_held (agent : Agent) {word : String} {bare : Request}
    (overrides : request.Overrides name ⟨word, some (agent.roster.heldCapacity name)⟩)
    (overridesBare : bare.Overrides name ⟨word, none⟩) :
    handle agent bare = handle agent request := by
  by_cases known : ∃ standing, Standing.Denotes word standing
  · obtain ⟨standing, denotes⟩ := known
    rw [handle_of_denotes agent overrides denotes, handle_of_denotes agent overridesBare denotes,
      agent.overrideWith_heldCapacity, counted_of_overrides _ overrides,
      counted_of_overrides _ overridesBare]
    rfl
  · rw [handle_of_not_denotes agent overrides known,
      handle_of_not_denotes agent overridesBare known, counted_of_overrides _ overrides,
      counted_of_overrides _ overridesBare]

/-- Whatever an agent knows, any override of a proxy with a name can be requested, and the proxy
fetched afterwards. The request is accepted when its word is a word for a standing but for ASCII
case. Then it is answered with the entry that it sets, which the text of the answer tells and no
other, and so is whoever fetches the proxy next: with that standing, the given capacity or else
the held one, and the waiting as it was. Giving
the held capacity does the same as giving none. Otherwise the word is told back, and the refused
request is counted but changes nothing. -/
theorem override_end_to_end (agent : Agent) {name : String} (given : name ≠ "")
    (override : Override) :
    (∀ form ∈ override.forms, (Utf8.encode form.render).length ≤ 2097152 →
      ∃ request : Request, request.Overrides name override ∧
        request.body = Utf8.encode form.render) ∧
    (∃ fetch : Request, fetch.FetchesProxy name) ∧
    ∀ request : Request, request.Overrides name override →
      let handled := handle agent request
      ((∃ content, handled.1 = .answered (.json 200 content)) ↔
        ∃ standing, Standing.Denotes override.word standing) ∧
      (∀ standing, Standing.Denotes override.word standing →
        let entry : Entry := ⟨name, standing,
          override.capacity.getD (agent.roster.heldCapacity name), agent.roster.awaitsStop name⟩
        handled.1 = .answered (.json 200 entry.toJson) ∧ agent.Sets handled.2 entry ∧
          (∀ other : Entry, handled.1.Tells other ↔ other = entry) ∧
          ∀ fetch : Request, fetch.FetchesProxy name → (handle handled.2 fetch).1 = handled.1) ∧
      (override.capacity = some (agent.roster.heldCapacity name) →
        ∀ bare : Request, bare.Overrides name ⟨override.word, none⟩ →
          handle agent bare = handled) ∧
      ((¬ ∃ standing, Standing.Denotes override.word standing) →
        handled = (.answered (.json 400
          (errorJson (override.word ++ " is not a valid proxy state"))),
            counted agent request 400)) := by
  refine ⟨fun form isForm => Http.exists_overrides name isForm, Http.exists_fetchesProxy given, ?_⟩
  intro request overrides handled
  refine ⟨⟨?_, ?_⟩, ?_, ?_, handle_of_not_denotes agent overrides⟩
  · rintro ⟨content, answered⟩
    apply Classical.byContradiction
    intro unknown
    have refused := congrArg Prod.fst (handle_of_not_denotes agent overrides unknown)
    have same := congrArg Response.status (Outcome.answered.inj (answered.symm.trans refused))
    exact absurd same (by decide : ¬ 200 = 400)
  · rintro ⟨standing, denotes⟩
    exact ⟨_, congrArg Prod.fst (handle_of_denotes agent overrides denotes)⟩
  · intro standing denotes entry
    have answered : handled.1 = .answered (.json 200 entry.toJson) :=
      congrArg Prod.fst (handle_of_denotes agent overrides denotes)
    have sets : agent.Sets handled.2 entry := by
      rw [congrArg Prod.snd (handle_of_denotes agent overrides denotes)]
      exact agent.sets_overrideWith name standing override.capacity request 200
    refine ⟨answered, sets, fun other => ?_, fun fetch fetches => ?_⟩
    · rw [answered, answered_tells_iff]
    · rw [answered, handle_of_fetches_proxy handled.2 fetches, entryResponse, sets.known]
  · obtain ⟨word, capacity⟩ := override
    rintro ⟨⟩ bare overridesBare
    exact handle_of_held agent overrides overridesBare

/-- The lobby takes players. A request drains it, in whatever case and without a capacity. It is
not overridden by a word with a blank before it, nor by one with a letter that has a capital of
ASCII but is none of it. -/
theorem override_end_to_end_at_lobby :
    let agent := (Agent.start "Proxy" 10).overrideWith "lobby-1" .up (some 50)
    let request (word : String) : Request :=
      Http.putting "/proxies/lobby-1/state" (.object [("state", .string word)])
    (handle agent (request "DraiN")).1 =
        .answered (.json 200 (Entry.toJson ⟨"lobby-1", .draining, 50, false⟩)) ∧
      handle agent (request " up") = (.answered (.json 400
        (errorJson " up is not a valid proxy state")), counted agent (request " up") 400) ∧
      (handle agent (request "draın")).1 =
        .answered (.json 400 (errorJson "draın is not a valid proxy state")) := by
  intro agent request
  have follows (word : String)
      (short : (Utf8.encode (Json.object [("state", .string word)]).render).length ≤ bodyLimit) :=
    (override_end_to_end agent (by decide : "lobby-1" ≠ "") ⟨word, none⟩).2.2 (request word)
      (Http.overrides_putting "lobby-1".toList (by decide) (by decide)
        (by decide +kernel) (.head _) short)
  have refused {word : String} (unknown : Standing.ofWord? word = none) :=
    Standing.ofWord?_eq_none_iff.mp unknown
  obtain ⟨-, drained, -⟩ := follows "DraiN" (by decide +kernel)
  obtain ⟨-, -, -, blank⟩ := follows " up" (by decide +kernel)
  obtain ⟨-, -, -, dotless⟩ := follows "draın" (by decide +kernel)
  have denotes := Standing.ofWord?_eq_some_iff.mp
    (by decide +kernel : Standing.ofWord? "DraiN" = some .draining)
  exact ⟨(drained .draining denotes).1.trans (by decide +kernel),
    blank (refused (by decide +kernel)), congrArg Prod.fst (dotless (refused (by decide +kernel)))⟩

end Api

end Quiesce
