/-
# All views of a roster agree

A roster is looked at from many sides: its list, the record, the entry and the waiting of a
single proxy, the two routes of the API that show proxies, and the polls of the load
balancer. They show the same, and the texts that the API answers with tell it in full. The
list is in the order of the names' bytes whatever the order in which proxies became known,
each proxy stands in it once, and whoever awaits its stop is among them, because a roster
that an agent can come to have is grounded.
-/

import Quiesce.Proofs.Api.Refusal
import Quiesce.Proofs.Http.Targets
import Quiesce.Proofs.Json.Entries
import Quiesce.Proofs.Roster.Membership
import Quiesce.Proofs.Text.Order

namespace Quiesce

open Http (Request Response Route)

namespace Roster

variable (roster : Roster) {name : String} {entry : Entry}

/-! ## The list -/

/-- The list is strictly ascending by the bytes of the names. -/
theorem entries_pairwise_lt :
    roster.entries.Pairwise fun first second =>
      Utf8.encode first.name < Utf8.encode second.name := by
  have ordered : roster.records.toList.Pairwise fun first second =>
      compare first.1 second.1 = .lt := Std.ExtTreeMap.ordered_keys_toList
  refine List.pairwise_map.mpr (ordered.imp fun {first second} less => ?_)
  exact Utf8.encode_lt_encode (compareOfLessAndEq_eq_lt.mp less)

/-- It holds as many entries as there are records. -/
theorem length_entries : roster.entries.length = roster.size := by
  rw [entries, List.length_map, Std.ExtTreeMap.length_toList, size]

/-- An entry of the list is that of its name. -/
theorem mem_entries_iff : entry ∈ roster.entries ∧ entry.name = name ↔
    roster.entry? name = some entry := by
  unfold entries entry? find?
  simp only [List.mem_map, Prod.exists, Std.ExtTreeMap.mem_toList_iff_getElem?_eq_some,
    Option.map_eq_some_iff]
  constructor
  · rintro ⟨⟨given, record, known, rfl⟩, rfl⟩
    exact ⟨record, known, rfl⟩
  · rintro ⟨record, known, rfl⟩
    exact ⟨⟨name, record, known, rfl⟩, rfl⟩

/-- It is empty when no proxy is known. -/
theorem size_eq_zero_iff : roster.size = 0 ↔ ∀ name, roster.find? name = none := by
  rw [← roster.length_entries, List.length_eq_zero_iff]
  constructor
  · intro empty name
    cases known : roster.find? name with
    | none => rfl
    | some record =>
      have entry : roster.entry? name = some (roster.entryOf name record) := by
        unfold entry?
        rw [known, Option.map_some]
      obtain ⟨listed, -⟩ := roster.mem_entries_iff.mpr entry
      rw [empty] at listed
      nomatch listed
  · intro unknown
    refine List.eq_nil_iff_forall_not_mem.mpr fun entry listed => ?_
    have found := roster.mem_entries_iff.mp ⟨listed, rfl⟩
    unfold entry? at found
    rw [unknown] at found
    nomatch found

/-- On a grounded roster, who awaits its stop can be told from the list. -/
theorem Grounded.awaitsStop_iff {roster : Roster} (grounded : roster.Grounded) :
    roster.awaitsStop name = true ↔
      ∃ entry ∈ roster.entries, entry.name = name ∧ entry.awaitingStop := by
  constructor
  · intro awaiting
    obtain ⟨entry, found, named, shown⟩ := grounded.entry?_of_awaiting awaiting
    obtain ⟨listed, -⟩ := roster.mem_entries_iff.mpr found
    exact ⟨entry, listed, named, shown⟩
  · rintro ⟨entry, listed, rfl, shown⟩
    obtain ⟨record, -, same⟩ :=
      Option.map_eq_some_iff.mp (roster.mem_entries_iff.mp ⟨listed, rfl⟩)
    rw [← same] at shown
    exact shown

end Roster

/-! ## The API -/

/-- A request fetches what a route leads to. -/
structure Http.Request.Fetches (request : Request) (route : Route) : Prop where
  method : request.method = "GET"
  target : Route.ofTarget? request.target = some route

/-- A request fetches the proxy of a name. -/
def Http.Request.FetchesProxy (request : Request) (name : String) : Prop :=
  ∃ rawName, request.Fetches (.proxy rawName) ∧ Http.nameOf? rawName = some name

/-- An outcome is an answer with success, and its content tells something. -/
def Api.Outcome.Succeeds (outcome : Api.Outcome) (told : String → Prop) : Prop :=
  ∃ response, outcome = .answered response ∧ response.status = 200 ∧ told response.content

/-- An outcome tells an entry. -/
def Api.Outcome.Tells (outcome : Api.Outcome) (entry : Entry) : Prop :=
  outcome.Succeeds entry.ToldBy

/-- An outcome tells a list of entries. -/
def Api.Outcome.Lists (outcome : Api.Outcome) (entries : List Entry) : Prop :=
  outcome.Succeeds (Entry.ListToldBy entries)

namespace Api

/-- An answer with a JSON value tells what the text of the value tells, unless it is a failure. -/
theorem answered_succeeds_iff {status : Nat} {content : Json} {told : String → Prop} :
    (Outcome.answered (.json status content)).Succeeds told ↔
      status = 200 ∧ told content.render := by
  constructor
  · rintro ⟨_, ⟨⟩, success, told⟩
    exact ⟨success, told⟩
  · rintro ⟨success, told⟩
    exact ⟨_, rfl, success, told⟩

/-- An answer with the JSON form of an entry tells that entry and no other. -/
theorem answered_tells_iff {entry other : Entry} :
    (Outcome.answered (.json 200 entry.toJson)).Tells other ↔ other = entry := by
  rw [Outcome.Tells, answered_succeeds_iff, Entry.told_render_iff]
  exact and_iff_right rfl

/-- An answer with the JSON forms of entries tells the list of them. -/
theorem answered_lists_iff {entries others : List Entry} :
    (Outcome.answered (.json 200 (.array (entries.map Entry.toJson)))).Lists others ↔
      others = entries := by
  rw [Outcome.Lists, answered_succeeds_iff, Entry.listTold_render_iff]
  exact and_iff_right rfl

/-- The response that shows a proxy tells its entry. -/
theorem entryResponse_tells_iff {roster : Roster} {name : String} {entry : Entry} :
    (Outcome.answered (entryResponse roster name)).Tells entry ↔
      roster.entry? name = some entry := by
  rw [entryResponse]
  cases roster.entry? name with
  | some known => exact answered_tells_iff.trans (by rw [Option.some.injEq, eq_comm])
  | none =>
    rw [Outcome.Tells, Refusal.response, answered_succeeds_iff]
    simp

variable {request : Request} {route : Route}

/-- What is fetched is shown whole, and counted. -/
private theorem handle_of_fetches (agent : Agent) {command : Command} {response : Response}
    (fetches : request.Fetches route) (opened : route.isOpen agent.exports)
    (allowed : route.methods.contains "GET")
    (leads : commandAt request route = .ok command)
    (performed : perform agent command = (.answered response, agent)) :
    handle agent request = (.answered response, counted agent request response.status) := by
  have found := routeOf?_eq_some fetches.target opened
  have accepted : commandOf agent.exports request = .ok command := by
    simp only [commandOf, found, fetches.method, if_pos allowed, leads]
  have whole := shown_of_ne_head (by rw [fetches.method]; decide : request.method ≠ "HEAD")
  simp only [handle, accepted, performed, complete_eq, whole]

/-- The list of proxies is fetched as it is. -/
theorem handle_of_fetches_list (agent : Agent) (fetches : request.Fetches .proxies) :
    handle agent request =
      (.answered (.json 200 (.array (agent.roster.entries.map Entry.toJson))),
        counted agent request 200) :=
  handle_of_fetches agent fetches rfl rfl rfl rfl

/-- A proxy is fetched as its entry, or is unknown. -/
theorem handle_of_fetches_proxy (agent : Agent) {name : String}
    (fetches : request.FetchesProxy name) :
    handle agent request = (.answered (entryResponse agent.roster name),
      counted agent request (entryResponse agent.roster name).status) := by
  obtain ⟨rawName, fetches, named⟩ := fetches
  have leads : commandAt request (.proxy rawName) = .ok (.show name) := by
    rw [commandAt, readName, named]
    rfl
  exact handle_of_fetches agent fetches rfl rfl leads rfl

/-- The counts are fetched as they are written, where they are shown. -/
theorem handle_of_fetches_counts {agent : Agent} {write : Tally → String}
    (exported : agent.exporter = some write) (fetches : request.Fetches .counts) :
    handle agent request =
      (.answered (.plain 200 (write agent.tally)), counted agent request 200) := by
  have opened : Route.counts.isOpen agent.exports := by
    rw [Route.isOpen, Agent.exports, exported, Option.isSome_some]
  have performed : perform agent .showCounts =
      (.answered (.plain 200 (write agent.tally)), agent) := by
    rw [perform, countsResponse, exported]
  exact handle_of_fetches agent fetches opened rfl rfl performed

end Api

/-- Every name but the empty one can be fetched. -/
theorem Http.exists_fetchesProxy {name : String} (given : name ≠ "") :
    ∃ request : Request, request.FetchesProxy name := by
  obtain ⟨target, rawName, path, single, named⟩ := exists_pathOf name [] rfl
  have nonempty : rawName ≠ [] := by
    rintro rfl
    have emptyName : nameOf? [] = some "" := Utf8.decode?_encode ""
    rw [emptyName] at named
    exact given (Option.some.inj named).symm
  rw [List.append_nil] at path
  exact ⟨⟨"GET", target, none, []⟩, rawName, ⟨rfl, Route.ofTarget?_proxy path nonempty single⟩,
    named⟩

/-! ## Polls -/

/-- A poll for a name of at most so many bytes as count is answered with its record. -/
theorem Agent.poll_encode (agent : Agent) {name : String}
    (short : (Utf8.encode name).length ≤ Poll.nameLimit) :
    (agent.poll (some (Utf8.encode name))).1 = Poll.reply (agent.roster.find? name) := by
  have whole : Poll.nameOf (Utf8.encode name) = name := by
    rw [Poll.nameOf, List.take_of_length_le short, Utf8.decodeLossy_encode]
  rw [Agent.poll]
  simp only [whole]
  rfl

/-! ## All views -/

/-- All views of an agent's roster agree. -/
structure Agent.ViewsAgree (agent : Agent) : Prop where
  /-- The list is strictly ascending by the bytes of the names. -/
  ascending : agent.roster.entries.Pairwise fun first second =>
    Utf8.encode first.name < Utf8.encode second.name
  length : agent.roster.entries.length = agent.roster.size
  isEmpty : agent.roster.size = 0 ↔ ∀ name, agent.roster.find? name = none
  /-- The list holds for each name the entry of that name and no other. -/
  listed : ∀ name entry, entry ∈ agent.roster.entries ∧ entry.name = name ↔
    agent.roster.entry? name = some entry
  /-- The entry is there when the record is, and shows it and the waiting. -/
  entry : ∀ name, agent.roster.entry? name = (agent.roster.find? name).map fun record =>
    ⟨name, record.standing, record.capacity, agent.roster.awaitsStop name⟩
  /-- Whoever awaits its stop is listed so. -/
  awaiting : ∀ name, agent.roster.awaitsStop name = true ↔
    ∃ entry ∈ agent.roster.entries, entry.name = name ∧ entry.awaitingStop
  /-- The API lists the list. -/
  fetchedList : ∀ request : Request, request.Fetches .proxies →
    (Api.handle agent request).1 =
      .answered (.json 200 (.array (agent.roster.entries.map Entry.toJson)))
  /-- It shows the entry of a name, or that there is none. -/
  fetched : ∀ name, ∀ request : Request, request.FetchesProxy name →
    (Api.handle agent request).1 =
      .answered (match agent.roster.entry? name with
        | some entry => .json 200 entry.toJson
        | none => .json 404 (Api.errorJson ("unknown proxy " ++ name)))
  /-- The text of what is fetched tells the list and the entry, and nothing else. -/
  tellsList : ∀ request : Request, request.Fetches .proxies → ∀ entries : List Entry,
    (Api.handle agent request).1.Lists entries ↔ entries = agent.roster.entries
  tells : ∀ name, ∀ request : Request, request.FetchesProxy name → ∀ entry : Entry,
    (Api.handle agent request).1.Tells entry ↔ agent.roster.entry? name = some entry
  /-- Every name but the empty one can be asked for. -/
  fetchable : ∀ name, name ≠ "" → ∃ request : Request, request.FetchesProxy name
  /-- A poll is answered with the record. -/
  polled : ∀ name, (Utf8.encode name).length ≤ 1024 →
    (agent.poll (some (Utf8.encode name))).1 = Poll.reply (agent.roster.find? name)

/-- The views agree on every roster that an agent can come to have. -/
theorem views_agree {group : String} {defaultCapacity : UInt32} {agent : Agent}
    (attained : agent.roster.Attained group defaultCapacity) : agent.ViewsAgree := by
  have grounded : agent.roster.Grounded :=
    (Roster.grounded_empty defaultCapacity).of_changesTo attained.changesTo
  exact {
    ascending := agent.roster.entries_pairwise_lt
    length := agent.roster.length_entries
    isEmpty := agent.roster.size_eq_zero_iff
    listed := fun name entry => agent.roster.mem_entries_iff
    entry := fun name => rfl
    awaiting := fun name => grounded.awaitsStop_iff
    fetchedList := fun request fetches =>
      congrArg Prod.fst (Api.handle_of_fetches_list agent fetches)
    fetched := fun name request fetches =>
      congrArg Prod.fst (Api.handle_of_fetches_proxy agent fetches)
    tellsList := fun request fetches entries => by
      rw [Api.handle_of_fetches_list agent fetches, Api.answered_lists_iff]
    tells := fun name request fetches entry => by
      rw [Api.handle_of_fetches_proxy agent fetches, Api.entryResponse_tells_iff]
    fetchable := fun name => Http.exists_fetchesProxy
    polled := fun name => agent.poll_encode }

/-- Three proxies become known in no particular order, and one of them drains. -/
def Session.crowd : List Step :=
  [.mk (.enrol "über-1") true [], .mk (.openDrain "lobby-2") true [],
    .mk (.enrol "lobby-10") true []]

/-- They are listed in order, and the draining one shows in its entry, over the API and in the
answer to a poll. -/
theorem views_agree_at_crowd :
    let agent := (Session.takeSteps (.start "Proxy" 10) Session.crowd).2
    agent.roster.entries.map (·.name) = ["lobby-10", "lobby-2", "über-1"] ∧
      (∃ entry ∈ agent.roster.entries, entry.name = "lobby-2" ∧ entry.awaitingStop) ∧
      (Api.handle agent ⟨"GET", "/proxies/lobby-2", none, []⟩).1 =
        .answered (.json 200 (Entry.toJson ⟨"lobby-2", .draining, 10, true⟩)) ∧
      (agent.poll (some (Utf8.encode "lobby-2"))).1 = "maxconn:10 DRAINING\r\n" := by
  intro agent
  have attained : agent.roster.Attained "Proxy" 10 := .session Session.crowd
  have views := views_agree attained
  have fetches : (⟨"GET", "/proxies/lobby-2", none, []⟩ : Request).FetchesProxy "lobby-2" :=
    ⟨"lobby-2".toList, ⟨rfl, by decide +kernel⟩, by decide +kernel⟩
  exact ⟨by decide +kernel, (views.awaiting "lobby-2").mp (by decide +kernel),
    (views.fetched "lobby-2" _ fetches).trans (by decide +kernel),
    (views.polled "lobby-2" (by decide +kernel)).trans (by decide +kernel)⟩

end Quiesce
