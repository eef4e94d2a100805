/-
# Every name has an address

A proxy is addressed by its name, percent-encoded but for letters, digits and `-._~`. Whatever the
name holds, be it slashes, question marks, dots or what looks encoded already, its address leads to
that proxy and to no other, and a query behind it makes no difference. `names_addressed_exactly`
says what is fetched from there and what is put there, for every agent and every name but the empty
one. Targets are unbounded here, so those within the limit of the transport are among them.
-/

import Quiesce.Proofs.Api.Override

namespace Quiesce

open Http (Request Response Route)

/-! ## Addresses -/

namespace Http

/-- The characters that need no encoding anywhere in a URL: ASCII letters and digits, and four
marks. -/
def isUnreserved (c : Char) : Bool :=
  c.isAlphanum || "-._~".toList.contains c

/-- The segment of a name: each byte percent-encoded but those of unreserved characters. -/
def segmentOf (name : String) : List Char :=
  Percent.encode (fun c => !isUnreserved c) name.toList

/-- The address of a proxy, perhaps with a query. -/
def addressOf (name : String) (query : Option String) : String :=
  String.ofList ("/proxies/".toList ++ segmentOf name ++ queryText query)

/-- The address of a proxy's standing, perhaps with a query. -/
def standingAddressOf (name : String) (query : Option String) : String :=
  String.ofList ("/proxies/".toList ++ segmentOf name ++ "/state".toList ++ queryText query)

/-- A name is read back from its segment. -/
theorem nameOf?_segmentOf (name : String) : nameOf? (segmentOf name) = some name :=
  nameOf?_encode (by decide) name

/-- So no two names have one segment. -/
theorem segmentOf_injective : Function.Injective segmentOf := by
  intro first second same
  apply Option.some.inj
  rw [← nameOf?_segmentOf first, same, nameOf?_segmentOf second]

/-- Only the empty name has an empty segment. -/
theorem segmentOf_ne_nil {name : String} (given : name ≠ "") : segmentOf name ≠ [] := by
  intro empty
  exact given (segmentOf_injective empty)

/-- What needs no encoding ends no segment and no path. -/
private theorem plain_of_isUnreserved (d : Char) (unescaped : (!isUnreserved d) = false) :
    d ≠ '/' ∧ endsPath d = false := by
  have ends : ['/', '?', '#'].all (!isUnreserved ·) := by decide
  have other : d ∉ ['/', '?', '#'] := by
    intro among
    rw [List.all_eq_true.mp ends d among] at unescaped
    cases unescaped
  simp only [List.mem_cons, List.not_mem_nil, or_false, not_or] at other
  simp [endsPath, other]

/-- A segment is one segment. -/
theorem slash_not_mem_segmentOf (name : String) : '/' ∉ segmentOf name :=
  slash_not_mem_encode plain_of_isUnreserved name.toList

theorem pathOf_addressOf (name : String) (query : Option String) :
    pathOf (addressOf name query) = "/proxies/".toList ++ segmentOf name := by
  have path := pathOf_encode plain_of_isUnreserved name.toList [] rfl query
  simp only [List.append_nil] at path
  exact path

theorem pathOf_standingAddressOf (name : String) (query : Option String) :
    pathOf (standingAddressOf name query) =
      "/proxies/".toList ++ segmentOf name ++ "/state".toList :=
  pathOf_encode plain_of_isUnreserved name.toList "/state".toList (by decide) query

/-- The address of a proxy leads to it, unless it has no name. -/
theorem ofTarget?_addressOf (name : String) (query : Option String) :
    Route.ofTarget? (addressOf name query) =
      if name = "" then none else some (.proxy (segmentOf name)) := by
  have path := pathOf_addressOf name query
  split
  next empty =>
    have noSegment : "/proxies/".toList ++ segmentOf "" = "/proxies/".toList := by decide
    rw [empty, noSegment] at path
    rw [Route.ofTarget?, empty, path]
    decide
  next given =>
    exact Route.ofTarget?_proxy path (segmentOf_ne_nil given) (slash_not_mem_segmentOf name)

/-- The address of its standing leads to that. -/
theorem ofTarget?_standingAddressOf (name : String) (query : Option String) :
    Route.ofTarget? (standingAddressOf name query) = some (.proxyStanding (segmentOf name)) :=
  Route.ofTarget?_proxyStanding (pathOf_standingAddressOf name query)
    (slash_not_mem_segmentOf name)

end Http

/-! ## What is addressed -/

namespace Api

/-- What a request puts acts on one proxy: an override by a word for a standing sets the entry of
that proxy, and whatever else is put is refused and changes nothing but the counts of requests. -/
structure ActsOn (agent : Agent) (request : Request) (name : String) : Prop where
  sets : ∀ override standing, readBody request (Override.ofDraft .text) = .ok override →
    Standing.Denotes override.word standing →
      let entry : Entry := ⟨name, standing,
        override.capacity.getD (agent.roster.heldCapacity name), agent.roster.awaitsStop name⟩
      (handle agent request).1 = .answered (.json 200 entry.toJson) ∧
        (∀ other : Entry, (handle agent request).1.Tells other ↔ other = entry) ∧
        agent.Sets (handle agent request).2 entry
  refuses : (∀ override standing, readBody request (Override.ofDraft .text) = .ok override →
      ¬ Standing.Denotes override.word standing) →
    ∃ refusal : Refusal, handle agent request =
      (.answered refusal.response, counted agent request refusal.response.status)

variable (agent : Agent) {request : Request} {name : String} {query : Option String}

/-- What is fetched from the address of a proxy is that proxy. -/
theorem fetchesProxy_of_address (given : name ≠ "") (method : request.method = "GET")
    (target : request.target = Http.addressOf name query) : request.FetchesProxy name := by
  have route := Http.ofTarget?_addressOf name query
  rw [if_neg given, ← target] at route
  exact ⟨Http.segmentOf name, ⟨method, route⟩, Http.nameOf?_segmentOf name⟩

/-- What is put to the address of its standing acts on it. -/
theorem actsOn_of_address (method : request.method = "PUT")
    (target : request.target = Http.standingAddressOf name query) :
    ActsOn agent request name := by
  have route := Http.ofTarget?_standingAddressOf name query
  rw [← target] at route
  have command := commandOf_of_puts agent.exports method route (Http.nameOf?_segmentOf name)
  have whole := shown_of_ne_head (by rw [method]; decide : request.method ≠ "HEAD")
  constructor
  · intro override standing read denotes entry
    have accepted : commandOf agent.exports request =
        .ok (.override name standing override.capacity) := by
      rw [command, read, Except.bind, Standing.ofWord?_eq_some_iff.mpr denotes]
    have handled := handle_of_override agent accepted
    rw [handled]
    exact ⟨rfl, fun other => answered_tells_iff,
      agent.sets_overrideWith name standing override.capacity request 200⟩
  · intro none
    have refused : ∃ refusal, commandOf agent.exports request = .error refusal := by
      rw [command]
      cases read : readBody request (Override.ofDraft .text) with
      | error refusal => exact ⟨refusal, rfl⟩
      | ok override =>
        have unknown : Standing.ofWord? override.word = .none := by
          rw [Standing.ofWord?_eq_none_iff, not_exists]
          intro standing
          exact none override standing read
        rw [Except.bind, unknown]
        exact ⟨_, rfl⟩
    obtain ⟨refusal, refused⟩ := refused
    refine ⟨refusal, ?_⟩
    simp only [handle, refused, complete_eq, whole]

/-- Every name but the empty one has an address of its own, whatever query is behind it. What is
fetched from there tells the entry of exactly that name, or that it is unknown, and nothing changes;
what is put to its standing there acts on exactly that name. No other name has an address that
leads to the same, and none leads from a proxy to a standing. -/
theorem names_addressed_exactly (given : name ≠ "") (query : Option String) :
    (∀ request : Request, request.method = "GET" →
      request.target = Http.addressOf name query →
        (handle agent request).1 = .answered (match agent.roster.entry? name with
          | some entry => .json 200 entry.toJson
          | none => .json 404 (errorJson ("unknown proxy " ++ name))) ∧
        (∀ entry : Entry, (handle agent request).1.Tells entry ↔
          agent.roster.entry? name = some entry) ∧
        agent.Spares (handle agent request).2) ∧
    (∀ request : Request, request.method = "PUT" →
      request.target = Http.standingAddressOf name query → ActsOn agent request name) ∧
    ∀ (other : String) (otherQuery : Option String),
      (Route.ofTarget? (Http.addressOf other otherQuery) =
        Route.ofTarget? (Http.addressOf name query) ↔ other = name) ∧
      (Route.ofTarget? (Http.standingAddressOf other otherQuery) =
        Route.ofTarget? (Http.standingAddressOf name query) ↔ other = name) ∧
      Route.ofTarget? (Http.standingAddressOf other otherQuery) ≠
        Route.ofTarget? (Http.addressOf name query) := by
  refine ⟨?_, fun request method target => actsOn_of_address agent method target, ?_⟩
  · intro request method target
    rw [handle_of_fetches_proxy agent (fetchesProxy_of_address given method target)]
    exact ⟨rfl, fun entry => entryResponse_tells_iff, spares_counted agent request _⟩
  · intro other otherQuery
    simp only [Http.ofTarget?_addressOf, Http.ofTarget?_standingAddressOf, if_neg given]
    refine ⟨⟨fun same => ?_, fun same => ?_⟩, ⟨fun same => ?_, fun same => ?_⟩, nofun⟩
    · split at same
      next => cases same
      next =>
        apply Http.segmentOf_injective
        exact Route.proxy.inj (Option.some.inj same)
    · rw [same, if_neg given]
    · apply Http.segmentOf_injective
      exact Route.proxyStanding.inj (Option.some.inj same)
    · rw [same]

/-- A name with a slash, a query mark, a letter beyond ASCII and what looks like an encoded slash.
It is fetched from its address with a query behind it and overridden there. The proxy whose
standing would have that address were the slash not encoded is another one. -/
theorem names_addressed_exactly_at_slash :
    let name := "hub/state?ü%2F"
    let agent := (Agent.start "Proxy" 10).overrideWith name .up (some 50)
    (handle agent ⟨"GET", "/proxies/hub%2Fstate%3F%C3%BC%252F?verbose", none, []⟩).1 =
        .answered (.json 200 (Entry.toJson ⟨name, .up, 50, false⟩)) ∧
      ActsOn agent ⟨"PUT", "/proxies/hub%2Fstate%3F%C3%BC%252F/state?verbose", none, []⟩ name ∧
      Route.ofTarget? "/proxies/hub/state" ≠
        Route.ofTarget? "/proxies/hub%2Fstate%3F%C3%BC%252F?verbose" := by
  intro name agent
  obtain ⟨fetched, put, others⟩ :=
    names_addressed_exactly agent (by decide : name ≠ "") (some "verbose")
  have address : "/proxies/hub%2Fstate%3F%C3%BC%252F?verbose" =
      Http.addressOf name (some "verbose") := by decide +kernel
  have standingAddress : "/proxies/hub%2Fstate%3F%C3%BC%252F/state?verbose" =
      Http.standingAddressOf name (some "verbose") := by decide +kernel
  have known : agent.roster.entry? name = some ⟨name, .up, 50, false⟩ := by decide +kernel
  refine ⟨?_, put _ rfl standingAddress, ?_⟩
  · rw [(fetched _ rfl address).1, known]
  · rw [address]
    exact (others "hub" none).2.2

end Api

end Quiesce
