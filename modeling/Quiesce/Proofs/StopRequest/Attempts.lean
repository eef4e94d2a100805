/-
# The attempts at a stop

A request for a stop is attempted again and again until an attempt is decisive: the last one
allowed, or the first whose reaction is no failure that may pass. Everything that is seen of a
delivery follows from the reactions up to the decisive one: what is sent, what comes of it and how
long each wait is. `deliver_follows_reactions` says so for every backoff, every service and every
course of reactions, with the reactions classified here by the status of their answers alone.

The induction is that of `attemptFrom`. It does not look at reactions: `Course` follows attempts
that are judged in any way, so that it also covers URLs to which nothing can be sent.
-/

import Mathlib.Data.List.Basic
import Mathlib.Order.Bounds.Basic
import Quiesce.Proofs.StopRequest.RetryAfter

namespace Quiesce.StopRequest

/-! ## Reactions -/

namespace Reaction

/-- Whether an answer with a status and header values ends its exchange and can be read. -/
def Readable (status : Nat) (retryAfter : List String) : Prop :=
  (status = 101 ∨ 200 ≤ status ∧ status < 1000) ∧
    ∀ value ∈ retryAfter, ∀ c ∈ value.toList, c = '\t' ∨ 0x20 ≤ c.toNat ∧ c.toNat ≠ 0x7F

theorem isFinal_iff {status : Nat} {retryAfter : List String} :
    isFinal status retryAfter ↔ Readable status retryAfter := by
  simp [isFinal, Readable]

instance (status : Nat) (retryAfter : List String) : Decidable (Readable status retryAfter) :=
  decidable_of_iff _ isFinal_iff

/-- The status and the header values of an answer, if there is one and it can be read. -/
def answer? : Reaction → Option (Nat × List String)
  | .answered status retryAfter =>
    if Readable status retryAfter then some (status, retryAfter) else none
  | .lost | .unreachable => none

variable (reaction : Reaction)

/-- Whether the orchestrator takes the request. -/
def succeeds : Bool :=
  reaction.answer?.any fun (status, _) => 200 ≤ status && status < 300

/-- Whether the same request may succeed later: there is no answer, or it says that too many
requests were made or that the orchestrator is at fault. -/
def mayPass : Bool :=
  reaction.answer?.all fun (status, _) => status = 429 || (500 ≤ status && status < 600)

/-- How long the orchestrator asks to wait. -/
def asked : Option Duration :=
  reaction.answer?.bind fun (_, retryAfter) => readRetryAfter retryAfter

/-- The failure that a reaction other than a success comes to. -/
def failure (url : Url) : Failure :=
  match reaction.answer? with
  | none => .unanswered (shownUrl url)
  | some (status, _) =>
    if reaction.mayPass then .refusedForNow status reaction.asked else .rejected status

/-- The wait that is asked for is spelled by the first header value of the answer. -/
theorem asked_eq_some_iff {wait : Duration} :
    reaction.asked = some wait ↔ ∃ status value values, ∃ seconds : UInt64,
      reaction.answer? = some (status, value :: values) ∧ Asks value seconds.toNat ∧
        wait = .ofSeconds seconds := by
  unfold asked
  cases reaction.answer? with
  | none => simp
  | some answer =>
    obtain ⟨status, values⟩ := answer
    cases values <;> simp [readRetryAfter_eq_some_iff]

variable {reaction}

/-- What succeeds need not be repeated. -/
theorem mayPass_eq_false_of_succeeds (success : reaction.succeeds) : reaction.mayPass = false := by
  unfold succeeds at success
  unfold mayPass
  cases answered : reaction.answer? with
  | none => simp [answered] at success
  | some answer =>
    simp only [answered, Option.any_some, Bool.and_eq_true, decide_eq_true_eq] at success
    simp only [Option.all_some, Bool.or_eq_false_iff, Bool.and_eq_false_iff,
      decide_eq_false_iff_not]
    omega

theorem retryable_failure (url : Url) : (reaction.failure url).retryable = reaction.mayPass := by
  unfold failure
  cases answered : reaction.answer? with
  | none => simp [Failure.retryable, mayPass, answered]
  | some answer => cases passes : reaction.mayPass <;> rfl

theorem retryAfter_failure (url : Url) (passes : reaction.mayPass) :
    (reaction.failure url).retryAfter = reaction.asked := by
  unfold failure
  cases answered : reaction.answer? with
  | none => simp [Failure.retryAfter, asked, answered]
  | some answer =>
    simp only [if_pos passes]
    rfl

end Reaction

/-- A request that can be sent comes to what its reaction says. -/
theorem judge_of_sendable {url : Url} (sends : sendable url) (reaction : Reaction) :
    judge url reaction =
      if reaction.succeeds then .ok () else .error (reaction.failure url) := by
  unfold judge
  rw [if_neg (not_not_intro sends)]
  cases reaction with
  | lost | unreachable => rfl
  | answered status values =>
    by_cases readable : Reaction.Readable status values
    case neg =>
      have unanswered : (Reaction.answered status values).answer? = none := if_neg readable
      simp [mt Reaction.isFinal_iff.mp readable, Reaction.succeeds, Reaction.failure, unanswered]
    have answered : (Reaction.answered status values).answer? = some (status, values) :=
      if_pos readable
    simp only [Reaction.isFinal_iff.mpr readable, Reaction.succeeds, Reaction.failure,
      Reaction.mayPass, Reaction.asked, passing, answered, not_true_eq_false, if_false,
      Option.any_some, Option.all_some, Option.bind_some, Bool.and_eq_true, decide_eq_true_eq]
    split
    · rfl
    · exact (apply_ite Except.error _ _ _).symm

/-! ## Courses -/

/-- What an attempt sends, if it reaches the orchestrator. -/
def sent (url : Url) (reaction : Reaction) : List String :=
  if arrives url reaction then [requestLine url] else []

section

variable {backoff : Backoff} {url : Url} {react : Nat → Reaction}

section

variable {attempt : Nat} {failure : Failure}

private theorem attemptFrom_of_ok (success : judge url (react attempt) = .ok ()) :
    attemptFrom backoff url react attempt = ⟨.ok (), sent url (react attempt), []⟩ := by
  rw [attemptFrom]
  simp only [success]
  rfl

private theorem attemptFrom_of_final (failed : judge url (react attempt) = .error failure)
    (final : ¬ (failure.retryable ∧ backoff.mayRetry attempt)) :
    attemptFrom backoff url react attempt = ⟨.error failure, sent url (react attempt), []⟩ := by
  rw [attemptFrom]
  simp only [failed, dif_neg final]
  rfl

private theorem attemptFrom_of_again (failed : judge url (react attempt) = .error failure)
    (again : failure.retryable ∧ backoff.mayRetry attempt) :
    attemptFrom backoff url react attempt =
      let later := attemptFrom backoff url react (attempt + 1)
      ⟨later.result, sent url (react attempt) ++ later.requests,
        ⟨attempt, backoff.wait attempt failure.retryAfter, failure⟩ :: later.retries⟩ := by
  rw [attemptFrom]
  simp only [failed, dif_pos again]
  rfl

end

/-- The attempts from one on, each of which succeeds or fails in its own way, up to the decisive
one. -/
structure Course (backoff : Backoff) (url : Url) (react : Nat → Reaction) (succeeds : Nat → Bool)
    (failure : Nat → Failure) (first last : Nat) (delivery : Delivery) : Prop where
  first_le : first ≤ last
  last_lt : last < backoff.attempts.toNat
  repeated : ∀ attempt, first ≤ attempt → attempt < last →
    ¬ succeeds attempt ∧ (failure attempt).retryable ∧ attempt + 1 < backoff.attempts.toNat
  decisive : succeeds last ∨ ¬ (failure last).retryable ∨ last + 1 = backoff.attempts.toNat
  result : delivery.result = if succeeds last then .ok () else .error (failure last)
  requests : delivery.requests =
    (List.range' first (last + 1 - first)).flatMap fun attempt => sent url (react attempt)
  retries : delivery.retries = (List.range' first (last - first)).map fun attempt =>
    ⟨attempt, backoff.wait attempt (failure attempt).retryAfter, failure attempt⟩

variable {succeeds : Nat → Bool} {failure : Nat → Failure}

section

variable {attempt : Nat}

/-- An attempt that is not repeated is a course of its own. -/
private theorem Course.single (within : attempt < backoff.attempts.toNat)
    (decisive : succeeds attempt ∨ ¬ (failure attempt).retryable ∨
      attempt + 1 = backoff.attempts.toNat) :
    Course backoff url react succeeds failure attempt attempt
      ⟨if succeeds attempt then .ok () else .error (failure attempt),
        sent url (react attempt), []⟩ where
  first_le := Nat.le_refl attempt
  last_lt := within
  repeated other least most := absurd (Nat.lt_of_le_of_lt least most) (Nat.lt_irrefl attempt)
  decisive := decisive
  result := rfl
  requests := by simp
  retries := by simp

/-- An attempt that is repeated comes before the course of the others. -/
private theorem Course.cons {last : Nat} {later : Delivery} (failed : ¬ succeeds attempt)
    (passes : (failure attempt).retryable) (allowed : attempt + 1 < backoff.attempts.toNat)
    (course : Course backoff url react succeeds failure (attempt + 1) last later) :
    Course backoff url react succeeds failure attempt last
      ⟨later.result, sent url (react attempt) ++ later.requests,
        ⟨attempt, backoff.wait attempt (failure attempt).retryAfter, failure attempt⟩ ::
          later.retries⟩ where
  first_le := Nat.le_of_succ_le course.first_le
  last_lt := course.last_lt
  repeated other least most := by
    rcases Nat.eq_or_lt_of_le least with rfl | beyond
    · exact ⟨failed, passes, allowed⟩
    · exact course.repeated other beyond most
  decisive := course.decisive
  result := course.result
  requests := by
    have beyond := course.first_le
    have more : last + 1 - attempt = (last + 1 - (attempt + 1)) + 1 := by omega
    rw [more, List.range'_succ, List.flatMap_cons, course.requests]
  retries := by
    have beyond := course.first_le
    have more : last - attempt = (last - (attempt + 1)) + 1 := by omega
    rw [more, List.range'_succ, List.map_cons, course.retries]

end

/-- Attempts that each succeed or fail in their own way run their course. -/
theorem exists_course
    (judged : ∀ attempt, judge url (react attempt) =
      if succeeds attempt then .ok () else .error (failure attempt))
    (attempt : Nat) (within : attempt < backoff.attempts.toNat) :
    ∃ last, Course backoff url react succeeds failure attempt last
      (attemptFrom backoff url react attempt) := by
  have succeeds_of_ok {attempt : Nat} (success : judge url (react attempt) = .ok ()) :
      succeeds attempt = true := by
    apply Decidable.byContradiction
    intro failed
    rw [judged, if_neg failed] at success
    cases success
  have of_error {attempt : Nat} {other : Failure}
      (failed : judge url (react attempt) = .error other) :
      ¬ succeeds attempt ∧ failure attempt = other := by
    by_cases success : succeeds attempt
    · rw [judged, if_pos success] at failed
      cases failed
    · rw [judged, if_neg success] at failed
      exact ⟨success, Except.error.inj failed⟩
  induction attempt using attemptFrom.induct backoff url react with
  | case1 attempt reaction success =>
    have succeeded := succeeds_of_ok success
    have course : Course backoff url react succeeds failure attempt attempt _ :=
      .single within (.inl succeeded)
    rw [if_pos succeeded] at course
    rw [attemptFrom_of_ok success]
    exact ⟨attempt, course⟩
  | case2 attempt reaction other failed again ih =>
    obtain ⟨unsuccessful, rfl⟩ := of_error failed
    have allowed : attempt + 1 < backoff.attempts.toNat := of_decide_eq_true again.2
    obtain ⟨last, course⟩ := ih allowed
    rw [attemptFrom_of_again failed again]
    exact ⟨last, course.cons unsuccessful again.1 allowed⟩
  | case3 attempt reaction other failed final =>
    obtain ⟨unsuccessful, rfl⟩ := of_error failed
    have decisive : ¬ (failure attempt).retryable ∨ attempt + 1 = backoff.attempts.toNat := by
      rw [Backoff.mayRetry, decide_eq_true_eq] at final
      by_cases passes : (failure attempt).retryable
      · have notAllowed : ¬ attempt + 1 < backoff.attempts.toNat :=
          fun allowed => final ⟨passes, allowed⟩
        exact .inr (by omega)
      · exact .inl passes
    have course : Course backoff url react succeeds failure attempt attempt _ :=
      .single within (.inr decisive)
    rw [if_neg unsuccessful] at course
    rw [attemptFrom_of_final failed final]
    exact ⟨attempt, course⟩

end

/-! ## Deliveries -/

/-- Whether a URL of the web is one that a request can be sent to. Its user name and password do
not count. -/
def CanBeSent (url : Url) : Prop :=
  (shownUrl url).utf8ByteSize ≤ longestUrl ∧
    ∀ name, url.host = some (.name name) →
      ∀ c ∈ name.toList, c ∉ ['"', '`', '\x7b', '\x7d']

theorem sendable_iff {url : Url} (web : url.scheme = "http" ∨ url.scheme = "https") :
    sendable url ↔ CanBeSent url := by
  have isWeb : (url.scheme = "http" || url.scheme = "https") = true := by simpa using web
  rw [sendable, isWeb, CanBeSent]
  rcases url.host with _ | (name | _ | _) <;> simp

theorem scheme_urlFor (base : Url) (service : String) :
    (urlFor base service).scheme = base.scheme := by
  unfold urlFor Url.extendPath
  cases base.path <;> rfl

/-- What is seen of a delivery whose attempts a backoff limits, and whose decisive attempt is the
last one allowed or the first whose reaction is no failure that may pass. -/
structure Follows (backoff : Backoff) (url : Url) (react : Nat → Reaction) (last : Nat)
    (delivery : Delivery) : Prop where
  decisive : IsLeast {attempt | attempt + 1 = backoff.attempts.toNat ∨ ¬ (react attempt).mayPass}
    last
  /-- The number of an attempt is a 32-bit number. -/
  counted : last < UInt32.size
  /-- Each attempt sends one request, if it reaches the orchestrator. -/
  requests : delivery.requests =
    ((List.range (last + 1)).filter (react · ≠ .unreachable)).map fun _ => requestLine url
  success : delivery.result = .ok () ↔ (react last).succeeds
  failure : ¬ (react last).succeeds → delivery.result = .error ((react last).failure url)
  retries : delivery.retries = (List.range last).map fun attempt =>
    ⟨attempt, backoff.wait attempt (react attempt).asked, (react attempt).failure url⟩

section

variable {backoff : Backoff} {url : Url} {react : Nat → Reaction} {delivery : Delivery}

/-- What can be sent arrives but where no connection is made. -/
private theorem flatMap_sent (sends : sendable url) (attempts : List Nat) :
    attempts.flatMap (fun attempt => sent url (react attempt)) =
      (attempts.filter (react · ≠ .unreachable)).map fun _ => requestLine url := by
  induction attempts with
  | nil => rfl
  | cons attempt rest ih =>
    rw [List.flatMap_cons, ih]
    by_cases unreachable : react attempt = .unreachable <;>
      simp [sent, arrives, sends, unreachable]

/-- A course of reactions to what can be sent is seen so. -/
private theorem Course.follows (sends : sendable url) {last : Nat}
    (course : Course backoff url react (fun attempt => (react attempt).succeeds)
      (fun attempt => (react attempt).failure url) 0 last delivery) :
    Follows backoff url react last delivery where
  decisive := by
    constructor
    · rcases course.decisive with succeeds | fails | allowedLast
      · exact .inr (by simp [Reaction.mayPass_eq_false_of_succeeds succeeds])
      · rw [Reaction.retryable_failure] at fails
        exact .inr fails
      · exact .inl allowedLast
    · intro attempt decisive
      apply Nat.le_of_not_lt
      intro before
      obtain ⟨-, passes, allowed⟩ := course.repeated attempt (Nat.zero_le _) before
      rw [Reaction.retryable_failure] at passes
      rcases decisive with allowedLast | fails
      · omega
      · exact fails passes
  counted := Nat.lt_trans course.last_lt backoff.attempts.toNat_lt
  requests := by
    rw [course.requests, Nat.sub_zero, ← List.range_eq_range', flatMap_sent sends]
  success := by
    rw [course.result]
    by_cases succeeds : (react last).succeeds <;> simp [succeeds]
  failure fails := course.result.trans (if_neg fails)
  retries := by
    rw [course.retries, Nat.sub_zero, ← List.range_eq_range']
    refine List.map_congr_left fun attempt before => ?_
    obtain ⟨-, passes, -⟩ := course.repeated attempt (Nat.zero_le _) (List.mem_range.mp before)
    rw [Reaction.retryable_failure] at passes
    rw [Reaction.retryAfter_failure url passes]

end

/-- Nothing is sent to a URL that no request can be sent to, and all attempts fail. -/
theorem deliver_of_not_sendable (backoff : Backoff) {base : Url} {service : String}
    (stuck : ¬ sendable (urlFor base service)) (react : Nat → Reaction) :
    let url := urlFor base service
    let delivery := deliver backoff base service react
    delivery.requests = [] ∧
      delivery.result = .error (.unsendable (shownUrl url)) ∧
      delivery.retries = (List.range (backoff.attempts.toNat - 1)).map fun attempt =>
        ⟨attempt, backoff.wait attempt none, .unsendable (shownUrl url)⟩ := by
  intro url delivery
  have judged (attempt : Nat) : judge url (react attempt) =
      if false then .ok () else .error (.unsendable (shownUrl url)) := by
    unfold judge
    exact if_pos stuck
  obtain ⟨last, course⟩ := exists_course judged 0 backoff.attempts_pos
  have allowedLast : last + 1 = backoff.attempts.toNat := by
    simpa [Failure.retryable] using course.decisive
  have nothing : ∀ attempt, sent url (react attempt) = [] := by
    simp [sent, arrives, url, stuck]
  refine ⟨course.requests.trans (by simp [nothing]), course.result, course.retries.trans ?_⟩
  rw [← allowedLast, Nat.add_sub_cancel, Nat.sub_zero, ← List.range_eq_range']
  rfl

/-- A delivery follows the reactions to its attempts, for every backoff, every base URL of the web,
every service and every course of reactions. When requests can be sent to the URL of the stop, the
first decisive attempt is the last one: each attempt up to it sends one request to that URL, but
those to which no connection is made; its reaction decides the result; and each attempt before it is followed by
the wait of the backoff, given the wait that the first header value of its answer spells. When none
can be sent, nothing is, and all attempts that the backoff allows fail. -/
theorem deliver_follows_reactions (backoff : Backoff) {base : Url}
    (web : base.scheme = "http" ∨ base.scheme = "https") (service : String)
    (react : Nat → Reaction) :
    let url := urlFor base service
    let delivery := deliver backoff base service react
    (CanBeSent url → ∃ last, Follows backoff url react last delivery) ∧
    (¬ CanBeSent url → delivery.requests = [] ∧
      delivery.result = .error (.unsendable (shownUrl url)) ∧
      delivery.retries = (List.range (backoff.attempts.toNat - 1)).map fun attempt =>
        ⟨attempt, backoff.wait attempt none, .unsendable (shownUrl url)⟩) ∧
    ∀ (reaction : Reaction) (wait : Duration), reaction.asked = some wait ↔
      ∃ status value values, ∃ seconds : UInt64,
        reaction.answer? = some (status, value :: values) ∧ Asks value seconds.toNat ∧
          wait = .ofSeconds seconds := by
  intro url delivery
  rw [← sendable_iff (by rwa [scheme_urlFor])]
  refine ⟨fun sends => ?_, fun stuck => deliver_of_not_sendable backoff stuck react,
    fun reaction wait => reaction.asked_eq_some_iff⟩
  obtain ⟨last, course⟩ := exists_course
    (fun attempt => judge_of_sendable sends (react attempt)) 0 backoff.attempts_pos
  exact ⟨last, course.follows sends⟩

/-- The orchestrator is busy and asks to wait for seven seconds, then takes the request. -/
theorem deliver_follows_reactions_when_busy :
    let base : Url :=
      ⟨"http", "", "", some (.name "orchestrator"), none, false, .segments [""], none, none⟩
    let react (attempt : Nat) : Reaction :=
      if attempt = 0 then .answered 503 [" +007"] else .answered 204 []
    let delivery := deliver .standard base "lobby-1" react
    delivery.result = .ok () ∧
      delivery.requests =
        List.replicate 2 "POST http://orchestrator/services/lobby-1/stop [proxy-drain]" ∧
      delivery.retries.map (·.wait) = [.ofSeconds 7] := by
  intro base react delivery
  obtain ⟨delivers, -, -⟩ := deliver_follows_reactions .standard (.inl (rfl : base.scheme = "http"))
    "lobby-1" react
  have canBeSent : CanBeSent (urlFor base "lobby-1") :=
    (sendable_iff (.inl rfl)).mp (by decide +kernel)
  obtain ⟨last, follows⟩ := delivers canBeSent
  have second : IsLeast {attempt | attempt + 1 = Backoff.standard.attempts.toNat ∨
      ¬ (react attempt).mayPass} 1 := by
    refine ⟨.inr (by decide), fun attempt decisive => Nat.one_le_iff_ne_zero.mpr ?_⟩
    rintro rfl
    revert decisive
    decide
  obtain rfl := follows.decisive.unique second
  refine ⟨follows.success.mpr (by decide), ?_, ?_⟩
  · rw [follows.requests]
    decide +kernel
  · rw [follows.retries]
    decide +kernel

/-- A base URL whose host holds a quotation mark is accepted, and nothing is sent to it. -/
theorem nothing_sent_to_quoted_host :
    ¬ ∀ (backoff : Backoff) (text : String) (base : Url) (service : String)
      (react : Nat → Reaction), (readBase text).toOption = some base →
      base.scheme = "http" ∨ base.scheme = "https" →
      (∀ attempt, react attempt ≠ .unreachable) →
      ∃ last, IsLeast {attempt | attempt + 1 = backoff.attempts.toNat ∨
          ¬ (react attempt).mayPass} last ∧
        (deliver backoff base service react).requests =
          List.replicate (last + 1) (requestLine (urlFor base service)) := by
  intro always
  let base : Url := ⟨"http", "", "", some (.name "a\"b"), none, false, .segments [""], none, none⟩
  have stuck : ¬ sendable (urlFor base "s") := by decide +kernel
  obtain ⟨last, -, requests⟩ := always .standard "http://a\"b" base "s" (fun _ => .answered 200 [])
    (by decide +kernel) (.inl rfl) nofun
  rw [(deliver_of_not_sendable .standard stuck _).1] at requests
  cases requests

end Quiesce.StopRequest
