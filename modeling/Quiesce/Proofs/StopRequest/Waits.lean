/-
# The waits of a delivery

Between the attempts at a stop there is a wait for each attempt that is repeated, and the
orchestrator may ask how long it should be. Whatever it asks, no wait passes the maximum of the
backoff, so all waits together are bounded by the number of attempts; and no wait is shorter than
what is asked, but for the maximum. `waits_bounded_and_ordered` says so for whole deliveries, next
to the order in which the waits of one backoff stand.
-/

import Mathlib.Algebra.Order.BigOperators.Group.List
import Mathlib.Algebra.Order.Group.Nat
import Mathlib.Data.Nat.Cast.Basic
import Quiesce.Proofs.Backoff.Wait
import Quiesce.Proofs.StopRequest.Attempts

namespace Quiesce.StopRequest

/-- How long the orchestrator asks to wait after a request to a URL. It asks for nothing when the
request cannot be sent. -/
def askedAt (url : Url) (reaction : Reaction) : Option Duration :=
  if sendable url then reaction.asked else none

section

variable (backoff : Backoff) (base : Url) (service : String) (react : Nat → Reaction)

/-- The attempts before the last one are repeated, each after its own wait. -/
private theorem exists_waits :
    ∃ last < backoff.attempts.toNat,
      (deliver backoff base service react).retries.map (fun retry => (retry.attempt, retry.wait)) =
        (List.range last).map fun attempt =>
          (attempt, backoff.wait attempt (askedAt (urlFor base service) (react attempt))) := by
  by_cases sends : sendable (urlFor base service)
  · obtain ⟨last, course⟩ := exists_course
      (fun attempt => judge_of_sendable sends (react attempt)) 0 backoff.attempts_pos
    refine ⟨last, course.last_lt, ?_⟩
    rw [deliver, course.retries, List.map_map, Nat.sub_zero, ← List.range_eq_range']
    refine List.map_congr_left fun attempt before => ?_
    obtain ⟨-, passes, -⟩ := course.repeated attempt (Nat.zero_le _) (List.mem_range.mp before)
    rw [Reaction.retryable_failure] at passes
    simp only [Function.comp, askedAt, if_pos sends, Reaction.retryAfter_failure _ passes]
  · obtain ⟨-, -, retries⟩ := deliver_of_not_sendable backoff sends react
    refine ⟨backoff.attempts.toNat - 1, Nat.sub_one_lt_of_lt backoff.attempts_pos, ?_⟩
    rw [retries, List.map_map]
    refine List.map_congr_left fun attempt _ => ?_
    simp only [Function.comp, askedAt, if_neg sends]

/-- A wait is that of the backoff, given what is asked after the same attempt. -/
theorem wait_of_mem_retries {retry : Retry}
    (listed : retry ∈ (deliver backoff base service react).retries) :
    retry.wait =
      backoff.wait retry.attempt (askedAt (urlFor base service) (react retry.attempt)) := by
  obtain ⟨last, -, waits⟩ := exists_waits backoff base service react
  have shown := List.mem_map_of_mem (f := fun retry => (retry.attempt, retry.wait)) listed
  rw [waits] at shown
  obtain ⟨attempt, -, same⟩ := List.mem_map.mp shown
  obtain ⟨rfl, same⟩ := Prod.mk.inj same
  exact same.symm

/-- There are fewer waits than attempts. -/
theorem length_retries_lt :
    (deliver backoff base service react).retries.length < backoff.attempts.toNat := by
  obtain ⟨last, within, waits⟩ := exists_waits backoff base service react
  have same := congrArg List.length waits
  rw [List.length_map, List.length_map, List.length_range] at same
  rwa [same]

end

/-- With a maximum, no wait of a delivery passes it, and none is shorter than what the orchestrator
asks after the same attempt, but for the maximum; all waits together are bounded by the maximum
for each attempt but one. With or without one, later attempts wait no shorter, unless the
coefficient is zero; a longer preference shortens no wait, and neither does a preference where
there was none. -/
theorem waits_bounded_and_ordered (backoff : Backoff) :
    (∀ maximum, backoff.maximum = some maximum →
      ∀ (base : Url) (service : String) (react : Nat → Reaction),
        let retries := (deliver backoff base service react).retries
        (∀ retry ∈ retries, retry.wait ≤ maximum) ∧
        (∀ retry ∈ retries, sendable (urlFor base service) →
          ∀ asked, (react retry.attempt).asked = some asked → min asked maximum ≤ retry.wait) ∧
        (retries.map (·.wait.toNanos)).sum ≤ (backoff.attempts.toNat - 1) * maximum.toNanos) ∧
    (1 ≤ backoff.coefficient → ∀ earlier later, earlier ≤ later → ∀ preferred,
      backoff.wait earlier preferred ≤ backoff.wait later preferred) ∧
    (∀ attempt shorter longer, shorter ≤ longer →
      backoff.wait attempt (some shorter) ≤ backoff.wait attempt (some longer)) ∧
    ∀ attempt preferred, backoff.wait attempt none ≤ backoff.wait attempt (some preferred) := by
  refine ⟨?_, fun grows earlier later order => backoff.wait_le_wait_of_le grows order,
    fun attempt shorter longer order => backoff.wait_some_le_wait_some attempt order,
    backoff.wait_none_le_wait_some⟩
  intro maximum limited base service react retries
  have within (retry : Retry) (listed : retry ∈ retries) : retry.wait ≤ maximum := by
    rw [wait_of_mem_retries backoff base service react listed]
    exact Backoff.wait_le_maximum limited _ _
  refine ⟨within, ?_, ?_⟩
  · intro retry listed sends asked told
    rw [wait_of_mem_retries backoff base service react listed, askedAt, if_pos sends, told]
    exact Backoff.min_le_wait limited _ asked
  · have fewer : retries.length ≤ backoff.attempts.toNat - 1 :=
      Nat.le_sub_one_of_lt (length_retries_lt backoff base service react)
    have each : ∀ nanos ∈ retries.map (·.wait.toNanos), nanos ≤ maximum.toNanos := by
      intro nanos among
      obtain ⟨retry, listed, rfl⟩ := List.mem_map.mp among
      exact within retry listed
    calc
      (retries.map (·.wait.toNanos)).sum ≤ retries.length * maximum.toNanos := by
        simpa using List.sum_le_card_nsmul _ _ each
      _ ≤ (backoff.attempts.toNat - 1) * maximum.toNanos := Nat.mul_le_mul_right _ fewer

/-- The orchestrator is busy throughout and asks to wait for an hour. Two waits of half a minute
are made, and no more. -/
theorem waits_bounded_and_ordered_at_hour :
    let base : Url :=
      ⟨"http", "", "", some (.name "orchestrator"), none, false, .segments [""], none, none⟩
    let delivery := deliver .standard base "lobby-1" fun _ => .answered 503 ["3600"]
    delivery.retries.length = 2 ∧
      (∀ retry ∈ delivery.retries, Duration.ofSeconds 30 ≤ retry.wait) ∧
      (delivery.retries.map (·.wait.toNanos)).sum ≤ 60 * 10 ^ 9 ∧
      Backoff.standard.wait 2 none ≤ Backoff.standard.wait 4 none ∧
      Backoff.standard.wait 0 (some (.ofSeconds 7)) ≤
        Backoff.standard.wait 0 (some (.ofSeconds 3600)) := by
  intro base delivery
  obtain ⟨bounded, later, longer, -⟩ := waits_bounded_and_ordered .standard
  obtain ⟨-, asked, total⟩ := bounded (.ofSeconds 30) rfl base "lobby-1"
    fun _ => .answered 503 ["3600"]
  have sends : sendable (urlFor base "lobby-1") := by decide +kernel
  have hour : (Reaction.answered 503 ["3600"]).asked = some (.ofSeconds 3600) := by decide +kernel
  have limited : min (Duration.ofSeconds 3600) (.ofSeconds 30) = .ofSeconds 30 := by
    decide +kernel
  have two : delivery.retries.length = 2 := by decide +kernel
  have minute : (Backoff.standard.attempts.toNat - 1) * (Duration.ofSeconds 30).toNanos =
      60 * 10 ^ 9 := by decide +kernel
  refine ⟨two, ?_, minute ▸ total, later (by decide) 2 4 (by decide) none,
    longer 0 (.ofSeconds 7) (.ofSeconds 3600) (by decide)⟩
  intro retry listed
  rw [← limited]
  exact asked retry listed sends (.ofSeconds 3600) hour

end Quiesce.StopRequest
