/-
# The agent's counters

The agent counts what it does. Each series counts one kind of outcome, told
apart by labels; a series that was never counted stands at zero.
-/

import Quiesce.Gate
import Quiesce.Text.Digits

namespace Quiesce

/-- What is counted. -/
inductive Series where
  /-- Judged transitions of proxies, by verdict. -/
  | decisions (verdict : Verdict)
  /-- Polls of the load balancer, by the standing found; none for an unknown proxy. -/
  | polls (standing : Option Standing)
  /-- Polls that ended without an answer, and connections that could not be taken. -/
  | pollErrors
  /-- Answered requests for a stop, by whether they were delivered. -/
  | stopRequests (delivered : Bool)
  /-- Accepted overrides, by the standing they set. -/
  | overrides (standing : Standing)
  /-- Requests to the API, by method, route and status. -/
  | requests (method route : String) (status : Nat)
  /-- Measured latencies of requests to the API, with the same labels. -/
  | latencies (method route : String) (status : Nat)
  deriving DecidableEq, Repr

namespace Series

/-- A value of a label between quotes. -/
def quotedLabel (value : String) : String :=
  String.ofList ('"' :: (value.toList.flatMap escape ++ ['"']))
where
  /-- Quotes, backslashes and line ends are written with a backslash. -/
  escape : Char → List Char
    | '"' => ['\\', '"']
    | '\\' => ['\\', '\\']
    | '\n' => ['\\', 'n']
    | c => [c]

/-- The labels of a series between braces. -/
def labelSet (labels : List (String × String)) : String :=
  let pairs := labels.map fun (name, value) => name ++ "=" ++ quotedLabel value
  "\x7b" ++ ",".intercalate pairs ++ "\x7d"

/-- The labels of a series of API requests. -/
def requestLabels (method route : String) (status : Nat) : String :=
  labelSet [("method", method), ("route", route), ("status", decimal status)]

/-- The name of a series with its labels. -/
def text : Series → String
  | .decisions verdict =>
    "proxy_drain_lifecycle_decisions_total" ++ labelSet [("decision", verdict.label)]
  | .polls standing =>
    let state := (standing.map Standing.label).getD "unknown"
    "proxy_drain_agent_checks_total" ++ labelSet [("state", state)]
  | .pollErrors => "proxy_drain_agent_check_errors_total"
  | .stopRequests delivered =>
    let outcome := if delivered then "delivered" else "failed"
    "proxy_drain_stop_requests_total" ++ labelSet [("outcome", outcome)]
  | .overrides standing =>
    "proxy_drain_manual_overrides_total" ++ labelSet [("state", standing.label)]
  | .requests method route status =>
    "proxy_drain_api_requests_total" ++ requestLabels method route status
  | .latencies method route status =>
    "proxy_drain_api_request_duration_seconds_count" ++ requestLabels method route status

end Series

/-- The counted series with their counts, each series once. -/
structure Tally where
  counts : List (Series × Nat)
  deriving Repr

namespace Tally

/-- Nothing has been counted. -/
def empty : Tally :=
  ⟨[]⟩

/-- The count of a series. -/
def count (tally : Tally) (series : Series) : Nat :=
  (tally.counts.lookup series).getD 0

/-- Count a series once more. -/
def bump (tally : Tally) (series : Series) : Tally :=
  ⟨go tally.counts⟩
where
  /-- Raise the count of the series where it stands, or add it at the end. -/
  go : List (Series × Nat) → List (Series × Nat)
    | [] => [(series, 1)]
    | (other, count) :: rest =>
      if other = series then (other, count + 1) :: rest else (other, count) :: go rest

/-- The counted series with their counts, a line for each. -/
def text (tally : Tally) : String :=
  String.join (tally.counts.map fun (series, count) => s!"{series.text} {decimal count}\n")

/-- Counting a series raises its count by one and leaves all others. -/
theorem count_bump (tally : Tally) (series other : Series) :
    (tally.bump series).count other = tally.count other + if other = series then 1 else 0 := by
  obtain ⟨counts⟩ := tally
  have unequal {first second : Series} (different : first ≠ second) :
      (first == second) = false := by simpa using different
  simp only [bump, count]
  induction counts with
  | nil => by_cases same : other = series <;> simp [bump.go, List.lookup_cons, same, unequal]
  | cons head rest ih =>
    obtain ⟨first, amount⟩ := head
    by_cases here : first = series
    · subst here
      by_cases same : other = first <;> simp [bump.go, List.lookup_cons, same, unequal]
    · by_cases same : other = first
      · subst same
        simp [bump.go, here]
      · simpa [bump.go, List.lookup_cons, here, unequal same] using ih

end Tally

end Quiesce
