/-
What the service counts: answered requests by endpoint and status, and relayed
calls by the status they brought or their failure. A page shows all counts that
are not zero, one line each.
-/

import LatencyService.Http.Route

namespace LatencyService

/-- Counts by key; keys that were never counted have none. -/
structure Tally (Key : Type) where
  entries : List (Key × Nat) := []
  deriving Repr, Inhabited

namespace Tally

variable {Key : Type} [DecidableEq Key]

/-- The entries with one more for a key. -/
def increment (key : Key) : List (Key × Nat) → List (Key × Nat)
  | [] => [(key, 1)]
  | (other, count) :: rest =>
    if other = key then (other, count + 1) :: rest else (other, count) :: increment key rest

/-- Count a key once more. -/
def add (tally : Tally Key) (key : Key) : Tally Key := ⟨increment key tally.entries⟩

/-- How often a key was counted. -/
def count (tally : Tally Key) (key : Key) : Nat :=
  ((tally.entries.find? fun entry => entry.1 = key).map (·.2)).getD 0

/-- Nothing has been counted at first. -/
@[simp] theorem count_empty (key : Key) : count (⟨[]⟩ : Tally Key) key = 0 := rfl

/-- Counting a key adds one to its own count and leaves the others. -/
theorem count_add (tally : Tally Key) (key other : Key) :
    (tally.add key).count other = tally.count other + if other = key then 1 else 0 := by
  obtain ⟨entries⟩ := tally
  simp only [count, add]
  induction entries with
  | nil =>
    by_cases same : key = other
    · simp [increment, same]
    · simp [increment, same, Ne.symm same]
  | cons entry rest inductionHypothesis =>
    obtain ⟨first, times⟩ := entry
    by_cases isKey : first = key
    · subst isKey
      by_cases isOther : first = other
      · simp [increment, isOther]
      · simp [increment, isOther, Ne.symm isOther]
    · by_cases isOther : first = other
      · subst isOther
        simp [increment, isKey]
      · simpa [increment, isKey, isOther] using inductionHypothesis

end Tally

/-- The counts of the service. -/
structure Metrics where
  /-- Answered requests by endpoint and status. -/
  requests : Tally (Http.Route × Nat) := {}
  /-- Measured durations by endpoint. -/
  durations : Tally Http.Route := {}
  /-- Relayed calls by the status they brought; those that brought none failed. -/
  relays : Tally (Option Nat) := {}
  deriving Repr, Inhabited

namespace Metrics

/-- Count an answered request. -/
def recordRequest (metrics : Metrics) (route : Http.Route) (status : Nat) : Metrics :=
  { metrics with
    requests := metrics.requests.add (route, status)
    durations := metrics.durations.add route }

/-- Count a relayed call. -/
def recordRelay (metrics : Metrics) (status : Option Nat) : Metrics :=
  { metrics with relays := metrics.relays.add status }

/-! ### The page -/

/-- A line of the page: a name, labels and a count. -/
def line (name : String) (labels : List (String × String)) (count : Nat) : String :=
  name ++ "\x7b" ++
    String.intercalate "," (labels.map fun label => label.1 ++ "=\"" ++ label.2 ++ "\"") ++
    "\x7d " ++ toString count

/-- The lines of the page, sorted. -/
def page (metrics : Metrics) : List String :=
  let requests := metrics.requests.entries.map fun ((route, status), count) =>
    line "demo_requests_total" [("endpoint", route.path), ("status", toString status)] count
  let durations := metrics.durations.entries.map fun (route, count) =>
    line "demo_request_duration_seconds_count" [("endpoint", route.path)] count
  let relays := metrics.relays.entries.map fun (status, count) =>
    line "demo_outbound_calls_total" [("status", (status.map toString).getD "error")] count
  (requests ++ durations ++ relays).mergeSort fun left right => decide (left ≤ right)

end Metrics

end LatencyService
