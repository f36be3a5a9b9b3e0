/-
What the documents say that the service writes, read back as trees: texts under
their keys, a list of texts, and the parts of a problem, which come back in the
order of their keys.
-/

import LatencyService.Envelope.Reply
import LatencyService.Http.Problem
import LatencyService.Proofs.Writing

namespace LatencyService

/-! ### Texts -/

namespace Json

/-- Texts as they are written under their keys. -/
def textEntries (texts : List (String × String)) : List TreeEntry :=
  texts.map fun entry => ⟨entry.1, quote entry.2, .text entry.2⟩

theorem textEntries_writes (texts : List (String × String)) :
    ∀ entry ∈ textEntries texts, Writes 0 entry.written entry.tree := by
  intro entry member
  obtain ⟨text, -, rfl⟩ := List.mem_map.1 member
  exact quote_writes text.2

/-- A list of texts. -/
theorem textItems_write (texts : List String) :
    Writes 1 (array (texts.map quote)) (.list (texts.map .text)) := by
  let items : List TreeItem := texts.map fun text => ⟨quote text, .text text⟩
  have written : items.map TreeItem.written = texts.map quote := by
    rw [List.map_map]
    rfl
  have trees : items.map TreeItem.tree = texts.map .text := by
    rw [List.map_map]
    rfl
  rw [← written, ← trees]
  refine array_writes (fun item member => ?_) fun item member => ?_
  · obtain ⟨text, -, rfl⟩ := List.mem_map.1 member
    exact quote_writes text
  · obtain ⟨text, -, rfl⟩ := List.mem_map.1 member
    exact begins_quote text

end Json

/-! ### Problems -/

namespace Http.Problem

/-- The table of a problem: its parts under their keys, in the order of keys. -/
def entries (problem : Problem) : List (String × Tree) :=
  (if problem.details.isEmpty then []
    else [("details", .list (problem.details.map .text))]) ++
    [("error", .text problem.code), ("message", .text problem.message)]

/-- The document of a problem is read back as the table of its parts. -/
theorem document_writes_entries (problem : Problem) :
    Json.Writes 2 problem.document (.table problem.entries) := by
  let parts : List Json.TreeEntry :=
    [ ⟨"error", Json.quote problem.code, .text problem.code⟩,
      ⟨"message", Json.quote problem.message, .text problem.message⟩ ] ++
      if problem.details.isEmpty then []
      else [⟨"details", Json.array (problem.details.map Json.quote),
        .list (problem.details.map .text)⟩]
  have same : problem.document = Json.object (parts.map Json.TreeEntry.pair) := by
    cases none_violated : problem.details.isEmpty <;> simp only [document, parts, none_violated] <;>
      rfl
  have sorted : Json.insertAll [] parts = problem.entries := by
    cases none_violated : problem.details.isEmpty <;>
      simp only [parts, entries, none_violated, Json.insertAll, Tree.insertSorted, List.append_nil,
        List.nil_append, List.cons_append, List.foldl_cons, List.foldl_nil, String.reduceLT,
        String.reduceBEq, Bool.false_eq_true, ↓reduceIte]
  have each : ∀ entry ∈ parts, Json.Writes 1 entry.written entry.tree := by
    intro entry member
    rcases List.mem_append.1 member with text | details
    · simp only [List.mem_cons, List.not_mem_nil, or_false] at text
      rcases text with rfl | rfl <;> exact (Json.quote_writes _).mono (Nat.zero_le 1)
    · split at details
      · cases details
      · rw [List.mem_singleton.1 details]
        exact Json.textItems_write problem.details
  rw [same, ← sorted]
  exact Json.object_writes each

/-- The document of a problem that is a list of violated constraints holds just that list. -/
theorem document_parses {details : List String} (some_details : details ≠ []) :
    ∃ tree, Json.parse (Octets.ofText (invalid details).document) = .ok tree ∧
      tree.get? "error" = some (.text "validation_failed") ∧
      tree.get? "message" = some (.text (invalid details).message) ∧
      tree.get? "details" = some (.list (details.map .text)) := by
  have present : details.isEmpty = false := List.isEmpty_eq_false_iff.2 some_details
  have sorted : (invalid details).entries =
      [ ("details", .list (details.map .text)), ("error", .text "validation_failed"),
        ("message", .text (invalid details).message) ] := by
    rw [entries, Problem.details, present]
    rfl
  refine ⟨.table (invalid details).entries,
    ((invalid details).document_writes_entries).parse (by decide), ?_⟩
  rw [sorted]
  exact ⟨rfl, rfl, rfl⟩

end Http.Problem

end LatencyService
