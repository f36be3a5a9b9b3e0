/-
Texts without what stands at one of their ends. A stretch may stand there
several times, one behind the other, and is taken off as often as it does.
-/

namespace LatencyService.Affix

/-- The text without the stretch at its beginning, however often it stands there. -/
def trimStart (stretch text : List Char) : List Char :=
  if stretch ≠ [] ∧ stretch <+: text then trimStart stretch (text.drop stretch.length)
  else text
termination_by text.length
decreasing_by
  rename_i there
  have filled : 0 < stretch.length := List.length_pos_iff.2 there.1
  have fits : stretch.length ≤ text.length := there.2.length_le
  rw [List.length_drop]
  omega

/-- The text without the stretch at its end, however often it stands there. -/
def trimEnd (stretch text : List Char) : List Char :=
  (trimStart stretch.reverse text.reverse).reverse

variable {stretch text rest : List Char}

theorem trimStart_append (filled : stretch ≠ []) (text : List Char) :
    trimStart stretch (stretch ++ text) = trimStart stretch text := by
  rw [trimStart, if_pos ⟨filled, List.prefix_append stretch text⟩, List.drop_left]

theorem trimStart_of_not_prefix (apart : ¬stretch <+: text) : trimStart stretch text = text := by
  rw [trimStart, if_neg fun there => apart there.2]

theorem trimStart_replicate (filled : stretch ≠ []) (count : Nat) (text : List Char) :
    trimStart stretch ((List.replicate count stretch).flatten ++ text) = trimStart stretch text := by
  induction count with
  | zero => rfl
  | succ count inductionHypothesis =>
    rw [List.replicate_succ, List.flatten_cons, List.append_assoc, trimStart_append filled,
      inductionHypothesis]

/-- What is taken off is nothing but the stretch, and none of it is left. -/
theorem trimStart_spec (filled : stretch ≠ []) (text : List Char) :
    (∃ count, text = (List.replicate count stretch).flatten ++ trimStart stretch text) ∧
      ¬stretch <+: trimStart stretch text := by
  fun_induction trimStart stretch text with
  | case1 text there inductionHypothesis =>
    obtain ⟨⟨count, parts⟩, apart⟩ := inductionHypothesis
    refine ⟨⟨count + 1, ?_⟩, apart⟩
    rw [List.replicate_succ, List.flatten_cons, List.append_assoc, ← parts]
    exact (List.prefix_iff_eq_append.1 there.2).symm
  | case2 text there => exact ⟨⟨0, rfl⟩, fun begins => there ⟨filled, begins⟩⟩

theorem trimStart_eq_iff (filled : stretch ≠ []) :
    trimStart stretch text = rest ↔
      (∃ count, text = (List.replicate count stretch).flatten ++ rest) ∧ ¬stretch <+: rest := by
  constructor
  · rintro rfl
    exact trimStart_spec filled text
  · rintro ⟨⟨count, rfl⟩, apart⟩
    rw [trimStart_replicate filled, trimStart_of_not_prefix apart]

theorem trimEnd_eq_iff (filled : stretch ≠ []) :
    trimEnd stretch text = rest ↔
      (∃ count, text = rest ++ (List.replicate count stretch).flatten) ∧ ¬stretch <:+ rest := by
  have mirrored (count : Nat) : (List.replicate count stretch.reverse).flatten =
      (List.replicate count stretch).flatten.reverse := by
    rw [List.reverse_flatten, List.map_replicate, List.reverse_replicate]
  rw [trimEnd, List.reverse_eq_iff, trimStart_eq_iff (List.reverse_ne_nil_iff.2 filled),
    List.reverse_prefix]
  simp only [mirrored, ← List.reverse_append, List.reverse_inj]

end LatencyService.Affix
