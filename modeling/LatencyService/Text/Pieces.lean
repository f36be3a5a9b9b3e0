/-
Texts cut at every occurrence of a separator. There is one piece more than
there are separators, and the pieces may be empty.
-/

namespace LatencyService.Pieces

/-- The characters between the occurrences of a separator. -/
def splitAt (separator : Char) : List Char → List (List Char)
  | [] => [[]]
  | char :: rest =>
    let pieces := splitAt separator rest
    if char == separator then [] :: pieces
    else
      match pieces with
      | first :: others => (char :: first) :: others
      | [] => [[char]]

/-- There always is a piece. -/
theorem splitAt_ne_nil (separator : Char) (chars : List Char) :
    splitAt separator chars ≠ [] := by
  cases chars with
  | nil => simp [splitAt]
  | cons char rest =>
    simp only [splitAt]
    split
    · simp
    · cases splitAt separator rest <;> simp

/-- The pieces with the separator between them are the text again. -/
theorem intercalate_splitAt (separator : Char) (chars : List Char) :
    List.intercalate [separator] (splitAt separator chars) = chars := by
  induction chars with
  | nil => rfl
  | cons char rest inductionHypothesis =>
    simp only [splitAt]
    cases pieces : splitAt separator rest with
    | nil => exact absurd pieces (splitAt_ne_nil separator rest)
    | cons first others =>
      rw [pieces] at inductionHypothesis
      by_cases isSeparator : char = separator
      · simpa [isSeparator, List.intercalate, List.intersperse] using inductionHypothesis
      · cases others <;>
          simpa [isSeparator, List.intercalate, List.intersperse] using inductionHypothesis

end LatencyService.Pieces
