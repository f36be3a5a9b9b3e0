/-
Sets of code points given by their ranges. A table is written as numbers in
turn: how many code points lie outside the set, then how many lie in it, and
so on from zero upwards. Written so, the ranges come out in rising order and
never touch, which is what the search relies on.
-/

import LatencyService.Text.Ascii

namespace LatencyService

/-- A set of code points, as ranges `(first, last)` in rising order. -/
structure CodeRanges where
  ranges : Array (Nat × Nat)

namespace CodeRanges

/-- The numbers written in decimal between the blanks of a text. -/
def numbersOf (text : String) : List Nat :=
  let step := fun (state : List Nat × Option Nat) (char : Char) =>
    if Ascii.isDigit char then
      (state.1, some (state.2.getD 0 * 10 + Ascii.digitValue char))
    else
      match state.2 with
      | some number => (number :: state.1, none)
      | none => (state.1, none)
  let last := text.toList.foldl step ([], none)
  (last.2.toList ++ last.1).reverse

/-- The ranges after a position, from gaps and lengths in turn. -/
def rangesFrom (position : Nat) : List Nat → List (Nat × Nat)
  | gap :: length :: rest =>
    (position + gap, position + gap + length - 1) :: rangesFrom (position + gap + length) rest
  | _ => []

/-- The set that a table of gaps and lengths describes. -/
def ofGaps (table : String) : CodeRanges := ⟨(rangesFrom 0 (numbersOf table)).toArray⟩

/-- Whether one of the ranges with an index from `low` up to but not including `high` holds the
code point. -/
def search (ranges : Array (Nat × Nat)) (code low high : Nat) : Bool :=
  if low < high then
    let middle := (low + high) / 2
    match ranges[middle]? with
    | none => false
    | some (first, last) =>
      if code < first then search ranges code low middle
      else if last < code then search ranges code (middle + 1) high
      else true
  else false
termination_by high - low

/-- The code point belongs to the set. -/
def contains (set : CodeRanges) (code : Nat) : Bool := search set.ranges code 0 set.ranges.size

end CodeRanges

end LatencyService
