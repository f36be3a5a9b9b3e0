/-
How much two words have in common: characters that both hold at nearly the
same place count for it, and those among them that stand in another order
against it.
-/

namespace LatencyService.Similarity

/-- A character and whether it has found its like. -/
abbrev Marked := List (Char × Bool)

/-- Mark the first free character that is the given one, at indices from `first` to `last`; `none`
when there is none. -/
def mark? (char : Char) (first last : Nat) : Nat → Marked → Option Marked
  | _, [] => none
  | index, (other, isTaken) :: rest =>
    if first ≤ index && index ≤ last && other == char && !isTaken then some ((other, true) :: rest)
    else (mark? char first last (index + 1) rest).map ((other, isTaken) :: ·)

/-- The characters of the first word that find their like in the second, each within `reach` of its
own place, and the second word with those marked. -/
def pairUp (reach : Nat) : Nat → List Char → Marked → List Char × Marked
  | _, [], marked => ([], marked)
  | index, char :: rest, marked =>
    match mark? char (index - reach) (index + reach) 0 marked with
    | none => pairUp reach (index + 1) rest marked
    | some marked =>
      let (paired, marked) := pairUp reach (index + 1) rest marked
      (char :: paired, marked)

/-- The likeness of two words as a fraction: the mean of the shares of paired characters in either
word and of the pairs that stand in order. -/
def likeness (first second : List Char) : Nat × Nat :=
  let reach := max first.length second.length / 2 - 1
  let (paired, marked) := pairUp reach 0 first (second.map (·, false))
  let others := (marked.filter (·.2)).map (·.1)
  let count := paired.length
  let swapped := ((paired.zip others).filter fun pair => pair.1 != pair.2).length / 2
  if first.isEmpty && second.isEmpty then (1, 1)
  else if count = 0 then (0, 1)
  else
    ( count * second.length * count + count * first.length * count +
        (count - swapped) * first.length * second.length,
      3 * first.length * second.length * count )

/-- The first fraction is less than the second, or equal to it. -/
def atMost (first second : Nat × Nat) : Bool := first.1 * second.2 ≤ second.1 * first.2

/-- Two words are so much alike that one may be meant for the other. -/
def isClose (likeness : Nat × Nat) : Bool := !atMost likeness (7, 10)

/-- Of the words that are close to a given one, the closest, and of equally close ones the last. -/
def closest? (word : String) (candidates : List String) : Option String :=
  let step := fun (best : Option (String × (Nat × Nat))) (candidate : String) =>
    let current := likeness word.toList candidate.toList
    if !isClose current then best
    else
      match best with
      | some (_, other) => if atMost other current then some (candidate, current) else best
      | none => some (candidate, current)
  (candidates.foldl step none).map (·.1)

end LatencyService.Similarity
