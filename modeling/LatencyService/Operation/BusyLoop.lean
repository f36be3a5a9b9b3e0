/-
The busy loop: rounds of matches of one subject against one pattern, counted
in a word of sixty-four bits. The pattern asks for a capital F at the
beginning of the subject and for no line break after it.
-/

namespace LatencyService.BusyLoop

/-- What is matched over and over. -/
def subject : String := "Foo"

/-- The subject begins with a capital F and goes on to its end without a line break. -/
def isMatch (subject : String) : Bool :=
  match subject.toList with
  | 'F' :: rest => rest.all (· != '\n')
  | _ => false

/-- The count after one round of the given number of matches. -/
def round (hit : Bool) : Nat → UInt64 → UInt64
  | 0, count => count
  | iterations + 1, count => round hit iterations (if hit then count + 1 else count)

/-- The count after the given number of rounds. -/
def run (hit : Bool) (iterations : Nat) : Nat → UInt64 → UInt64
  | 0, count => count
  | rounds + 1, count => run hit iterations rounds (round hit iterations count)

/-- How many matches were counted. -/
def burn (rounds iterations : UInt64) : UInt64 :=
  run (isMatch subject) iterations.toNat rounds.toNat 0

end LatencyService.BusyLoop
