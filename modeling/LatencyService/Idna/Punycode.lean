/-
Punycode: characters of any script written in letters, digits and hyphens. The
ASCII characters come first as they are, and behind the last hyphen stand the
others, in rising order, each as the distance that the insertion point moves
from the one before it. A distance is a number of variable length in base 36,
whose digits below a moving threshold end it.
-/

import LatencyService.Text.Ascii

namespace LatencyService.Punycode

/-! ### Digits and thresholds -/

/-- The digit of a value below thirty-six: letters first, then the decimal digits. -/
def digitOf (value : Nat) : Char :=
  if value < 26 then Char.ofNat (0x61 + value) else Char.ofNat (0x16 + value)

/-- The value of a digit; capitals are none. -/
def valueOf? (char : Char) : Option Nat :=
  if 'a' ≤ char && char ≤ 'z' then some (char.toNat - 0x61)
  else if '0' ≤ char && char ≤ '9' then some (char.toNat - 0x16)
  else none

/-- The threshold of a digit, from its place (36 for the first, 72 for the second and so on) and
the bias. -/
def threshold (place bias : Nat) : Nat :=
  if place ≤ bias then 1 else if place ≥ bias + 26 then 26 else place - bias

/-- A distance scaled down to where it decides the bias, and what the scaling adds to it. -/
def scaleDown (distance added : Nat) : Nat × Nat :=
  if 455 < distance then scaleDown (distance / 35) (added + 36) else (distance, added)
termination_by distance
decreasing_by omega

/-- The bias after a distance; `count` characters stand then. -/
def adapt (distance count : Nat) (isFirst : Bool) : Nat :=
  let damped := if isFirst then distance / 700 else distance / 2
  let (scaled, added) := scaleDown (damped + damped / count) 0
  added + 36 * scaled / (scaled + 38)

/-! ### Writing -/

/-- The digits of a distance; `fuel` bounds their number. -/
def digitsOf (bias fuel place distance : Nat) : List Char :=
  match fuel with
  | 0 => []
  | fuel + 1 =>
    let limit := threshold place bias
    if distance < limit then [digitOf distance]
    else
      let above := distance - limit
      digitOf (limit + above % (36 - limit)) ::
        digitsOf bias fuel (place + 36) (above / (36 - limit))

/-- Where the writing stands: all characters up to `code` have been written, `handled` of them in
all. -/
structure Progress where
  distance : Nat
  bias : Nat
  handled : Nat
  isFirst : Bool
  /-- The digits so far, in reverse. -/
  written : List Char

/-- Write all occurrences of one code point, from the left to the right. -/
def writeOccurrences (code : Nat) (chars : List Char) (progress : Progress) : Progress :=
  chars.foldl (fun progress char =>
    if char.toNat < code then { progress with distance := progress.distance + 1 }
    else if char.toNat = code then
      { distance := 0
        bias := adapt progress.distance (progress.handled + 1) progress.isFirst
        handled := progress.handled + 1
        isFirst := false
        written := (digitsOf progress.bias (progress.distance + 1) 36 progress.distance).reverse ++
          progress.written }
    else progress) progress

/-- Write the characters from a code point upwards; every round writes at least one, and so `fuel`
may be their number. -/
def writeFrom (chars : List Char) (fuel code : Nat) (progress : Progress) : Progress :=
  match fuel with
  | 0 => progress
  | fuel + 1 =>
    match ((chars.map Char.toNat).filter (code ≤ ·)).min? with
    | none => progress
    | some next =>
      let distance := progress.distance + (next - code) * (progress.handled + 1)
      let progress := writeOccurrences next chars { progress with distance := distance }
      writeFrom chars fuel (next + 1) { progress with distance := progress.distance + 1 }

/-- The characters in letters, digits and hyphens. -/
def encode (chars : List Char) : List Char :=
  let basic := chars.filter (·.toNat < 0x80)
  let start : Progress := ⟨0, 72, basic.length, true, []⟩
  let progress := writeFrom chars chars.length 0x80 start
  (if basic.isEmpty then [] else basic ++ ['-']) ++ progress.written.reverse

/-! ### Reading -/

/-- The distance at the front, and what follows it; `none` when a character is no digit or the
number does not end. -/
def readDistance? (bias place weight value : Nat) : List Char → Option (Nat × List Char)
  | [] => none
  | char :: rest =>
    match valueOf? char with
    | none => none
    | some digit =>
      let limit := threshold place bias
      let value := value + digit * weight
      if digit < limit then some (value, rest)
      else readDistance? bias (place + 36) (weight * (36 - limit)) value rest

/-- Insert the characters that the digits tell. Every distance has a digit, and so `fuel` may be
the number of digits. -/
def insertAll? (fuel position code bias : Nat) (done digits : List Char) : Option (List Char) :=
  match fuel, digits with
  | _, [] => some done
  | 0, _ => none
  | fuel + 1, digits =>
    match readDistance? bias 36 1 0 digits with
    | none => none
    | some (distance, rest) =>
      let count := done.length + 1
      let next := code + (position + distance) / count
      let place := (position + distance) % count
      if next.isValidChar then
        insertAll? fuel (place + 1) next (adapt distance count (position == 0))
          (done.take place ++ Char.ofNat next :: done.drop place) rest
      else none

/-- What precedes and what follows the last hyphen; nothing precedes when there is none, or when
it comes first. -/
def splitBasic (chars : List Char) : List Char × List Char :=
  let digits := (chars.reverse.takeWhile (· != '-')).reverse
  let basic := chars.take (chars.length - digits.length - 1)
  if basic.isEmpty then ([], chars) else (basic, digits)

/-- The characters that a text in letters, digits and hyphens writes. -/
def decode? (chars : List Char) : Option (List Char) :=
  let (basic, digits) := splitBasic chars
  if basic.all (·.toNat < 0x80) then insertAll? digits.length 0 0x80 72 basic digits else none

end LatencyService.Punycode
