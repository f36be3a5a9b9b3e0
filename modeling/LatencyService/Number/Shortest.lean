/-
The shortest decimal that reads back as a given binary number. Among the
decimals of one, two, three and more digits the first grid that has a point in
the interval of the number is taken, and on that grid the point nearest to the
number; all comparisons are between whole numbers.
-/

import LatencyService.Number.Binary64

namespace LatencyService

/-- A decimal: the digits, read as a whole number, times ten to the exponent. -/
structure Decimal where
  digits : Nat
  exponent : Int
  deriving DecidableEq, Repr

namespace Decimal

/-- An interval around a positive number, all three as numerators over one denominator. -/
structure Interval where
  low : Nat
  middle : Nat
  high : Nat
  denominator : Nat
  /-- The ends belong to the interval. -/
  closed : Bool

/-- The interval of the decimals that read back as `mantissa` times two to the exponent. Below a
power of two the neighbours are twice as near. -/
def Interval.around (mantissa : Nat) (exponent : Int) : Interval :=
  let below := if mantissa = Binary64.leadingBit && exponent > -1074 then 1 else 2
  let up := if exponent < 0 then 1 else Nat.pow 2 exponent.toNat
  let down := if exponent < 0 then Nat.pow 2 exponent.natAbs else 1
  { low := (4 * mantissa - below) * up
    middle := 4 * mantissa * up
    high := (4 * mantissa + 2) * up
    denominator := 4 * down
    closed := mantissa % 2 == 0 }

/-- The least number of places before the point that hold the number, negative when zeros follow
the point; `fuel` bounds the zeros. -/
def placesBelowOne (fuel : Nat) (middle denominator : Nat) : Int :=
  match fuel with
  | 0 => 0
  | fuel + 1 =>
    if middle * 10 ≥ denominator then 0 else placesBelowOne fuel (middle * 10) denominator - 1

/-- The least power of ten above the number. -/
def Interval.places (interval : Interval) : Int :=
  if interval.middle ≥ interval.denominator then
    ((Nat.toDigits 10 (interval.middle / interval.denominator)).length : Nat)
  else placesBelowOne 400 interval.middle interval.denominator

/-- The point of the grid of ten to the exponent that lies in the interval, the nearer one of
two. -/
def Interval.pointOn? (interval : Interval) (exponent : Int) : Option Nat :=
  let up := if exponent < 0 then Nat.pow 10 exponent.natAbs else 1
  let unit := interval.denominator * (if exponent < 0 then 1 else Nat.pow 10 exponent.toNat)
  let middle := interval.middle * up
  let lower := middle / unit
  let upper := lower + 1
  let lowerIn :=
    if interval.closed then interval.low * up ≤ lower * unit else interval.low * up < lower * unit
  let upperIn :=
    if interval.closed then upper * unit ≤ interval.high * up else upper * unit < interval.high * up
  if lowerIn then
    if upperIn then
      let toLower := middle - lower * unit
      let toUpper := upper * unit - middle
      if toLower < toUpper || (toLower = toUpper && lower % 2 = 0) then some lower else some upper
    else some lower
  else if upperIn then some upper
  else none

/-- The decimal without zeros at the end of its digits. -/
def dropZeros (fuel : Nat) (decimal : Decimal) : Decimal :=
  match fuel with
  | 0 => decimal
  | fuel + 1 =>
    if decimal.digits != 0 && decimal.digits % 10 == 0 then
      dropZeros fuel ⟨decimal.digits / 10, decimal.exponent + 1⟩
    else decimal

/-- The first grid of at least `count` digits that has a point in the interval. -/
def Interval.shortestFrom (interval : Interval) (places : Int) (count fuel : Nat) : Decimal :=
  match fuel with
  | 0 => ⟨0, 0⟩
  | fuel + 1 =>
    match interval.pointOn? (places - count) with
    | some digits => dropZeros 20 ⟨digits, places - count⟩
    | none => interval.shortestFrom places (count + 1) fuel

/-- The shortest decimal that reads back as `mantissa` times two to the exponent; seventeen digits
always suffice. -/
def shortest (mantissa : Nat) (exponent : Int) : Decimal :=
  let interval := Interval.around mantissa exponent
  interval.shortestFrom interval.places 1 18

/-! ### Writing a decimal -/

/-- That many zeros. -/
def zeros (count : Nat) : String := String.ofList (List.replicate count '0')

/-- The decimal without an exponent, with at least one digit on each side of the point. -/
def positional (decimal : Decimal) : String :=
  let digits := (Nat.toDigits 10 decimal.digits)
  let point : Int := digits.length + decimal.exponent
  if 0 ≤ decimal.exponent then
    String.ofList digits ++ zeros decimal.exponent.toNat ++ ".0"
  else if 0 < point then
    String.ofList (digits.take point.toNat) ++ "." ++ String.ofList (digits.drop point.toNat)
  else "0." ++ zeros point.natAbs ++ String.ofList digits

/-- The decimal as one digit, the others after the point, and an exponent of at least two digits
with its sign. -/
def scientific (decimal : Decimal) : String :=
  let digits := (Nat.toDigits 10 decimal.digits)
  let exponent : Int := digits.length + decimal.exponent - 1
  let power := toString exponent.natAbs
  String.ofList (digits.take 1) ++
    (if digits.length > 1 then "." ++ String.ofList (digits.drop 1) else "") ++
    (if exponent < 0 then "e-" else "e+") ++ (if power.length < 2 then "0" ++ power else power)

/-- The decimal with an exponent where its point would stand more than sixteen places after the
first digit, or more than four zeros would follow the point. -/
def compact (decimal : Decimal) : String :=
  let point : Int := (Nat.toDigits 10 decimal.digits).length + decimal.exponent
  if -5 < point && point ≤ 16 then decimal.positional else decimal.scientific

end Decimal

namespace Binary64

/-- The text of a number whose finite magnitudes are written by `write`. -/
def textWith (write : Decimal → String) (bits : UInt64) : String :=
  let sign := if isNegative bits then "-" else ""
  match magnitude bits with
  | .zero => sign ++ "0.0"
  | .finite mantissa exponent => sign ++ write (Decimal.shortest mantissa exponent)
  | .infinite => sign ++ "inf"
  | .undefined => "NaN"

/-- The shortest text, with an exponent for very large and very small numbers. -/
def compactText (bits : UInt64) : String := textWith Decimal.compact bits

/-- The shortest text without an exponent. -/
def positionalText (bits : UInt64) : String := textWith Decimal.positional bits

end Binary64

end LatencyService
