/-
Numbers in binary floating point of double width, taken apart into sign,
mantissa and exponent. A finite number other than zero is a mantissa times a
power of two; the numbers that read back as it form an interval around it,
which includes its ends when the mantissa is even.
-/

namespace LatencyService

/-- What a pattern of sixty-four bits stands for, its sign apart. -/
inductive Magnitude where
  | zero
  /-- The mantissa, not zero, times two to the exponent. -/
  | finite (mantissa : Nat) (exponent : Int)
  | infinite
  | undefined
  deriving DecidableEq, Repr

namespace Binary64

/-- The sign bit is set. -/
def isNegative (bits : UInt64) : Bool := 0x8000000000000000 ≤ bits.toNat

/-- The leading bit of a mantissa, which is not stored: two to the fifty-second. -/
def leadingBit : Nat := 0x10000000000000

/-- The magnitude of a number given by its bits. -/
def magnitude (bits : UInt64) : Magnitude :=
  let exponent : Nat := bits.toNat / leadingBit % 0x800
  let fraction : Nat := bits.toNat % leadingBit
  if exponent = 0 then
    if fraction = 0 then .zero else .finite fraction (-1074)
  else if exponent = 2047 then
    if fraction = 0 then .infinite else .undefined
  else .finite (leadingBit + fraction) ((exponent : Int) - 1075)

/-- The number nearest to the significand times ten to the exponent, by its bits. Exponents
beyond the range of the format give infinity or zero at once. -/
def ofDecimal (significand : Nat) (exponent : Int) : UInt64 :=
  let digits : Int := (Nat.toDigits 10 significand).length
  if significand = 0 then (0.0 : Float).toBits
  else if exponent + digits > 310 then (1.0 / 0.0 : Float).toBits
  else if exponent + digits < -330 then (0.0 : Float).toBits
  else if exponent < 0 then (Float.ofScientific significand true exponent.natAbs).toBits
  else (Float.ofScientific significand false exponent.toNat).toBits

/-- The number with the opposite sign. -/
def negate (bits : UInt64) : UInt64 := bits ^^^ 0x8000000000000000

end Binary64

end LatencyService
