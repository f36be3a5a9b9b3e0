/-
Letters of the ASCII alphabet without their case, and numbers in decimal and
hexadecimal digits. Characters outside ASCII have no case here, whatever case
they have in their own script, and none of them is a digit.
-/

namespace LatencyService.Ascii

/-! ### Case -/

/-- The character with an ASCII capital made small. -/
def lowerChar (char : Char) : Char :=
  if 'A' ≤ char && char ≤ 'Z' then Char.ofNat (char.toNat + 32) else char

/-- The text with its ASCII capitals made small. -/
def lower (text : String) : String := String.ofList (text.toList.map lowerChar)

/-! ### Digits -/

/-- A decimal digit. -/
def isDigit (char : Char) : Bool := '0' ≤ char && char ≤ '9'

/-- A hexadecimal digit of either case. -/
def isHexDigit (char : Char) : Bool :=
  isDigit char || ('a' ≤ char && char ≤ 'f') || ('A' ≤ char && char ≤ 'F')

/-- A letter of either case. -/
def isLetter (char : Char) : Bool := ('a' ≤ char && char ≤ 'z') || ('A' ≤ char && char ≤ 'Z')

/-- The value of a digit in bases up to sixteen. -/
def digitValue (char : Char) : Nat :=
  if isDigit char then char.toNat - 0x30
  else if 'a' ≤ char then char.toNat - 0x57
  else char.toNat - 0x37

/-- The number that the digits write in the base, the most significant first. -/
def valueOf (base : Nat) (digits : List Char) : Nat :=
  digits.foldl (fun value digit => value * base + digitValue digit) 0

/-- The number written by one or more decimal digits and nothing else. -/
def decimal? (chars : List Char) : Option Nat :=
  if chars.isEmpty || !chars.all isDigit then none else some (valueOf 10 chars)

/-- The number below the limit that decimal digits write, perhaps after a plus sign. -/
def unsigned? (limit : Nat) (chars : List Char) : Option Nat :=
  let digits := match chars with
    | '+' :: rest => rest
    | _ => chars
  (decimal? digits).filter (· < limit)

/-- A small hexadecimal digit. -/
def hexDigit (value : Nat) : Char :=
  if value < 10 then Char.ofNat (0x30 + value) else Char.ofNat (0x57 + value)

/-- A capital hexadecimal digit. -/
def capitalHexDigit (value : Nat) : Char :=
  if value < 10 then Char.ofNat (0x30 + value) else Char.ofNat (0x37 + value)

/-- The number in small hexadecimal digits. -/
def hex (value : Nat) : String := String.ofList (Nat.toDigits 16 value)

end LatencyService.Ascii
