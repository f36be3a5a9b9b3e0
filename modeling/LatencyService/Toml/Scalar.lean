/-
Values of TOML that are written in one word without quotes: truth values, whole
numbers, numbers with a fraction or an exponent, dates and times. A word goes
as far as its characters allow, and all of it has to make sense.
-/

import LatencyService.Number.Binary64
import LatencyService.Text.Ascii
import LatencyService.Toml.Lexeme

namespace LatencyService.Toml

/-! ### Whole numbers -/

/-- The digits of a run in which single underscores may stand between digits. -/
def digitsOf? (isDigit : Char → Bool) : List Char → Option (List Char)
  | [] => none
  | [digit] => if isDigit digit then some [digit] else none
  | digit :: '_' :: rest =>
    if isDigit digit then (digitsOf? isDigit rest).map (digit :: ·) else none
  | digit :: rest =>
    if isDigit digit then (digitsOf? isDigit rest).map (digit :: ·) else none

/-- A sign, and whether it is a minus. -/
def splitSign (word : List Char) : Bool × List Char :=
  match word with
  | '-' :: rest => (true, rest)
  | '+' :: rest => (false, rest)
  | _ => (false, word)

/-- Decimal digits without a zero in front of others. -/
def decimalDigits? (word : List Char) : Option (List Char) :=
  match word with
  | '0' :: _ :: _ => none
  | _ => digitsOf? Ascii.isDigit word

/-- The number of a word without a sign in another base than ten. -/
def based? (word : List Char) : Option Nat :=
  let ofBase := fun (base : Nat) (isDigit : Char → Bool) (rest : List Char) =>
    (digitsOf? isDigit rest).map (Ascii.valueOf base)
  match word with
  | '0' :: 'x' :: rest => ofBase 16 Ascii.isHexDigit rest
  | '0' :: 'o' :: rest => ofBase 8 (fun char => '0' ≤ char && char ≤ '7') rest
  | '0' :: 'b' :: rest => ofBase 2 (fun char => char == '0' || char == '1') rest
  | _ => none

/-- A whole number of sixty-four bits with a sign. -/
def integer? (word : List Char) : Option Int :=
  let value : Option Int :=
    match based? word with
    | some value => some value
    | none =>
      let (isNegative, digits) := splitSign word
      (decimalDigits? digits).map fun digits =>
        let value : Int := Ascii.valueOf 10 digits
        if isNegative then -value else value
  value.filter fun value => -0x8000000000000000 ≤ value && value < 0x8000000000000000

/-! ### Numbers in floating point -/

/-- The value of digits that may have zeros in front. -/
def plainDigits? (word : List Char) : Option (List Char) := digitsOf? Ascii.isDigit word

/-- The exponent of ten behind its letter; no letter is zero. -/
def exponent? (word : List Char) : Option Int :=
  match word with
  | [] => some 0
  | _ :: written =>
    let (isNegative, digits) := splitSign written
    (plainDigits? digits).map fun digits =>
      let value : Int := Ascii.valueOf 10 digits
      if isNegative then -value else value

/-- The bits of a word without its sign; it has a fraction or an exponent. -/
def magnitude? (word : List Char) : Option UInt64 := do
  if word == ['i', 'n', 'f'] then return (1.0 / 0.0 : Float).toBits
  if word == ['n', 'a', 'n'] then return 0x7FF8000000000000
  let mantissa := word.takeWhile fun char => !(char == 'e' || char == 'E')
  let exponent ← exponent? (word.drop mantissa.length)
  let whole := mantissa.takeWhile (· != '.')
  if whole.length = word.length then none
  let wholeDigits ← decimalDigits? whole
  let fraction ← match mantissa.drop whole.length with
    | [] => some []
    | _ :: written => plainDigits? written
  return Binary64.ofDecimal (Ascii.valueOf 10 (wholeDigits ++ fraction))
    (exponent - fraction.length)

/-- The bits of a number in floating point. A finite number above all that the format holds is
refused. -/
def decimal? (word : List Char) : Option UInt64 := do
  let (isNegative, rest) := splitSign word
  let bits ← magnitude? rest
  if isNegative then return Binary64.negate bits
  else if bits == (1.0 / 0.0 : Float).toBits && rest.head? != some 'i' then none
  else return bits

/-! ### Dates and times -/

/-- The number of exactly so many digits at the front, within bounds. -/
def fixed? (count low high : Nat) (word : List Char) : Option (Nat × List Char) :=
  match Ascii.decimal? (word.take count) with
  | some value =>
    if (word.take count).length = count && low ≤ value && value ≤ high then
      some (value, word.drop count)
    else none
  | none => none

/-- What remains after a character. -/
def after? (expected : Char) : List Char → Option (List Char)
  | char :: rest => if char == expected then some rest else none
  | [] => none

/-- The days of a month. -/
def daysOf (year month : Nat) : Nat :=
  if month = 2 then
    if year % 4 = 0 && (year % 100 != 0 || year % 400 = 0) then 29 else 28
  else if [4, 6, 9, 11].contains month then 30
  else 31

/-- What remains after a date. -/
def date? (word : List Char) : Option (List Char) := do
  let (year, rest) ← fixed? 4 0 9999 word
  let rest ← after? '-' rest
  let (month, rest) ← fixed? 2 1 12 rest
  let rest ← after? '-' rest
  let (_, rest) ← fixed? 2 1 (daysOf year month) rest
  return rest

/-- What remains after a time; a minute may have a leap second. -/
def time? (word : List Char) : Option (List Char) := do
  let (_, rest) ← fixed? 2 0 23 word
  let rest ← after? ':' rest
  let (_, rest) ← fixed? 2 0 59 rest
  let rest ← after? ':' rest
  let (_, rest) ← fixed? 2 0 60 rest
  match rest with
  | '.' :: fraction =>
    if fraction.head?.any Ascii.isDigit then return fraction.dropWhile Ascii.isDigit else none
  | _ => return rest

/-- A text is nothing or an offset from universal time. -/
def isOffset (word : List Char) : Bool :=
  match word with
  | [] => true
  | ['Z'] | ['z'] => true
  | sign :: rest =>
    (sign == '+' || sign == '-') &&
      match fixed? 2 0 23 rest with
      | some (_, ':' :: minutes) => (fixed? 2 0 59 minutes).any (·.2.isEmpty)
      | _ => false

/-- A word is a date, a time or both, in which case an offset may follow. -/
def isMoment (word : List Char) : Bool :=
  match date? word with
  | some [] => true
  | some (mark :: rest) =>
    ['T', 't', ' '].contains mark && (time? rest).any isOffset
  | none => time? word == some []

/-! ### Words -/

/-- An octet that a word may hold. -/
def isWordOctet (octet : UInt8) : Bool :=
  isBare octet || octet == Octet.plus || octet == Octet.dot || octet == Octet.colon

/-- The characters of octets in ASCII. -/
def charsOf (octets : Octets) : List Char := octets.map fun octet => Char.ofNat octet.toNat

/-- A time follows a space: two digits and a colon show it. -/
def beginsTime (input : Octets) : Bool :=
  match input with
  | Octet.space :: first :: second :: Octet.colon :: _ =>
    Octet.isDigit first && Octet.isDigit second
  | _ => false

/-- The word at the front; a date and the time after it make one word with the space between. -/
def splitWord (input : Octets) : Octets × Octets :=
  let word := input.takeWhile isWordOctet
  let rest := input.drop word.length
  if beginsTime rest && date? (charsOf word) == some [] then
    let time := (rest.drop 1).takeWhile isWordOctet
    (word ++ rest.take 1 ++ time, rest.drop (time.length + 1))
  else (word, rest)

/-- The value of a word. -/
def wordValue? (word : List Char) : Option Tree :=
  if word == ['t', 'r', 'u', 'e'] then some (.boolean true)
  else if word == ['f', 'a', 'l', 's', 'e'] then some (.boolean false)
  else if isMoment word then some (.moment (String.ofList word))
  else
    match integer? word with
    | some value => some (.integer value)
    | none => (decimal? word).map .decimal

/-- The value of the word at the front. -/
def readWord : Reader Tree := fun input =>
  let (word, rest) := splitWord input
  (wordValue? (charsOf word)).map (·, rest)

end LatencyService.Toml
