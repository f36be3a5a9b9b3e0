/-
The smallest parts of a JSON text: blanks, words, strings and numbers. Each
reader takes the input and gives what it read together with the rest, or a
fault that says how far it came. A number that is written without a fraction
and without an exponent, and that fits sixty-four bits, is a whole number; any
other is the number in binary floating point that its digits give.
-/

import LatencyService.Json.Fault
import LatencyService.Number.Shortest
import LatencyService.Text.Ascii

namespace LatencyService.Json

/-! ### Blanks and words -/

/-- The octet may stand between the parts of a text. -/
def isBlank (octet : UInt8) : Bool :=
  octet == Octet.space || octet == Octet.lineFeed || octet == Octet.tab ||
    octet == Octet.carriageReturn

/-- The input after the blanks at its beginning. -/
def skipBlanks (input : Octets) : Octets := input.dropWhile isBlank

/-- The input after a word, which has to stand at its beginning. -/
def readWord : Octets → Octets → Except Fault Octets
  | [], input => .ok input
  | _ :: _, [] => .error (.here .endOfValue [])
  | expected :: word, octet :: rest =>
    if octet == expected then readWord word rest else .error (.here .expectedWord rest)

/-- The letters of `null` after the first. -/
def nullTail : Octets := [0x75, 0x6C, 0x6C]

/-- The letters of `true` after the first. -/
def trueTail : Octets := [0x72, 0x75, 0x65]

/-- The letters of `false` after the first. -/
def falseTail : Octets := [0x61, 0x6C, 0x73, 0x65]

/-! ### Strings -/

/-- The octet that a one-letter escape stands for. -/
def shortEscape? (letter : UInt8) : Option UInt8 :=
  match letter with
  | Octet.quote => some Octet.quote
  | Octet.backslash => some Octet.backslash
  | Octet.slash => some Octet.slash
  | Octet.smallB => some 0x08
  | Octet.smallF => some 0x0C
  | Octet.smallN => some Octet.lineFeed
  | Octet.smallR => some Octet.carriageReturn
  | Octet.smallT => some Octet.tab
  | _ => none

/-- The number that four hexadecimal digits write. -/
def hexUnit? (first second third fourth : UInt8) : Option Nat := do
  let a ← Octet.hexValue? first
  let b ← Octet.hexValue? second
  let c ← Octet.hexValue? third
  let d ← Octet.hexValue? fourth
  return ((a * 16 + b) * 16 + c) * 16 + d

/-- The unit is the second half of a pair. -/
def isTrailing (unit : Nat) : Bool := 0xDC00 ≤ unit && unit ≤ 0xDFFF

/-- The unit is the first half of a pair. -/
def isLeading (unit : Nat) : Bool := 0xD800 ≤ unit && unit ≤ 0xDBFF

/-- The octets of a code point, added to octets in reverse. -/
def pushCodePoint (code : Nat) (done : Octets) : Octets :=
  (String.utf8EncodeChar (Char.ofNat code)).reverse ++ done

/-- The octets of a string up to its closing quote, with escapes resolved, in reverse after
`done`. A character beyond the basic plane is escaped as a pair of units. -/
def scanString : Octets → Octets → Except Fault (Octets × Octets)
  | [], _ => .error (.here .endOfString [])
  | octet :: rest, done =>
    if octet == Octet.quote then .ok (done, rest)
    else if octet == Octet.backslash then
      match rest with
      | [] => .error (.here .endOfString [])
      | letter :: rest =>
        match shortEscape? letter with
        | some plain => scanString rest (plain :: done)
        | none =>
          if letter != Octet.smallU then .error (.here .invalidEscape rest)
          else
            match rest with
            | a :: b :: c :: d :: rest =>
              match hexUnit? a b c d with
              | none => .error (.here .invalidEscape rest)
              | some unit =>
                if isTrailing unit then .error (.here .loneSurrogate rest)
                else if !isLeading unit then scanString rest (pushCodePoint unit done)
                else
                  match rest with
                  | [] => .error (.here .endOfString [])
                  | next :: rest =>
                    if next != Octet.backslash then .error (.here .unfinishedSurrogate rest)
                    else
                      match rest with
                      | [] => .error (.here .endOfString [])
                      | next :: rest =>
                        if next != Octet.smallU then .error (.here .unfinishedSurrogate rest)
                        else
                          match rest with
                          | e :: f :: g :: h :: rest =>
                            match hexUnit? e f g h with
                            | none => .error (.here .invalidEscape rest)
                            | some second =>
                              if !isTrailing second then .error (.here .loneSurrogate rest)
                              else
                                scanString rest
                                  (pushCodePoint
                                    (0x10000 + (unit - 0xD800) * 0x400 + (second - 0xDC00)) done)
                          | _ => .error (.here .endOfString [])
            | _ => .error (.here .endOfString [])
    else if octet < 0x20 then .error (.here .controlCharacter rest)
    else scanString rest (octet :: done)

/-- The string whose opening quote was consumed. Where it is no text, the fault is at the first
octet that is no part of a character. -/
def readString (input : Octets) : Except Fault (String × Octets) :=
  match scanString input [] with
  | .error fault => .error fault
  | .ok (done, rest) =>
    match Octets.toText? done.reverse with
    | some text => .ok (text, rest)
    | none => .error (.ahead .invalidCodePoint (Octets.skipCharacters input.length input))

/-! ### Numbers -/

/-- A number as its text gives it. -/
inductive Number where
  | integer (value : Int)
  /-- By the bits of its binary floating point form. -/
  | decimal (bits : UInt64)
  deriving DecidableEq, Repr

namespace Number

/-- The number as a value of a document. -/
def toTree : Number → Tree
  | integer value => .integer value
  | decimal bits => .decimal bits

/-- The number for a message. -/
def found : Number → Found
  | integer value => .integer value
  | decimal bits => .decimal (Binary64.compactText bits)

end Number

/-- The greatest whole number of sixty-four bits. -/
def maxNatural : Nat := 0xFFFFFFFFFFFFFFFF

/-- Take digits into a significand while it stays in sixty-four bits; gives it together with how
many digits it took. -/
def significand (start : Nat) : Octets → Nat × Nat
  | [] => (start, 0)
  | digit :: rest =>
    let next := start * 10 + Octet.digitValue digit
    if next ≤ maxNatural then
      let (value, taken) := significand next rest
      (value, taken + 1)
    else (start, 0)

/-- A significand times ten to an exponent, by one rounded multiplication or division with a power
of ten, after divisions by the greatest power while the exponent is below the range; `none` when
the number is too large. -/
def scale? (fuel : Nat) (value : Float) (exponent : Int) : Option Float :=
  if exponent.natAbs ≤ 308 then
    let power := Float.ofScientific 1 false exponent.natAbs
    if exponent < 0 then some (value / power)
    else if (value * power).isInf then none
    else some (value * power)
  else if value == 0.0 then some value
  else if exponent ≥ 0 then none
  else
    match fuel with
    | 0 => some 0.0
    | fuel + 1 =>
      scale? fuel (value / Float.ofScientific 1 false 308) (exponent + 308)

/-- The number of a significand and an exponent. -/
def finishDecimal (isPositive : Bool) (value : Nat) (exponent : Int) (rest : Octets) :
    Except Fault (Number × Octets) :=
  match scale? 8 value.toUInt64.toFloat exponent with
  | none => .error (.here .numberOutOfRange rest)
  | some scaled =>
    let bits := scaled.toBits
    .ok (.decimal (if isPositive then bits else Binary64.negate bits), rest)

/-- The exponent that digits write, as long as it stays in thirty-two bits; when it does not, the
input right after the digit that is too many. -/
def readExponent (value : Nat) : Octets → Except Octets (Nat × Octets)
  | [] => .ok (value, [])
  | octet :: rest =>
    if Octet.isDigit octet then
      let next := value * 10 + Octet.digitValue octet
      if next < 0x80000000 then readExponent next rest else .error rest
    else .ok (value, octet :: rest)

/-- The digits at the beginning of the input, and what follows them. -/
def spanDigits (input : Octets) : Octets × Octets := input.span Octet.isDigit

/-- The sign of an exponent, which is raised unless it says otherwise, and what follows it. -/
def readSign (input : Octets) : Bool × Octets :=
  match input with
  | Octet.plus :: rest => (true, rest)
  | Octet.minus :: rest => (false, rest)
  | _ => (true, input)

/-- The number once its significand is known and the letter of its exponent was consumed. -/
def finishExponent (isPositive : Bool) (value : Nat) (exponent : Int) (input : Octets) :
    Except Fault (Number × Octets) :=
  let (isRaised, input) := readSign input
  match input with
  | [] => .error (.here .endOfValue [])
  | octet :: rest =>
    if !Octet.isDigit octet then .error (.here .invalidNumber rest)
    else
      match readExponent (Octet.digitValue octet) rest with
      | .ok (power, rest) =>
        let exponent := if isRaised then exponent + power else exponent - power
        finishDecimal isPositive value (max (-0x80000000) (min 0x7FFFFFFF exponent)) rest
      | .error rest =>
        if value != 0 && isRaised then .error (.here .numberOutOfRange rest)
        else
          .ok (.decimal (if isPositive then 0 else Binary64.negate 0), (spanDigits rest).2)

/-- The number once the digits before its point are known. -/
def finishNumber (isPositive : Bool) (digits : Octets) (input : Octets) :
    Except Fault (Number × Octets) :=
  let (value, taken) := significand 0 digits
  let dropped := digits.length - taken
  match input with
  | Octet.dot :: rest =>
    let (places, rest) := spanDigits rest
    if places.isEmpty then
      .error (.ahead (if rest.isEmpty then .endOfValue else .invalidNumber) rest)
    else
      let (value, taken) := significand value places
      let exponent : Int := dropped - taken
      match rest with
      | Octet.smallE :: rest => finishExponent isPositive value exponent rest
      | Octet.capitalE :: rest => finishExponent isPositive value exponent rest
      | _ => finishDecimal isPositive value exponent rest
  | Octet.smallE :: rest => finishExponent isPositive value dropped rest
  | Octet.capitalE :: rest => finishExponent isPositive value dropped rest
  | _ =>
    if dropped != 0 then finishDecimal isPositive value dropped input
    else if isPositive then .ok (.integer value, input)
    else if value == 0 || value > 0x8000000000000000 then finishDecimal false value 0 input
    else .ok (.integer (-value), input)

/-- The number whose sign was consumed. -/
def readNumber (isPositive : Bool) (input : Octets) : Except Fault (Number × Octets) :=
  match input with
  | [] => .error (.here .endOfValue [])
  | first :: rest =>
    if !Octet.isDigit first then .error (.here .invalidNumber rest)
    else if first == Octet.zero then
      if rest.head?.any Octet.isDigit then .error (.ahead .invalidNumber rest)
      else finishNumber isPositive [first] rest
    else
      let (digits, rest) := spanDigits rest
      finishNumber isPositive (first :: digits) rest

/-- The number at the beginning of the input, if one begins there. -/
def number? (input : Octets) : Option (Except Fault (Number × Octets)) :=
  match input with
  | Octet.minus :: rest => some (readNumber false rest)
  | first :: _ => if Octet.isDigit first then some (readNumber true input) else none
  | [] => none

/-! ### Values of the wrong type -/

/-- The fault of a value that begins here and is not what was expected. A scalar is consumed
first, so that a fault inside it comes before the misfit. -/
def mismatch (expected : String) (input : Octets) : Fault :=
  let found := fun (what : Found) (rest : Octets) =>
    Fault.here (.misfit (.wrongType what expected)) rest
  let afterWord := fun (what : Found) (read : Except Fault Octets) =>
    match read with
    | .ok rest => found what rest
    | .error fault => fault
  match input with
  | Octet.smallN :: rest => afterWord .null (readWord nullTail rest)
  | Octet.smallT :: rest => afterWord (.boolean true) (readWord trueTail rest)
  | Octet.smallF :: rest => afterWord (.boolean false) (readWord falseTail rest)
  | Octet.quote :: rest =>
    match readString rest with
    | .ok (text, rest) => found (.text text) rest
    | .error fault => fault
  | Octet.openBracket :: _ => found .list input
  | Octet.openBrace :: _ => found .table input
  | _ =>
    match number? input with
    | some (.ok (number, rest)) => found number.found rest
    | some (.error fault) => fault
    | none => .ahead .expectedValue input

end LatencyService.Json
