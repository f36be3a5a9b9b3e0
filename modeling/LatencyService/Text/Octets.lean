/-
Bytes as they travel over a connection or rest in a file, and the text they
spell. Text becomes bytes in UTF-8 and comes back unchanged; bytes that spell
no text are refused by `toText?`, or read with replacement characters by
`toTextLossy`, which is total.
-/

namespace LatencyService

/-- A run of bytes. -/
abbrev Octets := List UInt8

/-! ### Octets with a meaning in the formats read here -/

namespace Octet

@[match_pattern] abbrev tab : UInt8 := 0x09
@[match_pattern] abbrev lineFeed : UInt8 := 0x0A
@[match_pattern] abbrev carriageReturn : UInt8 := 0x0D
@[match_pattern] abbrev space : UInt8 := 0x20
@[match_pattern] abbrev quote : UInt8 := 0x22
@[match_pattern] abbrev plus : UInt8 := 0x2B
@[match_pattern] abbrev comma : UInt8 := 0x2C
@[match_pattern] abbrev minus : UInt8 := 0x2D
@[match_pattern] abbrev dot : UInt8 := 0x2E
@[match_pattern] abbrev slash : UInt8 := 0x2F
@[match_pattern] abbrev zero : UInt8 := 0x30
@[match_pattern] abbrev colon : UInt8 := 0x3A
@[match_pattern] abbrev semicolon : UInt8 := 0x3B
@[match_pattern] abbrev capitalE : UInt8 := 0x45
@[match_pattern] abbrev openBracket : UInt8 := 0x5B
@[match_pattern] abbrev backslash : UInt8 := 0x5C
@[match_pattern] abbrev closeBracket : UInt8 := 0x5D
@[match_pattern] abbrev smallB : UInt8 := 0x62
@[match_pattern] abbrev smallE : UInt8 := 0x65
@[match_pattern] abbrev smallF : UInt8 := 0x66
@[match_pattern] abbrev smallN : UInt8 := 0x6E
@[match_pattern] abbrev smallR : UInt8 := 0x72
@[match_pattern] abbrev smallT : UInt8 := 0x74
@[match_pattern] abbrev smallU : UInt8 := 0x75
@[match_pattern] abbrev openBrace : UInt8 := 0x7B
@[match_pattern] abbrev closeBrace : UInt8 := 0x7D

/-- A decimal digit. -/
def isDigit (octet : UInt8) : Bool := 0x30 ≤ octet && octet ≤ 0x39

/-- The value of a decimal digit. -/
def digitValue (octet : UInt8) : Nat := octet.toNat - 0x30

/-- The value of a hexadecimal digit of either case. -/
def hexValue? (octet : UInt8) : Option Nat :=
  if 0x30 ≤ octet && octet ≤ 0x39 then some (octet.toNat - 0x30)
  else if 0x41 ≤ octet && octet ≤ 0x46 then some (octet.toNat - 0x37)
  else if 0x61 ≤ octet && octet ≤ 0x66 then some (octet.toNat - 0x57)
  else none

/-- An octet that a header value may show as text: printable ASCII or a tab. -/
def isVisible (octet : UInt8) : Bool := (0x20 ≤ octet && octet < 0x7F) || octet == 0x09

end Octet

namespace Octets

/-! ### Text and its bytes -/

/-- The UTF-8 form of a text. -/
def ofText (text : String) : Octets := text.toByteArray.data.toList

/-- The text that the bytes spell, if they are well-formed UTF-8. -/
def toText? (octets : Octets) : Option String := String.fromUTF8? ⟨octets.toArray⟩

@[simp] theorem toText?_ofText (text : String) : toText? (ofText text) = some text := by
  simp [toText?, ofText, String.fromUTF8?, text.isValidUTF8, String.fromUTF8]

/-- The octet continues a character begun before it. -/
def isContinuation (octet : UInt8) : Bool := 0x80 ≤ octet && octet ≤ 0xBF

/-- How many continuation octets a first octet asks for, and the range of the first of them;
`none` for an octet that begins no character of more than one octet. -/
def sequence? (first : UInt8) : Option (Nat × UInt8 × UInt8) :=
  if 0xC2 ≤ first && first ≤ 0xDF then some (1, 0x80, 0xBF)
  else if first == 0xE0 then some (2, 0xA0, 0xBF)
  else if first == 0xED then some (2, 0x80, 0x9F)
  else if 0xE1 ≤ first && first ≤ 0xEF then some (2, 0x80, 0xBF)
  else if first == 0xF0 then some (3, 0x90, 0xBF)
  else if 0xF1 ≤ first && first ≤ 0xF3 then some (3, 0x80, 0xBF)
  else if first == 0xF4 then some (3, 0x80, 0x8F)
  else none

/-- The longest run of at most `count` octets that can continue a character, where the first of
them has to lie in the given range. -/
def continuations (count : Nat) (low high : UInt8) : Octets → Octets
  | [] => []
  | octet :: rest =>
    match count with
    | 0 => []
    | count + 1 =>
      if low ≤ octet && octet ≤ high then octet :: continuations count 0x80 0xBF rest else []

/-- The code point that a first octet and its continuations spell. -/
def codePoint (first : UInt8) (tail : Octets) : Nat :=
  let lead := match tail.length with
    | 1 => first.toNat % 0x20
    | 2 => first.toNat % 0x10
    | _ => first.toNat % 0x08
  tail.foldl (fun value octet => value * 0x40 + octet.toNat % 0x40) lead

/-- The characters of the bytes, with one replacement character for each longest run that begins
a character and breaks off, and for each octet that begins none. -/
def charsLossy (fuel : Nat) (octets : Octets) (done : List Char) : List Char :=
  match fuel, octets with
  | 0, _ => done.reverse
  | _, [] => done.reverse
  | fuel + 1, first :: rest =>
    if first < 0x80 then charsLossy fuel rest (Char.ofNat first.toNat :: done)
    else match sequence? first with
      | none => charsLossy fuel rest ('\uFFFD' :: done)
      | some (count, low, high) =>
        let tail := continuations count low high rest
        let met := if tail.length = count then Char.ofNat (codePoint first tail) else '\uFFFD'
        charsLossy fuel (rest.drop tail.length) (met :: done)

/-- What remains from the first octet on that is no part of a character; every step passes over at
least one octet, and so `fuel` may be the number of octets. -/
def skipCharacters (fuel : Nat) (octets : Octets) : Octets :=
  match fuel, octets with
  | 0, _ => octets
  | _, [] => []
  | fuel + 1, first :: rest =>
    if first < 0x80 then skipCharacters fuel rest
    else match sequence? first with
      | none => octets
      | some (count, low, high) =>
        let tail := continuations count low high rest
        if tail.length = count then skipCharacters fuel (rest.drop count) else octets

/-- The text that the bytes spell, where what is not UTF-8 reads as replacement characters. -/
def toTextLossy (octets : Octets) : String :=
  match toText? octets with
  | some text => text
  | none => String.ofList (charsLossy octets.length octets [])

@[simp] theorem toTextLossy_ofText (text : String) : toTextLossy (ofText text) = text := by
  simp [toTextLossy]

end Octets

end LatencyService
