/-
Percent-encoding: an octet written as a percent sign and two hexadecimal
digits. Which characters have to be written so depends on the part of a URL
they stand in; controls and everything outside ASCII always are.
-/

import LatencyService.Text.Ascii
import LatencyService.Text.Octets

namespace LatencyService.Percent

/-! ### The parts of a URL and what they cannot hold -/

/-- Written so in a fragment. -/
def fragmentSet : List Char := [' ', '"', '<', '>', '`']

/-- Written so in a segment of a path. -/
def pathSet : List Char := fragmentSet ++ ['#', '?', '\x7b', '\x7d']

/-- Written so in the name and the password of a user. -/
def credentialsSet : List Char := pathSet ++ ['/', ':', ';', '=', '@', '[', '\\', ']', '^', '|']

/-- Written so in a query. -/
def querySet : List Char := [' ', '"', '#', '<', '>']

/-- Written so in the query of a scheme with hosts of its own kind. -/
def specialQuerySet : List Char := querySet ++ ['\'']

/-! ### Writing -/

/-- An octet as a percent sign and two digits. -/
def octet (value : UInt8) : List Char :=
  ['%', Ascii.capitalHexDigit (value.toNat / 16), Ascii.capitalHexDigit (value.toNat % 16)]

/-- A character as it is written in a part that cannot hold the characters of `set`. -/
def encodeChar (set : List Char) (char : Char) : List Char :=
  if char.toNat < 0x20 || char.toNat ≥ 0x7F || set.contains char then
    (Octets.ofText char.toString).flatMap octet
  else [char]

/-- A text as it is written in a part that cannot hold the characters of `set`. -/
def encode (set : List Char) (chars : List Char) : String :=
  String.ofList (chars.flatMap (encodeChar set))

/-! ### Reading -/

/-- The octets with every percent sign before two hexadecimal digits read together with them. -/
def decode : Octets → Octets
  | 0x25 :: high :: low :: rest =>
    match Octet.hexValue? high, Octet.hexValue? low with
    | some first, some second => (first * 16 + second).toUInt8 :: decode rest
    | _, _ => 0x25 :: decode (high :: low :: rest)
  | value :: rest => value :: decode rest
  | [] => []

end LatencyService.Percent
