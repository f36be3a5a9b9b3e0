/-
Octets written as text in Base64: three octets are four digits, and what is
short of three at the end is filled up with equals signs.
-/

import LatencyService.Text.Octets

namespace LatencyService.Base64

/-- The digits, by their values. -/
def digits : List Char :=
  "ABCDEFGHIJKLMNOPQRSTUVWXYZabcdefghijklmnopqrstuvwxyz0123456789+/".toList

/-- The digit of a value below 64. -/
def digit (value : Nat) : Char := digits.getD value '='

/-- The digits of octets. -/
def encodeChars : Octets → List Char
  | first :: second :: third :: rest =>
    [ digit (first.toNat / 4), digit (first.toNat % 4 * 16 + second.toNat / 16),
      digit (second.toNat % 16 * 4 + third.toNat / 64), digit (third.toNat % 64) ] ++
      encodeChars rest
  | [first, second] =>
    [ digit (first.toNat / 4), digit (first.toNat % 4 * 16 + second.toNat / 16),
      digit (second.toNat % 16 * 4), '=' ]
  | [first] => [digit (first.toNat / 4), digit (first.toNat % 4 * 16), '=', '=']
  | [] => []

/-- The octets as a text. -/
def encode (octets : Octets) : String := String.ofList (encodeChars octets)

end LatencyService.Base64
