/-
Identifiers for requests that bring none: random ones in the usual form, with
the digits that tell the version and the variant in their places.
-/

namespace LatencyService.Http.Identifier

/-- Scatter the bits of a word, one to one. -/
def scatter (word : UInt64) : UInt64 :=
  let first := (word ^^^ (word >>> 30)) * 0xBF58476D1CE4E5B9
  let second := (first ^^^ (first >>> 27)) * 0x94D049BB133111EB
  second ^^^ (second >>> 31)

/-- The word with a number in the sequence of a seed. -/
def word (seed : UInt64) (number : Nat) : UInt64 :=
  scatter (seed + number.toUInt64 * 0x9E3779B97F4A7C15)

/-- The hexadecimal digit of a word at a place, where the place zero is that of the units. -/
def digit (word : UInt64) (place : Nat) : Char :=
  Nat.digitChar (word.toNat >>> (4 * place) % 16)

/-- The digits of a word at the places below one, the highest place first. -/
def digits (word : UInt64) (places : Nat) : List Char :=
  (List.range places).reverse.map (digit word)

/-- The digits of a word from one place up to below another, the highest place first. -/
def digitsBetween (word : UInt64) (low high : Nat) : List Char :=
  (digits word high).take (high - low)

/-- The digit of the variant has its highest two bits set to one and zero. -/
def variantDigit (word : UInt64) : Char := Nat.digitChar (8 + word.toNat % 4)

/-- The identifier of two random words: five groups of digits, where the third begins with the
version and the fourth with the variant. -/
def ofWords (first second : UInt64) : String :=
  String.intercalate "-"
    [ String.ofList (digitsBetween first 8 16),
      String.ofList (digitsBetween first 4 8),
      String.ofList ('4' :: digits first 3),
      String.ofList (variantDigit (second >>> 60) :: digitsBetween second 12 15),
      String.ofList (digits second 12) ]

/-- The identifier with a number in the sequence of a seed. -/
def ofNumber (seed : UInt64) (number : Nat) : String :=
  ofWords (word seed (2 * number)) (word seed (2 * number + 1))

end LatencyService.Http.Identifier
