/-
Properties of characters that decide whether a label of a domain name is
valid: marks, which cannot begin a label; directions, which have to agree
within a label once a name holds letters written from the right; and joining
types, which tell where invisible joiners may stand.
-/

import LatencyService.Text.CodeRanges

namespace LatencyService.Idna

/-- Marks of all kinds. -/
def marks : CodeRanges := CodeRanges.ofGaps (
    "768 112 275 7 263 45 1 1 1 2 1 2 1 1 72 11 48 21 16 1 101 7 2 6 2 2 1 4 35 1 30 27 91 11 58 9 " ++
    "9 1 24 4 1 9 1 3 1 5 43 3 60 8 42 24 1 33 54 3 1 18 1 7 10 2 29 3 56 1 1 7 2 2 2 3 9 1 10 2 26 " ++
    "1 2 3 56 1 1 5 4 2 2 3 3 1 30 2 3 1 11 3 56 1 1 8 1 3 1 3 20 2 22 6 1 3 56 1 1 7 2 2 2 3 7 3 " ++
    "10 2 30 1 59 5 3 3 1 4 9 1 40 5 55 1 1 7 1 3 1 4 7 2 11 2 29 3 56 1 1 7 1 3 1 4 7 2 11 2 15 1 " ++
    "12 4 55 2 1 7 1 3 1 4 9 1 10 2 29 3 70 1 4 6 1 1 1 8 18 2 61 1 2 7 12 8 98 1 2 9 11 7 73 2 27 " ++
    "1 1 1 1 1 4 2 49 20 1 2 5 11 1 36 9 1 100 20 23 4 4 3 1 3 2 7 3 4 13 12 1 1 10 4 703 3 946 4 " ++
    "28 3 29 2 30 2 64 32 9 1 45 3 1 1 117 2 34 1 118 12 4 12 219 5 57 10 1 29 2 1 48 31 49 5 47 17 " ++
    "38 9 12 3 30 13 56 14 48 20 152 3 1 21 4 1 6 1 2 3 198 64 720 33 3070 3 141 1 96 32 554 6 105 " ++
    "2 30164 4 1 10 32 2 80 2 272 1 3 1 4 1 23 5 4 1 83 2 50 18 26 18 13 1 38 8 25 13 44 4 47 14 36 " ++
    "1 67 14 12 1 8 2 45 3 50 1 1 3 2 2 5 2 1 1 41 5 5 2 236 8 1 2 20272 1 737 16 16 16 973 1 226 1 " ++
    "149 5 1670 3 1 2 5 4 40 3 4 1 165 2 573 4 387 2 80 3 70 11 49 4 122 3 53 15 41 1 2 2 10 4 45 " ++
    "11 7 1 61 3 36 14 16 2 44 1 12 3 48 14 8 4 1 2 92 12 6 1 2 1 157 12 21 4 55 2 1 7 2 2 2 3 9 1 " ++
    "10 2 2 7 3 5 192 18 23 1 81 20 235 7 2 9 27 2 82 17 106 13 101 15 256 15 245 6 1 2 2 4 1 1 1 2 " ++
    "141 7 2 7 3 1 28 10 40 7 1 4 8 1 9 11 46 16 405 8 1 8 82 22 1 14 122 6 3 1 1 2 1 7 1 1 66 5 1 " ++
    "2 1 5 347 4 9 2 1 1 48 7 3 5 5373 1 6 15 13978 5 59 7 1048 1 1 55 7 4 81 1 11 2 19627 2 4705 " ++
    "46 2 23 542 5 3 6 8 8 2 7 30 4 148 3 1979 55 4 50 8 1 14 1 22 5 1 15 1360 7 1 17 2 7 1 2 1 5 " ++
    "100 1 160 7 375 1 61 4 508 4 992 7 109 7 792501 240 ")

/-- Marks that end a consonant without a vowel. -/
def viramas : CodeRanges := CodeRanges.ofGaps (
    "2381 1 127 1 127 1 127 1 127 1 127 1 127 1 127 1 109 2 16 1 124 1 111 1 127 1 201 1 180 2 1753 " ++
    "2 30 1 157 1 653 1 227 1 101 2 70 2 4491 1 31366 1 37 1 151 1 142 1 108 1 309 1 246 1 24145 1 " ++
    "1542 1 41 1 14 1 57 1 121 2 139 1 116 1 180 1 98 1 244 1 127 1 252 1 127 1 118 1 116 1 269 1 " ++
    "259 2 161 1 83 1 18 1 81 1 421 1 260 2 81 1 425 2 ")

/-! ### Directions -/

/-- The direction of a character, as far as it matters in names. -/
inductive Direction where
  | left
  | right
  | arabicLetter
  | arabicNumber
  | europeanNumber
  | europeanSeparator
  | commonSeparator
  | terminator
  | neutral
  | boundary
  | mark
  deriving DecidableEq, Repr

/-- The characters of each direction other than from the left. -/
def directions : List (Direction × CodeRanges) :=
  [ (.right, CodeRanges.ofGaps (
      "1424 1 45 1 1 1 2 1 2 1 1 56 448 43 9 2 4 3 1 24 4 1 9 1 3 1 5 43 3 4 6063 1 56077 1 1 10 1 38 " ++
      "3248 287 1 225 3 1 2 5 4 40 3 4 1 165 2 82 7 448 64 288 31 44 2 19 64 48 64 18 4 122 55296 208 " ++
      "7 109 7 805 80 64 80 176 256 256 ")),
    (.arabicLetter, CodeRanges.ofGaps (
      "1544 1 2 1 1 1 13 48 34 3 1 101 15 2 7 2 10 23 1 30 27 91 11 15 160 48 2 6 8 42 62086 494 18 " ++
      "127 33 13 115 143 3585 36 4 8 10 6 384 61 51 22 11 31 56576 80 64 80 176 240 2 14 ")),
    (.arabicNumber, CodeRanges.ofGaps (
      "1536 6 90 10 1 2 112 1 434 2 80 1 66637 10 294 31 ")),
    (.europeanNumber, CodeRanges.ofGaps (
      "48 10 120 2 5 1 1590 10 6518 1 3 6 6 10 1022 20 55924 10 967 27 54482 50 6400 11 2789 10 ")),
    (.europeanSeparator, CodeRanges.ofGaps (
      "43 1 1 1 8268 2 14 2 390 1 55574 1 824 2 167 1 1 1 ")),
    (.commonSeparator, CodeRanges.ofGaps (
      "44 1 1 2 10 1 101 1 1387 1 6690 1 20 1 56843 1 1 1 2 1 182 1 1 2 10 1 ")),
    (.terminator, CodeRanges.ofGaps (
      "35 3 124 4 10 2 1245 1 121 2 95 1 903 2 7 1 245 1 263 1 581 1 2459 1 2132 5 107 48 94 1 228 1 " ++
      "34340 2 22053 1 9 2 152 3 218 2 3 2 8182 4 49950 1 ")),
    (.neutral, CodeRanges.ofGaps (
      "33 2 3 5 16 6 26 6 26 4 34 1 4 4 1 2 1 2 4 1 1 3 2 5 23 1 31 1 449 2 7 14 2 14 5 9 1 17 116 2 " ++
      "8 1 5 2 1 1 110 1 403 1 2 2 119 2 6 2 206 1 10 1 268 4 1017 6 1 1 125 7 699 4 1106 10 102 1 " ++
      "666 2 339 10 6 11 309 1 3 2 152 34 1469 1 1 3 11 3 13 3 13 3 13 2 17 24 13 15 1 26 29 3 13 3 " ++
      "113 2 1 4 1 2 10 1 1 3 5 6 1 1 1 1 1 1 16 2 4 5 5 4 2 16 41 3 4 130 2 290 69 26 1 145 25 11 21 " ++
      "40 98 450 1 339 256 628 2 32 1 105 229 6 14 7 256 94 34 26 1 89 12 214 26 12 5 4 3 25 15 1 5 2 " ++
      "5 3 91 2 3 1 90 1 196 36 57 2 49 16 28 3 50 15 12 4 167 4 99 2 31 1 6592 64 22160 55 326 3 99 " ++
      "1 10 2 128 34 102 1 159 4 72 4 754 2 20946 18 127 1 45 3 16 10 22 32 1 1 2 1 1 9 1 2 2 3 1 1 2 " ++
      "1 149 2 3 5 16 6 26 6 26 11 124 3 3 7 10 5 259 1 62 77 3 13 3 1 1918 1 537 7 1298 20 1530 13 " ++
      "2408 8 4 17 20464 1 25094 2 21 66 3 1 186 87 900 1 57 1 57 1 57 1 57 1 5932 2 270 44 4 100 12 " ++
      "15 2 15 1 15 1 37 21 5 31 1 58 6 61 1 178 6 154 984 4 17 3 13 3 119 4 95 6 12 4 1 15 12 4 56 8 " ++
      "10 6 40 8 30 2 2 78 340 12 14 2 13 3 9 7 46 1 7 8 14 4 9 7 9 7 147 1 55 ")),
    (.boundary, CodeRanges.ofGaps (
      "0 9 5 14 99 6 1 26 13 1 5984 1 2044 3 82 6 4 6 56672 32 271 1 240 9 5 2 48288 4 5327 8 11907 2 " ++
      "65534 2 65534 2 65534 2 65534 2 65534 2 65534 2 65534 2 65534 2 65534 2 65534 2 65534 2 65534 " ++
      "258 240 3600 61438 2 65534 2 65534 2 ")),
    (.mark, CodeRanges.ofGaps (
      "768 112 275 7 263 45 1 1 1 2 1 2 1 1 72 11 48 21 16 1 101 7 2 6 2 2 1 4 35 1 30 27 91 11 58 9 " ++
      "9 1 24 4 1 9 1 3 1 5 43 3 60 8 42 24 1 32 55 1 1 1 4 8 4 1 3 7 10 2 29 1 58 1 4 4 8 1 20 2 26 " ++
      "1 2 2 57 1 4 2 4 2 2 3 3 1 30 2 3 1 11 2 57 1 4 5 1 2 4 1 20 2 22 6 1 1 58 1 2 1 1 4 8 1 7 2 " ++
      "11 2 30 1 61 1 12 1 50 1 3 1 55 1 1 3 5 3 1 4 7 2 11 2 29 1 58 1 15 2 20 2 28 2 57 2 4 4 8 1 " ++
      "20 2 29 1 72 1 7 3 1 1 90 1 2 7 12 8 98 1 2 9 11 7 73 2 27 1 1 1 1 1 55 14 1 5 1 2 5 11 1 36 9 " ++
      "1 102 4 1 6 1 2 2 2 25 2 4 3 16 4 13 1 2 2 6 1 15 1 703 3 946 3 29 2 30 2 30 2 64 2 1 7 8 1 2 " ++
      "11 9 1 45 3 1 1 117 2 34 1 118 3 4 2 9 1 6 3 219 2 2 1 58 1 1 7 1 1 1 1 2 8 6 10 2 1 48 31 49 " ++
      "4 48 1 1 5 1 1 5 1 40 9 12 2 32 4 2 2 1 3 56 1 1 2 3 1 1 3 58 8 2 2 152 3 1 13 1 7 4 1 6 1 3 2 " ++
      "198 64 720 33 3070 3 141 1 96 32 554 4 107 2 30164 4 1 10 32 2 80 2 272 1 3 1 4 1 25 2 5 1 151 " ++
      "2 26 18 13 1 38 8 25 11 46 3 48 1 2 4 2 2 39 1 67 6 2 2 2 2 12 1 8 1 47 1 51 1 1 3 2 2 5 2 1 1 " ++
      "42 2 8 1 238 1 2 1 4 1 20272 1 737 16 16 16 973 1 226 1 149 5 1670 3 1 2 5 4 40 3 4 1 165 2 " ++
      "573 4 387 2 80 3 70 11 49 4 123 1 54 15 41 1 2 2 10 3 49 4 2 2 7 1 61 3 36 5 1 8 62 1 12 2 52 " ++
      "9 10 4 2 1 95 3 2 1 1 2 6 1 2 1 157 1 3 8 21 2 57 2 3 1 37 7 3 5 195 8 2 3 1 1 23 1 84 6 1 1 4 " ++
      "2 1 2 238 4 6 2 1 2 27 2 85 8 2 1 1 2 106 1 1 1 2 6 1 1 101 3 2 4 1 5 259 9 1 2 256 2 1 1 4 1 " ++
      "144 4 2 2 4 1 32 6 2 2 40 6 2 4 8 1 9 6 2 3 46 13 1 2 406 7 1 6 84 22 2 7 1 2 1 2 122 6 3 1 1 " ++
      "2 1 7 1 1 72 2 3 1 1 1 347 2 11 2 52 5 5 1 1 1 5373 1 6 15 13978 5 59 7 1048 1 63 4 81 1 19640 " ++
      "2 4705 46 2 23 544 3 17 8 2 7 30 4 148 3 1979 55 4 50 8 1 14 1 22 5 1 15 1360 7 1 17 2 7 1 2 1 " ++
      "5 100 1 160 7 375 1 61 4 508 4 992 7 109 7 792501 240 ")) ]

/-- The direction of a character. -/
def direction (char : Char) : Direction :=
  match directions.find? fun entry => entry.2.contains char.toNat with
  | some entry => entry.1
  | none => .left

/-! ### Joining -/

/-- Letters that join to the letter before them and to the one after them. -/
def joinsBoth : CodeRanges := CodeRanges.ofGaps (
    "1568 1 5 1 1 1 1 5 4 13 1 7 1 2 35 2 8 16 18 38 1 2 9 1 1 1 1 2 40 3 2 1 18 3 5 4 1 9 1 1 1 1 " ++
    "1 2 31 11 3 15 2 4 1 1 2 3 2 6 74 33 86 5 2 1 1 10 1 1 10 1 1 4 2 1 29 1 2 5 18 10 5 2 2 6 1 " ++
    "15 3902 1 24 89 14 34 1 1 36757 50 25166 5 14 4 1 5 1 3 10 4 145 1 1 1 3 3 1 2 1 1 2 1 28 2 " ++
    "338 33 1 1 524 3 1 17 12 3 28 4 2 12 46 1 1 2 4 1 2 2 1 2 1 1 2 1 5 1 55605 68 ")

/-- Letters that join to the letter after them alone. -/
def joinsNext : CodeRanges := CodeRanges.ofGaps (
    "43122 1 25178 1 9 1 552 1 714 1 ")

/-- Letters that join to the letter before them alone. -/
def joinsPrevious : CodeRanges := CodeRanges.ofGaps (
    "1570 4 1 1 1 1 5 4 21 1 40 3 1 3 16 18 38 1 2 9 1 1 1 1 2 2 1 1 24 2 32 1 4 5 4 1 9 1 1 1 1 1 " ++
    "2 1 29 1 11 3 15 2 4 1 1 2 3 2 198 1 5 2 1 1 10 1 1 3 14 1 1 2 5 19 11 1 27 3 1 1 2 2 6 1 " ++
    "66059 1 1 1 1 2 3 5 10 1 3 1 2 1 10 1 145 1 1 3 3 1 2 1 1 2 1 1 23 4 373 1 528 1 32 1 31 2 62 " ++
    "3 2 2 2 1 4 2 5 1 ")

/-- Characters that joining passes over. -/
def joinsThrough : CodeRanges := CodeRanges.ofGaps (
    "173 1 594 112 275 7 263 45 1 1 1 2 1 2 1 1 72 11 1 1 46 21 16 1 101 7 2 6 2 2 1 4 33 1 1 1 30 " ++
    "27 91 11 58 9 9 1 24 4 1 9 1 3 1 5 43 3 60 8 42 24 1 32 55 1 1 1 4 8 4 1 3 7 10 2 29 1 58 1 4 " ++
    "4 8 1 20 2 26 1 2 2 57 1 4 2 4 2 2 3 3 1 30 2 3 1 11 2 57 1 4 5 1 2 4 1 20 2 22 6 1 1 58 1 2 1 " ++
    "1 4 8 1 7 2 11 2 30 1 61 1 12 1 50 1 3 1 55 1 1 3 5 3 1 4 7 2 11 2 29 1 58 1 2 1 6 1 5 2 20 2 " ++
    "28 2 57 2 4 4 8 1 20 2 29 1 72 1 7 3 1 1 90 1 2 7 12 8 98 1 2 9 11 7 73 2 27 1 1 1 1 1 55 14 1 " ++
    "5 1 2 5 11 1 36 9 1 102 4 1 6 1 2 2 2 25 2 4 3 16 4 13 1 2 2 6 1 15 1 703 3 946 3 29 2 30 2 30 " ++
    "2 64 2 1 7 8 1 2 11 9 1 45 3 1 1 117 2 34 1 118 3 4 2 9 1 6 3 219 2 2 1 58 1 1 7 1 1 1 1 2 8 6 " ++
    "10 2 1 48 31 49 4 48 1 1 5 1 1 5 1 40 9 12 2 32 4 2 2 1 3 56 1 1 2 3 1 1 3 58 8 2 2 152 3 1 13 " ++
    "1 7 4 1 6 1 3 2 198 64 523 1 2 2 26 5 49 5 5 6 96 33 3070 3 141 1 96 32 554 4 107 2 30164 4 1 " ++
    "10 32 2 80 2 272 1 3 1 4 1 25 2 5 1 151 2 26 18 13 1 38 8 25 11 46 3 48 1 2 4 2 2 39 1 67 6 2 " ++
    "2 2 2 12 1 8 1 47 1 51 1 1 3 2 2 5 2 1 1 42 2 8 1 238 1 2 1 4 1 20272 1 737 16 16 16 207 1 249 " ++
    "3 513 1 226 1 149 5 1670 3 1 2 5 4 40 3 4 1 165 2 573 4 387 2 80 3 70 11 49 4 123 1 54 15 41 1 " ++
    "2 2 10 3 49 4 2 2 7 1 61 3 36 5 1 8 62 1 12 2 52 9 10 4 2 1 95 3 2 1 1 2 6 1 2 1 157 1 3 8 21 " ++
    "2 57 2 3 1 37 7 3 5 195 8 2 3 1 1 23 1 84 6 1 1 4 2 1 2 238 4 6 2 1 2 27 2 85 8 2 1 1 2 106 1 " ++
    "1 1 2 6 1 1 101 3 2 4 1 5 259 9 1 2 256 2 1 1 4 1 144 4 2 2 4 1 32 10 40 6 2 4 8 1 9 6 2 3 46 " ++
    "13 1 2 406 7 1 6 1 1 82 22 2 7 1 2 1 2 122 6 3 1 1 2 1 7 1 1 72 2 3 1 1 1 347 2 11 2 52 5 5 1 " ++
    "1 1 5357 17 6 15 13978 5 59 7 1048 1 63 4 81 1 19640 2 1 4 4700 46 2 23 544 3 9 16 2 7 30 4 " ++
    "148 3 1979 55 4 50 8 1 14 1 22 5 1 15 1360 7 1 17 2 7 1 2 1 5 100 1 160 7 375 1 61 4 508 4 992 " ++
    "7 109 8 792245 1 30 96 128 240 ")

end LatencyService.Idna
