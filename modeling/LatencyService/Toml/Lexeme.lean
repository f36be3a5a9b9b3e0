/-
The small parts of TOML documents: blanks, comments, line ends, strings and
keys. Every reader is given what remains of the document and tells what it
read and what remains then, or `none` where the document breaks the rules.
-/

import LatencyService.Json.Lexeme
import LatencyService.Toml.Node

namespace LatencyService.Toml

/-- Read a value from the front of what remains. -/
abbrev Reader (Value : Type) := Octets → Option (Value × Octets)

/-! ### Blanks, comments and line ends -/

/-- A blank within a line. -/
def isBlank (octet : UInt8) : Bool := octet == Octet.tab || octet == Octet.space

/-- An octet that comments and strings may hold. -/
def isPlain (octet : UInt8) : Bool :=
  octet == Octet.tab || (octet ≥ 0x20 && octet != 0x7F)

/-- What remains after blanks. -/
def skipBlanks (input : Octets) : Octets := input.dropWhile isBlank

/-- What remains after a line end. -/
def lineEnd? : Octets → Option Octets
  | Octet.lineFeed :: rest => some rest
  | Octet.carriageReturn :: Octet.lineFeed :: rest => some rest
  | _ => none

/-- What remains after the rest of a line that holds nothing more than a comment. -/
def endLine (input : Octets) : Option Octets :=
  let rest := skipBlanks input
  let rest := if rest.head? == some 0x23 then rest.dropWhile isPlain else rest
  if rest.isEmpty then some [] else lineEnd? rest

/-- What remains after blanks, comments and line ends; the reading may begin within a comment. -/
def skipLines : Bool → Octets → Option Octets
  | _, [] => some []
  | _, Octet.lineFeed :: rest => skipLines false rest
  | _, Octet.carriageReturn :: Octet.lineFeed :: rest => skipLines false rest
  | isComment, octet :: rest =>
    if isComment then (if isPlain octet then skipLines true rest else none)
    else if isBlank octet then skipLines false rest
    else if octet == 0x23 then skipLines true rest
    else some (octet :: rest)

/-! ### Strings -/

/-- The octet that a letter after a backslash stands for. -/
def shortEscape? (letter : UInt8) : Option UInt8 :=
  if letter == Octet.slash then none else Json.shortEscape? letter

/-- A character given by so many hexadecimal digits, as octets in reverse. -/
def readCodePoint (count : Nat) : Reader Octets := fun input =>
  let digits := input.take count
  match digits.mapM Octet.hexValue? with
  | none => none
  | some values =>
    let code := values.foldl (fun code value => code * 16 + value) 0
    if digits.length = count && code.isValidChar then
      some ((String.utf8EncodeChar (Char.ofNat code)).reverse, input.drop count)
    else none

/-- What an escape stands for, read behind its backslash, as octets in reverse. -/
def readEscape : Reader Octets
  | [] => none
  | letter :: rest =>
    if letter == Octet.smallU then readCodePoint 4 rest
    else if letter == 0x55 then readCodePoint 8 rest
    else (shortEscape? letter).map fun octet => ([octet], rest)

/-- The octets of a string in one line up to its closing mark, in reverse after `done`. Every step
consumes an octet, and so `fuel` may be the length of the input. -/
def scanLine (hasEscapes : Bool) (mark : UInt8) (fuel : Nat) (done : Octets) : Reader Octets :=
  fun input =>
    match fuel, input with
    | 0, _ => none
    | _, [] => none
    | fuel + 1, octet :: rest =>
      if octet == mark then some (done, rest)
      else if hasEscapes && octet == Octet.backslash then
        match readEscape rest with
        | none => none
        | some (octets, rest) => scanLine hasEscapes mark fuel (octets ++ done) rest
      else if isPlain octet then scanLine hasEscapes mark fuel (octet :: done) rest
      else none

/-- What remains after blanks and whole line ends. -/
def skipGaps : Octets → Octets
  | [] => []
  | Octet.lineFeed :: rest => skipGaps rest
  | Octet.carriageReturn :: Octet.lineFeed :: rest => skipGaps rest
  | octet :: rest => if isBlank octet then skipGaps rest else octet :: rest

/-- What remains after the blanks and line ends behind a backslash that ends a line; `none` when it
does not end one. -/
def continued? (input : Octets) : Option Octets := (lineEnd? (skipBlanks input)).map skipGaps

/-- The octets of a string of several lines up to the three marks that close it, in reverse after
`done`. Up to two marks may stand before those three. -/
def scanLines (hasEscapes : Bool) (mark : UInt8) (fuel : Nat) (done : Octets) : Reader Octets :=
  fun input =>
    match fuel, input with
    | 0, _ => none
    | _, [] => none
    | fuel + 1, octet :: rest =>
      if octet == mark then
        let marks := ((octet :: rest).takeWhile (· == mark)).take 5
        if marks.length ≥ 3 then some (marks.drop 3 ++ done, (octet :: rest).drop marks.length)
        else scanLines hasEscapes mark fuel (octet :: done) rest
      else if hasEscapes && octet == Octet.backslash then
        match continued? rest with
        | some rest => scanLines hasEscapes mark fuel done rest
        | none =>
          match readEscape rest with
          | none => none
          | some (octets, rest) => scanLines hasEscapes mark fuel (octets ++ done) rest
      else if isPlain octet then scanLines hasEscapes mark fuel (octet :: done) rest
      else
        match lineEnd? (octet :: rest) with
        | some rest => scanLines hasEscapes mark fuel (Octet.lineFeed :: done) rest
        | none => none

/-- A text from octets in reverse. -/
def finishText (scanned : Option (Octets × Octets)) : Option (String × Octets) :=
  match scanned with
  | none => none
  | some (done, rest) => (Octets.toText? done.reverse).map (·, rest)

/-- A mark that opens a string, and whether the string has escapes. -/
def stringMark? (octet : UInt8) : Option Bool :=
  if octet == Octet.quote then some true else if octet == 0x27 then some false else none

/-- A string in one line. -/
def readLineString : Reader String
  | [] => none
  | mark :: rest =>
    match stringMark? mark with
    | none => none
    | some hasEscapes => finishText (scanLine hasEscapes mark (rest.length + 1) [] rest)

/-- A string of either kind. A line end right behind three opening marks is not part of it. -/
def readString : Reader String := fun input =>
  match input with
  | first :: second :: third :: rest =>
    match stringMark? first with
    | none => none
    | some hasEscapes =>
      if first == second && first == third then
        let rest := (lineEnd? rest).getD rest
        finishText (scanLines hasEscapes first (rest.length + 1) [] rest)
      else readLineString input
  | _ => readLineString input

/-! ### Keys -/

/-- An octet of a key without quotes. -/
def isBare (octet : UInt8) : Bool :=
  Octet.isDigit octet || (0x41 ≤ octet && octet ≤ 0x5A) || (0x61 ≤ octet && octet ≤ 0x7A) ||
    octet == Octet.minus || octet == 0x5F

/-- One part of a key. -/
def readName : Reader Name := fun input =>
  let bare := input.takeWhile isBare
  let read := if bare.isEmpty then readLineString input
    else (Octets.toText? bare).map (·, input.drop bare.length)
  read.map fun (text, rest) => (⟨text, ⟨input, rest⟩⟩, rest)

/-- The parts of a key after those in `done`, which stand in reverse. -/
def readNames (fuel : Nat) (done : List Name) : Reader (List Name) := fun input =>
  match fuel with
  | 0 => none
  | fuel + 1 =>
    match readName (skipBlanks input) with
    | none => none
    | some (name, rest) =>
      match skipBlanks rest with
      | Octet.dot :: rest => readNames fuel (name :: done) rest
      | rest => some (name :: done, rest)

/-- So many containers may be open at once, and so many parts a key may have. -/
def depthLimit : Nat := 79

/-- A key: the parts before the last one, and the last one. -/
def readKey : Reader (List Name × Name) := fun input =>
  match readNames (depthLimit + 1) [] input with
  | some (last :: before, rest) =>
    if before.length < depthLimit then some ((before.reverse, last), rest) else none
  | _ => none

end LatencyService.Toml
