/-
Domain names in ASCII. The characters of a name are folded and composed, and
each label between two dots is checked: a label in Punycode has to write a
label that needs it, no label begins with a mark, invisible joiners stand only
where they show, and in a name with letters from the right every label keeps
to one direction. A label with characters outside ASCII is then written in
Punycode. Labels may be empty and of any length, and hyphens may stand
anywhere.
-/

import LatencyService.Idna.Composition
import LatencyService.Idna.Mapping
import LatencyService.Idna.Properties
import LatencyService.Idna.Punycode
import LatencyService.Text.Pieces

namespace LatencyService.Idna

/-! ### Labels -/

/-- What a label in Punycode begins with. -/
def punycodeMark : List Char := ['x', 'n', '-', '-']

/-- The longest text in Punycode that is read, and the longest label that is written in it. -/
def longestRead : Nat := 2000

/-- The longest label that is written in Punycode. -/
def longestWritten : Nat := 1000

/-- A character of ASCII. -/
def isAscii (char : Char) : Bool := char.toNat < 0x80

/-- The label that a label stands for: itself, unless it is marked as Punycode. What Punycode
writes has to need it, to be folded and to be composed. -/
def readLabel? (label : List Char) : Option (List Char) :=
  if punycodeMark.isPrefixOf label then
    let written := label.drop punycodeMark.length
    if written.length > longestRead then none
    else
      match Punycode.decode? written with
      | none => none
      | some chars =>
        if !chars.all isAscii && foldAll [] chars == some chars && normalize chars == chars then
          some chars
        else none
  else some label

/-- A label in ASCII. -/
def writeLabel? (label : List Char) : Option (List Char) :=
  if label.all isAscii then some label
  else if label.length > longestWritten then none
  else some (punycodeMark ++ Punycode.encode label)

/-! ### Characters -/

/-- A character of ASCII that a name cannot hold. -/
def isForbidden (char : Char) : Bool :=
  char.toNat ≤ 0x20 || char.toNat == 0x7F || "%#/:<>?@[\\]^|".toList.contains char

/-- A zero-width joiner joins behind a virama; a zero-width non-joiner does so too, and separates
letters that would be joined. `before` holds the characters to the left in reverse. -/
def joinersShow : List Char → List Char → Bool
  | _, [] => true
  | before, char :: rest =>
    let behindVirama := before.head?.any fun left => viramas.contains left.toNat
    let skipThrough := fun (chars : List Char) =>
      (chars.dropWhile fun other => joinsThrough.contains other.toNat).head?
    let betweenLetters :=
      (skipThrough before).any (fun left =>
        joinsBoth.contains left.toNat || joinsNext.contains left.toNat) &&
      (skipThrough rest).any (fun right =>
        joinsBoth.contains right.toNat || joinsPrevious.contains right.toNat)
    let shows :=
      if char.toNat = 0x200C then behindVirama || betweenLetters
      else if char.toNat = 0x200D then behindVirama
      else true
    shows && joinersShow (char :: before) rest

/-- A label outside ASCII does not begin with a mark, and its joiners show. -/
def isSound (label : List Char) : Bool :=
  label.all isAscii ||
    (!label.head?.any (fun first => marks.contains first.toNat) && joinersShow [] label)

/-! ### Directions -/

/-- Directions that make a name one with letters from the right. -/
def isFromRight : Direction → Bool
  | .right | .arabicLetter | .arabicNumber => true
  | _ => false

/-- A label keeps to one direction: it begins with a letter, holds only what goes with that
letter's direction, and ends in a letter or a digit, marks aside. Digits from the left and from
the right do not meet. -/
def keepsDirection (label : List Char) : Bool :=
  let directions := label.map direction
  let last := (directions.reverse.dropWhile (· == .mark)).head?
  let weak := [Direction.europeanNumber, .europeanSeparator, .commonSeparator, .terminator,
    .neutral, .boundary, .mark]
  match directions with
  | [] => true
  | .left :: _ =>
    directions.all (fun each => each == .left || weak.contains each) &&
      (last == some .left || last == some .europeanNumber)
  | .right :: _ | .arabicLetter :: _ =>
    directions.all (fun each => isFromRight each || weak.contains each) &&
      last.any (fun each => isFromRight each || each == .europeanNumber) &&
      !(directions.contains .europeanNumber && directions.contains .arabicNumber)
  | _ => false

/-! ### Names -/

/-- The name in ASCII; `none` when it is no name. -/
def toAscii? (name : List Char) : Option (List Char) := do
  let folded ← foldAll [] name
  let labels ← (Pieces.splitAt '.' (normalize folded)).mapM readLabel?
  if labels.any (·.any isForbidden) then none
  else if !labels.all isSound then none
  else if labels.any (·.any fun char => isFromRight (direction char)) &&
      !labels.all keepsDirection then none
  else
    let written ← labels.mapM writeLabel?
    return List.intercalate ['.'] written

end LatencyService.Idna
