/-
Values taken from TOML documents, and the report of a value that does not fit:
the line and the column, the line itself with the value marked below it, and
the reason.
-/

import LatencyService.Schema.Shape
import LatencyService.Toml.Document

namespace LatencyService.Toml

/-- Why a document does not write a value. -/
inductive Fault where
  /-- It breaks the rules of the format. -/
  | malformed
  /-- A value does not fit. -/
  | misfit (misfit : Misfit) (extent : Option Extent)

/-! ### Reports -/

/-- The last line of what precedes a place, and the number of lines before it. -/
def lineBefore (before : Octets) : Octets × Nat :=
  ((before.reverse.takeWhile (· != Octet.lineFeed)).reverse, before.count Octet.lineFeed)

/-- So many copies of a character. -/
def copies (count : Nat) (char : Char) : String := String.ofList (List.replicate count char)

/-- The place of an extent in a text, and the first of its lines with the extent marked. The mark
does not go beyond the line and shows at least one place. -/
def excerpt (text : Octets) (extent : Extent) : String :=
  let (indent, index) := lineBefore (text.take (text.length - extent.start.length))
  let line := indent ++ extent.start.takeWhile (· != Octet.lineFeed)
  let column := (indent.filter fun octet => !Octets.isContinuation octet).length
  let width := min (extent.start.length - extent.stop.length) (line.length - column)
  let number := toString (index + 1)
  let margin := copies (number.length + 1) ' ' ++ "|"
  "TOML parse error at line " ++ number ++ ", column " ++ toString (column + 1) ++ "\n" ++
    margin ++ "\n" ++
    number ++ " | " ++ Octets.toTextLossy line ++ "\n" ++
    margin ++ copies (column + 1) ' ' ++ copies (max width 1) '^' ++ "\n"

/-- A report of a misfit. -/
def report (text : Octets) (misfit : Misfit) (extent : Option Extent) : String :=
  (match extent with
    | some extent => excerpt text extent
    | none => "") ++ misfit.message ++ "\n"

/-! ### Decoding -/

/-- The value that a document writes. -/
def decode {Value : Type} (shape : Shape Value) (text : Octets) : Except Fault Value :=
  match parse text with
  | none => .error .malformed
  | some node =>
    match shape.ofTree .toml node.toTree with
    | .ok value => .ok value
    | .error misplaced => .error (.misfit misplaced.misfit (node.locate none misplaced.path))

end LatencyService.Toml
