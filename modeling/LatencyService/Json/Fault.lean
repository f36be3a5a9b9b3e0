/-
What can be wrong with a JSON text, and where. A fault keeps the input that
was not yet consumed when it was noticed; the line and the column follow from
the length of what was. A misfit found inside a container has no place of its
own until the container is closed, so such a fault is not yet settled.
-/

import LatencyService.Text.Octets
import LatencyService.Schema.Misfit

namespace LatencyService.Json

/-- What is wrong. -/
inductive Cause where
  | endOfValue
  | endOfString
  | endOfList
  | endOfObject
  | expectedColon
  | expectedListCommaOrEnd
  | expectedObjectCommaOrEnd
  | expectedValue
  | expectedWord
  | keyMustBeString
  | trailingComma
  | trailingCharacters
  | invalidNumber
  | numberOutOfRange
  | invalidEscape
  | controlCharacter
  | invalidCodePoint
  | loneSurrogate
  | unfinishedSurrogate
  | tooDeep
  /-- The text is well formed so far, but a value does not fit. -/
  | misfit (misfit : Misfit)
  deriving DecidableEq, Repr

namespace Cause

/-- The cause in words. -/
def message : Cause → String
  | endOfValue => "EOF while parsing a value"
  | endOfString => "EOF while parsing a string"
  | endOfList => "EOF while parsing a list"
  | endOfObject => "EOF while parsing an object"
  | expectedColon => "expected `:`"
  | expectedListCommaOrEnd => "expected `,` or `]`"
  | expectedObjectCommaOrEnd => "expected `,` or `\x7d`"
  | expectedValue => "expected value"
  | expectedWord => "expected ident"
  | keyMustBeString => "key must be a string"
  | trailingComma => "trailing comma"
  | trailingCharacters => "trailing characters"
  | invalidNumber => "invalid number"
  | numberOutOfRange => "number out of range"
  | invalidEscape => "invalid escape"
  | controlCharacter =>
    "control character (\\u0000-\\u001F) found while parsing a string"
  | invalidCodePoint => "invalid unicode code point"
  | loneSurrogate => "lone leading surrogate in hex escape"
  | unfinishedSurrogate => "unexpected end of hex escape"
  | tooDeep => "recursion limit exceeded"
  | misfit reason => reason.message

/-- The text is not JSON, as against JSON that does not fit. -/
def isSyntax : Cause → Bool
  | misfit _ => false
  | _ => true

end Cause

/-- A fault met while reading a text. -/
structure Fault where
  cause : Cause
  /-- What was left of the text where the fault was noticed. -/
  rest : Octets
  /-- The place is final; if not, the end of the enclosing container is the place. -/
  settled : Bool := true
  /-- The way from the root to the part being read. -/
  path : List Step := []
  deriving DecidableEq, Repr

namespace Fault

/-- A fault right after what was consumed. -/
def here (cause : Cause) (rest : Octets) : Fault := ⟨cause, rest, true, []⟩

/-- A fault at the octet that comes next. -/
def ahead (cause : Cause) (rest : Octets) : Fault := ⟨cause, rest.drop 1, true, []⟩

/-- A misfit whose place is the end of the enclosing container. -/
def pending (reason : Misfit) (rest : Octets) : Fault := ⟨.misfit reason, rest, false, []⟩

/-- The same fault, seen from one step nearer to the root. -/
def under (step : Step) (fault : Fault) : Fault := { fault with path := step :: fault.path }

end Fault

/-- A place in a text. -/
structure Position where
  line : Nat
  column : Nat
  deriving DecidableEq, Repr

namespace Position

/-- The place reached after the octets, counting lines from one and octets within a line from
zero. -/
def after (consumed : Octets) : Position :=
  consumed.foldl
    (fun position octet =>
      if octet == Octet.lineFeed then ⟨position.line + 1, 0⟩
      else ⟨position.line, position.column + 1⟩)
    ⟨1, 0⟩

end Position

namespace Fault

/-- The place of the fault in the text that was read. -/
def position (fault : Fault) (text : Octets) : Position :=
  Position.after (text.take (text.length - fault.rest.length))

/-- The fault in words, with its place in the text that was read. -/
def message (fault : Fault) (text : Octets) : String :=
  let place := fault.position text
  fault.cause.message ++ " at line " ++ toString place.line ++ " column " ++ toString place.column

end Fault

end LatencyService.Json
