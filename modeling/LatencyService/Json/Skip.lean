/-
Passing over values that nobody asked for. What is passed over has to be well
formed, but it may be nested to any depth, its strings need not be text, and
its numbers may be of any size, so this is a reader of its own: a loop over
the containers that are still open.
-/

import LatencyService.Json.Lexeme

namespace LatencyService.Json

/-! ### Scalars -/

/-- The input after a string whose opening quote was consumed. -/
def skipString : Octets → Except Fault Octets
  | [] => .error (.here .endOfString [])
  | octet :: rest =>
    if octet == Octet.quote then .ok rest
    else if octet == Octet.backslash then
      match rest with
      | [] => .error (.here .endOfString [])
      | letter :: rest =>
        if (shortEscape? letter).isSome then skipString rest
        else if letter != Octet.smallU then .error (.here .invalidEscape rest)
        else
          match rest with
          | a :: b :: c :: d :: rest =>
            if (hexUnit? a b c d).isSome then skipString rest
            else .error (.here .invalidEscape rest)
          | _ => .error (.here .endOfString [])
    else if octet < 0x20 then .error (.here .controlCharacter (octet :: rest))
    else skipString rest

/-- The input after an exponent whose letter was consumed. -/
def skipExponent (input : Octets) : Except Fault Octets :=
  match (readSign input).2 with
  | [] => .error (.here .invalidNumber [])
  | octet :: rest =>
    if Octet.isDigit octet then .ok (spanDigits rest).2 else .error (.here .invalidNumber rest)

/-- The input after the fraction and the exponent of a number, if it has them. -/
def skipFraction (input : Octets) : Except Fault Octets :=
  match input with
  | Octet.dot :: rest =>
    let (places, rest) := spanDigits rest
    if places.isEmpty then .error (.ahead .invalidNumber rest)
    else
      match rest with
      | Octet.smallE :: rest => skipExponent rest
      | Octet.capitalE :: rest => skipExponent rest
      | _ => .ok rest
  | Octet.smallE :: rest => skipExponent rest
  | Octet.capitalE :: rest => skipExponent rest
  | _ => .ok input

/-- The input after a number whose sign was consumed. -/
def skipNumber (input : Octets) : Except Fault Octets :=
  match input with
  | [] => .error (.here .invalidNumber [])
  | first :: rest =>
    if !Octet.isDigit first then .error (.here .invalidNumber rest)
    else if first == Octet.zero then
      if rest.head?.any Octet.isDigit then .error (.ahead .invalidNumber rest)
      else skipFraction rest
    else skipFraction (spanDigits rest).2

/-- The input after a scalar, if one begins here. -/
def skipScalar? (input : Octets) : Option (Except Fault Octets) :=
  match input with
  | Octet.smallN :: rest => some (readWord nullTail rest)
  | Octet.smallT :: rest => some (readWord trueTail rest)
  | Octet.smallF :: rest => some (readWord falseTail rest)
  | Octet.quote :: rest => some (skipString rest)
  | Octet.minus :: rest => some (skipNumber rest)
  | first :: _ => if Octet.isDigit first then some (skipNumber input) else none
  | [] => none

/-! ### Containers -/

/-- A container that is still open. -/
inductive Frame where
  | list
  | table
  deriving DecidableEq, Repr

namespace Frame

/-- The octet that closes the container. -/
def closing : Frame → UInt8
  | list => Octet.closeBracket
  | table => Octet.closeBrace

/-- What is wrong when the text ends inside the container. -/
def cutOff : Frame → Cause
  | list => .endOfList
  | table => .endOfObject

/-- What is wrong when neither a comma nor the end follows a part. -/
def commaOrEnd : Frame → Cause
  | list => .expectedListCommaOrEnd
  | table => .expectedObjectCommaOrEnd

end Frame

/-- The input after a key and its colon. -/
def skipKey (input : Octets) : Except Fault Octets :=
  match skipBlanks input with
  | [] => .error (.ahead .endOfObject [])
  | octet :: rest =>
    if octet != Octet.quote then .error (.ahead .keyMustBeString (octet :: rest))
    else
      match skipString rest with
      | .error fault => .error fault
      | .ok rest =>
        match skipBlanks rest with
        | [] => .error (.ahead .endOfObject [])
        | octet :: rest =>
          if octet == Octet.colon then .ok rest
          else .error (.ahead .expectedColon (octet :: rest))

/-- What is expected next while values are passed over. -/
inductive Expectation where
  /-- A value. -/
  | value
  /-- The first part of the innermost container, or its end. -/
  | first
  /-- The end of the innermost container, or a comma. -/
  | next
  deriving DecidableEq, Repr

/-- The input after the open containers, innermost first, are closed. -/
def skipOpen (fuel : Nat) (expectation : Expectation) (pending : List Frame) (input : Octets) :
    Except Fault Octets :=
  match fuel with
  | 0 => .error (.here .endOfValue input)
  | fuel + 1 =>
    match expectation, pending with
    | .value, _ =>
      let input := skipBlanks input
      match skipScalar? input with
      | some (.error fault) => .error fault
      | some (.ok rest) => skipOpen fuel .next pending rest
      | none =>
        match input with
        | [] => .error (.ahead .endOfValue [])
        | Octet.openBracket :: rest => skipOpen fuel .first (.list :: pending) rest
        | Octet.openBrace :: rest => skipOpen fuel .first (.table :: pending) rest
        | _ => .error (.ahead .expectedValue input)
    | .next, [] => .ok input
    | .first, [] => .ok input
    | .first, frame :: outer =>
      match skipBlanks input with
      | [] => .error (.ahead frame.cutOff [])
      | octet :: rest =>
        if octet == frame.closing then skipOpen fuel .next outer rest
        else
          match frame with
          | .list => skipOpen fuel .value pending (octet :: rest)
          | .table =>
            match skipKey (octet :: rest) with
            | .error fault => .error fault
            | .ok rest => skipOpen fuel .value pending rest
    | .next, frame :: outer =>
      match skipBlanks input with
      | [] => .error (.ahead frame.cutOff [])
      | octet :: rest =>
        if octet == frame.closing then skipOpen fuel .next outer rest
        else if octet != Octet.comma then .error (.ahead frame.commaOrEnd (octet :: rest))
        else
          match frame with
          | .list => skipOpen fuel .value pending rest
          | .table =>
            match skipKey rest with
            | .error fault => .error fault
            | .ok rest => skipOpen fuel .value pending rest

/-- The input after one value. Every step but the first of a container consumes an octet, so
twice the length of the input bounds the steps. -/
def skipValue (input : Octets) : Except Fault Octets :=
  skipOpen (2 * input.length + 2) .value [] input

end LatencyService.Json
