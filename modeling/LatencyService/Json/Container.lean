/-
The frame of lists and tables in a JSON text: what separates their parts and
what ends them. A container that is being closed after a misfit inside it
still takes its closing octet when that comes next, and the misfit is then
placed after it.
-/

import LatencyService.Json.Skip

namespace LatencyService.Json

/-- How many containers may be open around a value, one more than are allowed. -/
def depthLimit : Nat := 128

/-- One container more is opened; the fault when that is one too many. -/
def descend (depth : Nat) (input : Octets) : Except Fault Nat :=
  if depth ≤ 1 then .error (.ahead .tooDeep input) else .ok (depth - 1)

/-! ### Lists -/

/-- Where the next item of a list begins; `none` when the list ends, with its end still to be
consumed. -/
def nextItem? (isFirst : Bool) (input : Octets) : Except Fault (Option Octets) :=
  match skipBlanks input with
  | [] => .error (.ahead .endOfList [])
  | octet :: rest =>
    if octet == Octet.closeBracket then .ok none
    else if isFirst then .ok (some (octet :: rest))
    else if octet != Octet.comma then .error (.ahead .expectedListCommaOrEnd (octet :: rest))
    else
      match skipBlanks rest with
      | [] => .error (.ahead .endOfValue [])
      | octet :: rest =>
        if octet == Octet.closeBracket then .error (.ahead .trailingComma (octet :: rest))
        else .ok (some (octet :: rest))

/-- Close a list after its items were read. -/
def closeList {Value : Type} (items : Except Fault (Value × Octets)) :
    Except Fault (Value × Octets) :=
  match items with
  | .ok (value, rest) =>
    match skipBlanks rest with
    | [] => .error (.ahead .endOfList [])
    | octet :: rest =>
      if octet == Octet.closeBracket then .ok (value, rest)
      else if octet != Octet.comma then .error (.ahead .trailingCharacters (octet :: rest))
      else
        match skipBlanks rest with
        | Octet.closeBracket :: rest =>
          .error (.ahead .trailingComma (Octet.closeBracket :: rest))
        | rest => .error (.ahead .trailingCharacters rest)
  | .error fault =>
    if fault.settled then .error fault
    else
      let rest := match skipBlanks fault.rest with
        | Octet.closeBracket :: rest => rest
        | Octet.comma :: rest => skipBlanks rest
        | rest => rest
      .error { fault with rest := rest, settled := true }

/-! ### Tables -/

/-- The next key of a table, and the input after it; `none` when the table ends, with its end
still to be consumed. -/
def nextKey? (isFirst : Bool) (input : Octets) : Except Fault (Option (String × Octets)) :=
  let key := fun (input : Octets) =>
    match readString input with
    | .ok (text, rest) => Except.ok (some (text, rest))
    | .error fault => .error fault
  match skipBlanks input with
  | [] => .error (.ahead .endOfObject [])
  | octet :: rest =>
    if octet == Octet.closeBrace then .ok none
    else if isFirst then
      if octet == Octet.quote then key rest else .error (.ahead .keyMustBeString (octet :: rest))
    else if octet != Octet.comma then .error (.ahead .expectedObjectCommaOrEnd (octet :: rest))
    else
      match skipBlanks rest with
      | [] => .error (.ahead .endOfValue [])
      | octet :: rest =>
        if octet == Octet.quote then key rest
        else if octet == Octet.closeBrace then .error (.ahead .trailingComma (octet :: rest))
        else .error (.ahead .keyMustBeString (octet :: rest))

/-- The input after the colon that follows a key. -/
def readColon (input : Octets) : Except Fault Octets :=
  match skipBlanks input with
  | [] => .error (.ahead .endOfObject [])
  | octet :: rest =>
    if octet == Octet.colon then .ok rest else .error (.ahead .expectedColon (octet :: rest))

/-- Close a table after its entries were read. -/
def closeTable {Value : Type} (entries : Except Fault (Value × Octets)) :
    Except Fault (Value × Octets) :=
  match entries with
  | .ok (value, rest) =>
    match skipBlanks rest with
    | [] => .error (.ahead .endOfObject [])
    | octet :: rest =>
      if octet == Octet.closeBrace then .ok (value, rest)
      else if octet == Octet.comma then .error (.ahead .trailingComma (octet :: rest))
      else .error (.ahead .trailingCharacters (octet :: rest))
  | .error fault =>
    if fault.settled then .error fault
    else
      let rest := match skipBlanks fault.rest with
        | Octet.closeBrace :: rest => rest
        | rest => rest
      .error { fault with rest := rest, settled := true }

/-! ### Trees -/

mutual

/-- The value that begins here, whatever its shape. Every step consumes an octet, and so `fuel`
may be the length of the input. -/
def readTree (fuel depth : Nat) (input : Octets) : Except Fault (Tree × Octets) :=
  match fuel with
  | 0 => .error (.ahead .endOfValue [])
  | fuel + 1 =>
    let input := skipBlanks input
    let word := fun (value : Tree) (read : Except Fault Octets) =>
      match read with
      | .ok rest => Except.ok (value, rest)
      | .error fault => .error fault
    match input with
    | [] => .error (.ahead .endOfValue [])
    | Octet.smallN :: rest => word .null (readWord nullTail rest)
    | Octet.smallT :: rest => word (.boolean true) (readWord trueTail rest)
    | Octet.smallF :: rest => word (.boolean false) (readWord falseTail rest)
    | Octet.quote :: rest =>
      match readString rest with
      | .ok (text, rest) => .ok (.text text, rest)
      | .error fault => .error fault
    | Octet.openBracket :: rest =>
      match descend depth input with
      | .error fault => .error fault
      | .ok depth => closeList (readTreeItems fuel depth 0 [] rest)
    | Octet.openBrace :: rest =>
      match descend depth input with
      | .error fault => .error fault
      | .ok depth => closeTable (readTreeEntries fuel depth true [] rest)
    | _ =>
      match number? input with
      | some (.ok (number, rest)) => .ok (number.toTree, rest)
      | some (.error fault) => .error fault
      | none => .error (.ahead .expectedValue input)

/-- The items of a list after `done`, which holds those before in reverse. -/
def readTreeItems (fuel depth index : Nat) (done : List Tree) (input : Octets) :
    Except Fault (Tree × Octets) :=
  match fuel with
  | 0 => .error (.ahead .endOfList [])
  | fuel + 1 =>
    match nextItem? (index == 0) input with
    | .error fault => .error (fault.under (.index index))
    | .ok none => .ok (.list done.reverse, input)
    | .ok (some rest) =>
      match readTree fuel depth rest with
      | .error fault => .error (fault.under (.index index))
      | .ok (item, rest) => readTreeItems fuel depth (index + 1) (item :: done) rest

/-- The entries of a table after `done`, in the order of their keys; the last entry of a key
counts. -/
def readTreeEntries (fuel depth : Nat) (isFirst : Bool) (done : List (String × Tree))
    (input : Octets) : Except Fault (Tree × Octets) :=
  match fuel with
  | 0 => .error (.ahead .endOfObject [])
  | fuel + 1 =>
    match nextKey? isFirst input with
    | .error fault => .error (fault.under .unknown)
    | .ok none => .ok (.table done, input)
    | .ok (some (key, rest)) =>
      match readColon rest with
      | .error fault => .error (fault.under (.key key))
      | .ok rest =>
        match readTree fuel depth rest with
        | .error fault => .error (fault.under (.key key))
        | .ok (value, rest) =>
          readTreeEntries fuel depth false (Tree.insertSorted key value done) rest

end

/-! ### Whole texts -/

/-- The value that fills a whole text. -/
def whole {Value : Type} (read : Octets → Except Fault (Value × Octets)) (text : Octets) :
    Except Fault Value :=
  match read text with
  | .error fault => .error fault
  | .ok (value, rest) =>
    match skipBlanks rest with
    | [] => .ok value
    | rest => .error (.ahead .trailingCharacters rest)

/-- The tree that a whole text writes. -/
def parse (text : Octets) : Except Fault Tree :=
  whole (readTree (2 * text.length + 2) depthLimit) text

end LatencyService.Json
