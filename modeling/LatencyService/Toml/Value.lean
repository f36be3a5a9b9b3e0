/-
Values of TOML: scalars, lists in brackets, which may run over several lines,
and tables in braces, which may not. A key with dots stands for tables within
tables; such a key may add to a table that other keys with dots have made, but
not to one that was written in any other way.
-/

import LatencyService.Toml.Scalar

namespace LatencyService.Toml

/-! ### Adding to tables -/

/-- The entries with another node under a key that they have, at the same place. -/
def replaceNode (key : String) (node : Node) (entries : Entries) : Entries :=
  entries.map fun entry => if entry.1.text == key then (entry.1, node) else entry

/-- The entries with a value at the end of a path of keys with dots between them, which makes the
tables on the way that are missing. The key must be new, and its table, unless it is the one that
the path starts from, must be made by keys with dots. -/
def insertAt (name : Name) (value : Node) : List Name → Entries → Option Entries
  | [], entries =>
    if (Node.entry? entries name.text).isSome then none else some ((name, value) :: entries)
  | step :: rest, entries =>
    match Node.entry? entries step.text with
    | none =>
      (insertAt name value rest []).map fun inner => (step, .table .dotted inner none) :: entries
    | some (_, .table origin inner extent) =>
      if origin == .dotted || (origin == .passed && !rest.isEmpty) then
        (insertAt name value rest inner).map fun inner =>
          replaceNode step.text (.table origin inner extent) entries
      else none
    | some (_, .tables (.table origin inner extent :: others)) =>
      if rest.isEmpty then none
      else
        (insertAt name value rest inner).map fun inner =>
          replaceNode step.text (.tables (.table origin inner extent :: others)) entries
    | some _ => none

/-! ### Reading -/

mutual

/-- A value, within `depth` more containers. Every call either consumes an octet or is followed by
one that does, and so twice the length of the input is enough `fuel`. -/
def readNode (fuel depth : Nat) : Reader Node := fun input =>
  match fuel with
  | 0 => none
  | fuel + 1 =>
    match input with
    | [] => none
    | first :: rest =>
      if first == Octet.openBracket then
        match depth with
        | 0 => none
        | depth + 1 =>
          match readItems fuel depth [] rest with
          | some (items, rest) => some (.list items.reverse ⟨input, rest⟩, rest)
          | none => none
      else if first == Octet.openBrace then
        match depth with
        | 0 => none
        | depth + 1 =>
          match readPairs fuel depth [] (skipBlanks rest) with
          | some (entries, rest) => some (.table .braced entries (some ⟨input, rest⟩), rest)
          | none => none
      else
        let read := if (stringMark? first).isSome then
            (readString input).map fun (text, rest) => (Tree.text text, rest)
          else readWord input
        read.map fun (value, rest) => (.scalar value ⟨input, rest⟩, rest)

/-- The items of a list up to its bracket, in reverse after `done`. -/
def readItems (fuel depth : Nat) (done : List Node) : Reader (List Node) := fun input =>
  match fuel with
  | 0 => none
  | fuel + 1 =>
    match skipLines false input with
    | none => none
    | some (Octet.closeBracket :: rest) => some (done, rest)
    | some input =>
      match readNode fuel depth input with
      | none => none
      | some (node, rest) =>
        match skipLines false rest with
        | some (Octet.comma :: rest) => readItems fuel depth (node :: done) rest
        | some (Octet.closeBracket :: rest) => some (node :: done, rest)
        | _ => none

/-- The entries of a table in braces up to its brace, added to `done`. -/
def readPairs (fuel depth : Nat) (done : Entries) : Reader Entries := fun input =>
  match fuel with
  | 0 => none
  | fuel + 1 =>
    match input with
    | Octet.closeBrace :: rest => if done.isEmpty then some (done, rest) else none
    | _ =>
      match readKey input with
      | some ((path, name), 0x3D :: rest) =>
        match readNode fuel depth (skipBlanks rest) with
        | none => none
        | some (node, rest) =>
          match insertAt name node path done with
          | none => none
          | some entries =>
            match skipBlanks rest with
            | Octet.comma :: rest => readPairs fuel depth entries (skipBlanks rest)
            | Octet.closeBrace :: rest => some (entries, rest)
            | _ => none
      | _ => none

end

/-- A value. -/
def readValue : Reader Node := fun input => readNode (2 * input.length + 2) depthLimit input

/-- A key, an equals sign and a value: the parts of the key before the last one, the last one and
the value. -/
def readEntry : Reader (List Name × Name × Node) := fun input =>
  match readKey input with
  | some ((path, name), 0x3D :: rest) =>
    (readValue (skipBlanks rest)).map fun (node, rest) => ((path, name, node), rest)
  | _ => none

end LatencyService.Toml
