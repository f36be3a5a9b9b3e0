/-
Whole TOML documents: entries line by line, in sections. A header in single
brackets opens a table that has not been written yet, and one in double
brackets adds a table to a list of tables; the tables on the way to it may be
missing. The entries of a section are gathered before its table takes its
place.
-/

import LatencyService.Toml.Value

namespace LatencyService.Toml

/-! ### Sections -/

/-- A section under a header: the path to its table, whether it adds to a list of tables, the
entries so far and the stretch of the document from the header to the last value. -/
structure Heading where
  path : List Name
  name : Name
  isMember : Bool
  extent : Extent

/-- Change the entries of the table at the end of a path, and make the tables on the way that are
missing. A list of tables stands for its last table. -/
def changeAt {Result : Type} (change : Entries → Option (Entries × Result)) :
    List Name → Entries → Option (Entries × Result)
  | [], entries => change entries
  | step :: rest, entries =>
    match Node.entry? entries step.text with
    | none =>
      (changeAt change rest []).map fun (inner, result) =>
        ((step, .table .passed inner none) :: entries, result)
    | some (_, .table origin inner extent) =>
      if origin == .braced then none
      else
        (changeAt change rest inner).map fun (inner, result) =>
          (replaceNode step.text (.table origin inner extent) entries, result)
    | some (_, .tables (.table origin inner extent :: others)) =>
      (changeAt change rest inner).map fun (inner, result) =>
        (replaceNode step.text (.tables (.table origin inner extent :: others)) entries, result)
    | some _ => none

/-- Take the entries of a table out of those around it: there are none unless headers have passed
through it, and it must not have been written in any way. -/
def takeTable (key : String) (entries : Entries) : Option (Entries × Entries) :=
  match Node.entry? entries key with
  | none => some (entries, [])
  | some (_, .table .passed inner _) => some (entries.filter (·.1.text != key), inner)
  | some _ => none

/-- Put a table behind the entries around it. -/
def putTable (name : Name) (table : Node) (entries : Entries) : Option (Entries × Unit) :=
  if (Node.entry? entries name.text).isSome then none else some ((name, table) :: entries, ())

/-- Add a table to a list of tables, which may be missing. -/
def putMember (name : Name) (table : Node) (entries : Entries) : Option (Entries × Unit) :=
  match Node.entry? entries name.text with
  | none => some ((name, .tables [table]) :: entries, ())
  | some (_, .tables members) =>
    some (replaceNode name.text (.tables (table :: members)) entries, ())
  | some _ => none

/-- What has been read: the entries of the document, and of the section that is open. -/
structure Progress where
  root : Entries
  heading : Option Heading
  entries : Entries

namespace Progress

/-- The entries of the document once the open section has taken its place. -/
def close (progress : Progress) : Option Entries :=
  match progress.heading with
  | none => some progress.entries
  | some heading =>
    let table : Node := .table .headed progress.entries (some heading.extent)
    let put := if heading.isMember then putMember heading.name table
      else putTable heading.name table
    (changeAt put heading.path progress.root).map (·.1)

/-- Close the open section and open another. -/
def openSection (progress : Progress) (heading : Heading) : Option Progress :=
  match progress.close with
  | none => none
  | some root =>
    if heading.isMember then some ⟨root, some heading, []⟩
    else
      (changeAt (takeTable heading.name.text) heading.path root).map fun (root, entries) =>
        ⟨root, some heading, entries⟩

/-- Add an entry to the open section. -/
def add (progress : Progress) (path : List Name) (name : Name) (value : Node) :
    Option Progress :=
  (insertAt name value path progress.entries).map fun entries =>
    let heading := progress.heading.map fun heading =>
      match value.extent? with
      | some extent => { heading with extent := ⟨heading.extent.start, extent.stop⟩ }
      | none => heading
    { progress with entries, heading }

end Progress

/-! ### Reading -/

/-- A header behind its first bracket, which stands where `start` does. -/
def readHeading (start : Octets) : Reader Heading := fun input =>
  let isMember := input.head? == some Octet.openBracket
  match readKey (if isMember then input.drop 1 else input) with
  | some ((path, name), Octet.closeBracket :: rest) =>
    if isMember then
      match rest with
      | Octet.closeBracket :: rest => some (⟨path, name, true, ⟨start, rest⟩⟩, rest)
      | _ => none
    else some (⟨path, name, false, ⟨start, rest⟩⟩, rest)
  | _ => none

/-- The document after what has been read. Every step but the last consumes an octet, and so `fuel`
may be one more than the length of the input. -/
def readSections (fuel : Nat) (progress : Progress) (input : Octets) : Option Entries :=
  match fuel with
  | 0 => none
  | fuel + 1 =>
    match skipLines false input with
    | none => none
    | some [] => progress.close
    | some (first :: rest) =>
      if first == Octet.openBracket then
        match readHeading (first :: rest) rest with
        | none => none
        | some (heading, rest) =>
          match progress.openSection heading, endLine rest with
          | some progress, some rest => readSections fuel progress rest
          | _, _ => none
      else
        match readEntry (first :: rest) with
        | none => none
        | some ((path, name, value), rest) =>
          match progress.add path name value, endLine rest with
          | some progress, some rest => readSections fuel progress rest
          | _, _ => none

/-- What remains after a mark of the byte order, which a document may begin with. -/
def skipMark : Octets → Octets
  | 0xEF :: 0xBB :: 0xBF :: rest => rest
  | input => input

/-- The document that a text writes. -/
def parse (text : Octets) : Option Node :=
  let input := skipMark text
  (readSections (input.length + 1) ⟨[], none, []⟩ input).map fun entries =>
    .table .headed entries none

end LatencyService.Toml
