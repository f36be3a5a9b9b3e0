/-
Parsed documents: trees of values whose shape is not known in advance. The
entries of a table keep the order in which the document's format hands them
on; a key occurs once.
-/

namespace LatencyService

/-- A value of a parsed document. -/
inductive Tree where
  | null
  | boolean (value : Bool)
  | integer (value : Int)
  /-- A number in binary floating point, by its bits. -/
  | decimal (bits : UInt64)
  | text (value : String)
  /-- A date or a time, as the document writes it. -/
  | moment (value : String)
  | list (items : List Tree)
  | table (entries : List (String × Tree))
  deriving Inhabited, Repr

namespace Tree

/-- The value of a key in a list of entries. -/
def find? (key : String) (entries : List (String × Tree)) : Option Tree :=
  (entries.find? fun entry => entry.1 == key).map (·.2)

/-- The value of a key, if the tree is a table that has it. -/
def get? (tree : Tree) (key : String) : Option Tree :=
  match tree with
  | table entries => find? key entries
  | _ => none

/-- The entries with one more at its place in the order of keys; an entry of the same key gives
way to it. -/
def insertSorted (key : String) (value : Tree) : List (String × Tree) → List (String × Tree)
  | [] => [(key, value)]
  | entry :: rest =>
    if key < entry.1 then (key, value) :: entry :: rest
    else if key == entry.1 then (key, value) :: rest
    else entry :: insertSorted key value rest

end Tree

end LatencyService
