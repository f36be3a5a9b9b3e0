/-
Parsed TOML documents with the places of their values. A place is told by what
remains of the document from there on, so that reading need not count; octets
are counted only when a place is reported. Tables remember how they came to
be, because that decides whether the document may add to them later.
-/

import LatencyService.Schema.Misfit
import LatencyService.Text.Octets

namespace LatencyService.Toml

/-- A stretch of a document: what remains where it begins, and what remains where it ends. -/
structure Extent where
  start : Octets
  stop : Octets

/-- A key and where it stands. -/
structure Name where
  text : String
  extent : Extent

/-- How a table came to be. -/
inductive Origin where
  /-- By a header of its own. -/
  | headed
  /-- On the way to a table with a header; a header of its own may follow. -/
  | passed
  /-- By keys with dots; more such keys may follow. -/
  | dotted
  /-- In braces, which hold all of it. -/
  | braced
  deriving DecidableEq, Repr

/-- A value of a document. Entries of tables and members of a list of tables stand latest
first. -/
inductive Node where
  | scalar (value : Tree) (extent : Extent)
  | list (items : List Node) (extent : Extent)
  | table (origin : Origin) (entries : List (Name × Node)) (extent : Option Extent)
  | tables (members : List Node)

/-- The entries of a table, latest first. -/
abbrev Entries := List (Name × Node)

namespace Node

/-! ### The value without its places -/

mutual

/-- The value of a node. -/
def toTree : Node → Tree
  | scalar value _ => value
  | list items _ => .list (toTrees items)
  | table _ entries _ => .table (toPairs entries).reverse
  | tables members => .list (toTrees members).reverse

/-- The values of nodes, in their order. -/
def toTrees : List Node → List Tree
  | [] => []
  | node :: rest => toTree node :: toTrees rest

/-- The entries of a table, in their order. -/
def toPairs : List (Name × Node) → List (String × Tree)
  | [] => []
  | (name, node) :: rest => (name.text, toTree node) :: toPairs rest

end

/-! ### Places -/

/-- Where the node stands, if it stands in one piece. -/
def extent? : Node → Option Extent
  | scalar _ extent => some extent
  | list _ extent => some extent
  | table _ _ extent => extent
  | tables members =>
    match members.getLast?, members.head? with
    | some (table _ _ (some first)), some (table _ _ (some last)) =>
      some ⟨first.start, last.stop⟩
    | _, _ => none

/-- The entry of a key. -/
def entry? (entries : Entries) (key : String) : Option (Name × Node) :=
  entries.find? fun entry => entry.1.text == key

/-- Where the value at a path stands; as long as that is not in one piece, the nearest place on
the way: `best` is the one so far. -/
def locate (best : Option Extent) : Node → List Step → Option Extent
  | _, [] => best
  | table _ entries _, .key key :: rest =>
    match entry? entries key with
    | none => best
    | some (name, node) => locate (some (node.extent?.getD name.extent)) node rest
  | table _ entries _, .name key :: _ =>
    match entry? entries key with
    | none => best
    | some (name, _) => some name.extent
  | list items _, .index position :: rest =>
    match items[position]? with
    | none => best
    | some node => locate (node.extent?.or best) node rest
  | tables members, .index position :: rest =>
    match members.reverse[position]? with
    | none => best
    | some node => locate (node.extent?.or best) node rest
  | _, _ => best

end Node

end LatencyService.Toml
