/-
Why a value of a document does not fit the shape that is asked of it, and the
place in the document where it stands. The texts name what was found and what
was expected; they are the same for every kind of document.
-/

import LatencyService.Text.Quoted
import LatencyService.Tree

namespace LatencyService

/-- A step from a value of a document to one of its parts. -/
inductive Step where
  /-- The value under a key. -/
  | key (name : String)
  /-- The item with an index. -/
  | index (position : Nat)
  /-- A part that has no name because its key could not be read. -/
  | unknown
  /-- The key itself, not its value. -/
  | name (key : String)
  deriving DecidableEq, Repr

namespace Step

/-- A path in words: names after dots, indices in brackets. A path of unnamed steps says nothing
and is left out. -/
def describe (path : List Step) : Option String :=
  if path.all (· == unknown) then none
  else
    let piece := fun (first : Bool) (step : Step) =>
      let dot := if first then "" else "."
      match step with
      | .key word => dot ++ word
      | .index position => "[" ++ toString position ++ "]"
      | .unknown => dot ++ "?"
      | .name word => dot ++ word
    match path with
    | [] => none
    | first :: rest =>
      some (rest.foldl (fun text step => text ++ piece false step) (piece true first))

end Step

/-- What was found, for a message. -/
inductive Found where
  | null
  | boolean (value : Bool)
  | integer (value : Int)
  /-- A number with a fraction or an exponent, as its document writes it. -/
  | decimal (text : String)
  | text (value : String)
  | list
  | table
  deriving DecidableEq, Repr

namespace Found

/-- What was found, in words. -/
def describe : Found → String
  | .null => "null"
  | .boolean value => "boolean `" ++ (if value then "true" else "false") ++ "`"
  | .integer value => "integer `" ++ toString value ++ "`"
  | .decimal digits => "floating point `" ++ digits ++ "`"
  | .text value => "string " ++ Quoted.quoted value
  | .list => "sequence"
  | .table => "map"

end Found

/-- Why a value does not fit. -/
inductive Misfit where
  | wrongType (found : Found) (expected : String)
  | wrongValue (found : Found) (expected : String)
  | wrongLength (count : Nat) (expected : String)
  | missingField (name : String)
  | duplicateField (name : String)
  | unknownVariant (name : String) (known : List String)
  /-- A choice is written by no string and no table. -/
  | notAChoice
  /-- A choice is written by a table of some other number of entries than one. -/
  | notOneEntry (isEmpty : Bool)
  /-- The entry of a chosen variant holds something. -/
  | notEmpty (container : String)
  /-- The entry of a chosen variant is no container. -/
  | notAContainer (found : String)
  deriving DecidableEq, Repr

namespace Misfit

/-- The known names of a choice, in words. -/
def oneOf : List String → String
  | [] => "there are no variants"
  | [only] => "expected `" ++ only ++ "`"
  | [first, second] => "expected `" ++ first ++ "` or `" ++ second ++ "`"
  | names =>
    "expected one of " ++ String.intercalate ", " (names.map fun name => "`" ++ name ++ "`")

/-- The reason in words. -/
def message : Misfit → String
  | wrongType found expected => "invalid type: " ++ found.describe ++ ", expected " ++ expected
  | wrongValue found expected => "invalid value: " ++ found.describe ++ ", expected " ++ expected
  | wrongLength count expected => "invalid length " ++ toString count ++ ", expected " ++ expected
  | missingField name => "missing field `" ++ name ++ "`"
  | duplicateField name => "duplicate field `" ++ name ++ "`"
  | unknownVariant name known => "unknown variant `" ++ name ++ "`, " ++ oneOf known
  | notAChoice => "wanted string or table"
  | notOneEntry true => "wanted exactly 1 element, found 0 elements"
  | notOneEntry false => "wanted exactly 1 element, more than 1 element"
  | notEmpty container => "expected empty " ++ container
  | notAContainer found => "expected table, found " ++ found

end Misfit

/-- A misfit and the path from the root of the document to the value that does not fit. -/
structure Misplaced where
  misfit : Misfit
  path : List Step := []
  deriving DecidableEq, Repr

namespace Misplaced

/-- The same misfit, seen from one step nearer to the root. -/
def under (step : Step) (misplaced : Misplaced) : Misplaced :=
  { misplaced with path := step :: misplaced.path }

end Misplaced

end LatencyService
