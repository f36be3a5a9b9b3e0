/-
Values written as JSON text: no white space, the entries of a table in their
order, and in strings only what has to be escaped.
-/

import LatencyService.Text.Ascii
import LatencyService.Number.Shortest
import LatencyService.Tree

namespace LatencyService.Json

/-! ### Strings -/

/-- How one character is written between the quotes of a string. Controls without a short form
are written by their number in four digits. -/
def escape (char : Char) : List Char :=
  match char with
  | '"' => ['\\', '"']
  | '\\' => ['\\', '\\']
  | '\n' => ['\\', 'n']
  | '\r' => ['\\', 'r']
  | '\t' => ['\\', 't']
  | '\x08' => ['\\', 'b']
  | '\x0c' => ['\\', 'f']
  | _ =>
    if char.toNat < 0x20 then
      ['\\', 'u', '0', '0', Ascii.hexDigit (char.toNat / 16), Ascii.hexDigit (char.toNat % 16)]
    else [char]

/-- A string with its quotes. -/
def quote (text : String) : String :=
  String.ofList ('"' :: (text.toList.flatMap escape ++ ['"']))

/-! ### Containers -/

/-- Written items between brackets. -/
def array (items : List String) : String := "[" ++ String.intercalate "," items ++ "]"

/-- Written values under their keys, between braces. -/
def object (entries : List (String × String)) : String :=
  "\x7b" ++ String.intercalate "," (entries.map fun entry => quote entry.1 ++ ":" ++ entry.2) ++
    "\x7d"

mutual

/-- A tree as JSON text. -/
def render : Tree → String
  | .null => "null"
  | .boolean value => if value then "true" else "false"
  | .integer value => toString value
  | .decimal bits => Binary64.compactText bits
  | .text value => quote value
  | .moment value => quote value
  | .list items => array (renderItems items)
  | .table entries => object (renderEntries entries)

/-- The items of a list, each as JSON text. -/
def renderItems : List Tree → List String
  | [] => []
  | item :: rest => render item :: renderItems rest

/-- The entries of a table, each value as JSON text. -/
def renderEntries : List (String × Tree) → List (String × String)
  | [] => []
  | (key, value) :: rest => (key, render value) :: renderEntries rest

end

end LatencyService.Json
