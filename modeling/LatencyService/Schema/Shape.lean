/-
Shapes: what values of a type look like in a document. A shape tells both how
a value is read from a JSON text, as the text goes by, and how it is taken
from a tree that was parsed before. Only the reading of a text can place a
misfit in lines and columns; from a tree the path to the value is reported.

Trees come from two kinds of documents, which differ in how they word some
misfits and in what they let pass.
-/

import LatencyService.Json.Container

namespace LatencyService

/-- The kind of document a tree was parsed from. -/
inductive Dialect where
  | json
  | toml
  deriving DecidableEq, Repr

/-- What a tree is, for a message. A date counts as a table. -/
def Tree.found (dialect : Dialect) : Tree → Found
  | .null => .null
  | .boolean value => .boolean value
  | .integer value => .integer value
  | .decimal bits =>
    match dialect with
    | .json => .decimal (Binary64.compactText bits)
    | .toml => .decimal (Binary64.positionalText bits)
  | .text value => .text value
  | .moment _ => .table
  | .list _ => .list
  | .table _ => .table

/-- How the values of a type are written in documents. -/
structure Shape (Value : Type) where
  /-- Read a value from a JSON text, within so many containers still allowed. -/
  read : Nat → Octets → Except Json.Fault (Value × Octets)
  /-- Take a value from a parsed tree. -/
  ofTree : Dialect → Tree → Except Misplaced Value

namespace Shape

/-- The misfit of a tree that is not of the expected type. -/
def unexpected {Value : Type} (dialect : Dialect) (expected : String) (tree : Tree) :
    Except Misplaced Value :=
  .error ⟨.wrongType (tree.found dialect) expected, []⟩

/-- The value is taken from the text after blanks, and there has to be one. -/
def atValue {Value : Type} (read : Octets → Except Json.Fault (Value × Octets))
    (input : Octets) : Except Json.Fault (Value × Octets) :=
  match Json.skipBlanks input with
  | [] => .error (.ahead .endOfValue [])
  | input => read input

/-! ### Scalars -/

/-- A string. -/
def text : Shape String where
  read _ := atValue fun input =>
    match input with
    | Octet.quote :: rest => Json.readString rest
    | _ => .error (Json.mismatch "a string" input)
  ofTree dialect tree :=
    match tree with
    | .text value => .ok value
    | _ => unexpected dialect "a string" tree

/-- A truth value. -/
def boolean : Shape Bool where
  read _ := atValue fun input =>
    let word := fun (value : Bool) (read : Except Json.Fault Octets) =>
      match read with
      | .ok rest => Except.ok (value, rest)
      | .error fault => .error fault
    match input with
    | Octet.smallT :: rest => word true (Json.readWord Json.trueTail rest)
    | Octet.smallF :: rest => word false (Json.readWord Json.falseTail rest)
    | _ => .error (Json.mismatch "a boolean" input)
  ofTree dialect tree :=
    match tree with
    | .boolean value => .ok value
    | _ => unexpected dialect "a boolean" tree

/-- A whole number of a type that holds some of them; `name` is what messages call the type. -/
def whole {Value : Type} (name : String) (ofInt? : Int → Option Value) : Shape Value where
  read _ := atValue fun input =>
    match Json.number? input with
    | some (.ok (.integer value, rest)) =>
      match ofInt? value with
      | some held => .ok (held, rest)
      | none => .error (.here (.misfit (.wrongValue (.integer value) name)) rest)
    | some (.ok (number, rest)) =>
      .error (.here (.misfit (.wrongType number.found name)) rest)
    | some (.error fault) => .error fault
    | none => .error (Json.mismatch name input)
  ofTree dialect tree :=
    match tree with
    | .integer value =>
      match ofInt? value with
      | some held => .ok held
      | none => .error ⟨.wrongValue (.integer value) name, []⟩
    | _ => unexpected dialect name tree

/-- A whole number from zero to the greatest of sixty-four bits. -/
def natural64 : Shape UInt64 :=
  whole "u64" fun value =>
    if 0 ≤ value && value ≤ 0xFFFFFFFFFFFFFFFF then some value.toNat.toUInt64 else none

/-- A signed whole number of thirty-two bits. -/
def integer32 : Shape Int32 :=
  whole "i32" fun value =>
    if -0x80000000 ≤ value && value < 0x80000000 then some (Int32.ofInt value) else none

/-- Any value. -/
def any : Shape Tree where
  read depth input := Json.readTree (2 * input.length + 2) depth input
  ofTree _ tree := .ok tree

/-! ### Combinations -/

/-- The values of another shape under a function. -/
def map {First Second : Type} (change : First → Second) (shape : Shape First) : Shape Second where
  read depth input :=
    match shape.read depth input with
    | .ok (value, rest) => .ok (change value, rest)
    | .error fault => .error fault
  ofTree dialect tree :=
    match shape.ofTree dialect tree with
    | .ok value => .ok (change value)
    | .error misplaced => .error misplaced

/-- A value or null. -/
def optional {Value : Type} (shape : Shape Value) : Shape (Option Value) where
  read depth input :=
    match Json.skipBlanks input with
    | Octet.smallN :: rest =>
      match Json.readWord Json.nullTail rest with
      | .ok rest => .ok (none, rest)
      | .error fault => .error fault
    | input => (shape.map some).read depth input
  ofTree dialect tree :=
    match tree with
    | .null => .ok none
    | _ => (shape.map some).ofTree dialect tree

/-- A value, where null stands for a given one. -/
def orElse {Value : Type} (value : Value) (shape : Shape Value) : Shape Value :=
  shape.optional.map (·.getD value)

/-! ### Choices -/

/-- The value that a name stands for. -/
def chosen? {Value : Type} (variants : List (String × Value)) (name : String) :
    Except Misfit Value :=
  match variants.find? fun variant => variant.1 == name with
  | some variant => .ok variant.2
  | none => .error (.unknownVariant name (variants.map (·.1)))

/-- A string that has to name one of the variants. -/
def readVariant {Value : Type} (variants : List (String × Value)) (input : Octets) :
    Except Json.Fault (Value × Octets) :=
  match Json.readString input with
  | .error fault => .error fault
  | .ok (name, rest) =>
    match chosen? variants name with
    | .ok value => .ok (value, rest)
    | .error misfit => .error (.here (.misfit misfit) rest)

/-- Nothing, which is written as null. -/
def readNothing : Octets → Except Json.Fault (Unit × Octets) :=
  atValue fun input =>
    match input with
    | Octet.smallN :: rest =>
      match Json.readWord Json.nullTail rest with
      | .ok rest => .ok ((), rest)
      | .error fault => .error fault
    | _ => .error (Json.mismatch "unit" input)

/-- What the one entry of a table holds that names a variant. -/
def checkNothing (dialect : Dialect) (tree : Tree) : Except Misfit Unit :=
  match dialect, tree with
  | .json, .null => .ok ()
  | .json, _ => .error (.wrongType (tree.found dialect) "unit")
  | .toml, .list [] => .ok ()
  | .toml, .list _ => .error (.notEmpty "array")
  | .toml, .table [] => .ok ()
  | .toml, .table _ => .error (.notEmpty "table")
  | .toml, .text _ => .error (.notAContainer "string")
  | .toml, .integer _ => .error (.notAContainer "integer")
  | .toml, .decimal _ => .error (.notAContainer "float")
  | .toml, .boolean _ => .error (.notAContainer "boolean")
  | .toml, .moment _ => .error (.notAContainer "datetime")
  | .toml, .null => .error (.notAContainer "none")

/-- One of several named values: its name as a string, or a table with the name as its only key
and nothing under it. -/
def choice {Value : Type} (variants : List (String × Value)) : Shape Value where
  read depth := atValue fun input =>
    match input with
    | Octet.quote :: rest => readVariant variants rest
    | Octet.openBrace :: rest =>
      match Json.descend depth input with
      | .error fault => .error fault
      | .ok _ =>
        let named := atValue (fun input =>
          match input with
          | Octet.quote :: rest => readVariant variants rest
          | _ => .error (Json.mismatch "variant identifier" input)) rest
        match named with
        | .error fault => .error fault
        | .ok (value, rest) =>
          match Json.readColon rest with
          | .error fault => .error fault
          | .ok rest =>
            match readNothing rest with
            | .error fault => .error fault
            | .ok ((), rest) =>
              match Json.skipBlanks rest with
              | [] => .error (.here .endOfObject [])
              | Octet.closeBrace :: rest => .ok (value, rest)
              | rest => .error (.here .expectedValue rest)
    | _ => .error (.ahead .expectedValue input)
  ofTree dialect tree :=
    match tree with
    | .text name =>
      match chosen? variants name with
      | .ok value => .ok value
      | .error misfit => .error ⟨misfit, []⟩
    | .table [(name, content)] =>
      match chosen? variants name with
      | .error misfit => .error ⟨misfit, [.name name]⟩
      | .ok value =>
        match checkNothing dialect content with
        | .ok () => .ok value
        | .error misfit => .error ⟨misfit, [.key name]⟩
    | .table entries =>
      match dialect with
      | .json => .error ⟨.wrongValue .table "map with a single key", []⟩
      | .toml => .error ⟨.notOneEntry entries.isEmpty, []⟩
    | _ =>
      match dialect with
      | .json => unexpected dialect "string or map" tree
      | .toml => .error ⟨.notAChoice, []⟩

/-! ### Whole documents -/

/-- The value that a whole JSON text writes. -/
def ofText {Value : Type} (shape : Shape Value) (document : Octets) :
    Except Json.Fault Value :=
  Json.whole (shape.read Json.depthLimit) document

end Shape

end LatencyService
