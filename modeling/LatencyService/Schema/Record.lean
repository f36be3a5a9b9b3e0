/-
Records: values with named fields. A record is written as a table of its
fields in any order, where keys it does not know are passed over, or as a list
of its fields in their own order. Fields may be missing to different degrees;
a field that occurs twice is never accepted.
-/

import LatencyService.Schema.Shape

namespace LatencyService

/-- How far a field may be missing. -/
inductive Absence where
  /-- Never. -/
  | refused
  /-- From a table, but not from a list. -/
  | fromTable
  /-- From a table and from the end of a list. -/
  | anywhere
  deriving DecidableEq, Repr

/-- A field of a record, read as the change that its value makes to the record. -/
structure Field (Record : Type) where
  key : String
  absence : Absence
  shape : Shape (Record → Record)

namespace Field

/-- A field with a shape of its own, stored by `set`. -/
def of {Record Value : Type} (key : String) (absence : Absence) (shape : Shape Value)
    (set : Value → Record → Record) : Field Record :=
  ⟨key, absence, shape.map set⟩

end Field

namespace Shape

variable {Record : Type}

/-- The field of a key. -/
def fieldOf? (fields : List (Field Record)) (key : String) : Option (Field Record) :=
  fields.find? fun field => field.key == key

/-- The first field that had to be in a table and was not. -/
def missing? (fields : List (Field Record)) (seen : List String) : Option Misfit :=
  (fields.find? fun field => field.absence == .refused && !seen.contains field.key).map
    fun field => .missingField field.key

/-- The field of a key is one of the fields, and its key is that key. -/
theorem fieldOf?_some {fields : List (Field Record)} {key : String} {field : Field Record}
    (found : fieldOf? fields key = some field) : field ∈ fields ∧ field.key = key := by
  have same := List.find?_some found
  exact ⟨List.mem_of_find?_eq_some found, beq_iff_eq.1 same⟩

/-- No field is missing where all those are seen that have to be there. -/
theorem missing?_eq_none {fields : List (Field Record)} {seen : List String}
    (all : ∀ field ∈ fields, field.absence = .refused → field.key ∈ seen) :
    missing? fields seen = none := by
  rw [missing?, Option.map_eq_none_iff, List.find?_eq_none]
  intro field member missing
  obtain ⟨refused, unseen⟩ := Bool.and_eq_true_iff.1 missing
  have there := all field member (beq_iff_eq.1 refused)
  simp [there] at unseen

/-- What a list of fields is called when it is too short. -/
def lengthWanted (name : String) (count : Nat) : String :=
  "struct " ++ name ++ " with " ++ toString count ++
    (if count = 1 then " element" else " elements")

/-! ### From a text -/

/-- The record after the entries of a table. Every entry consumes an octet, and so `fuel` may be
the length of the input. -/
def readEntries (fields : List (Field Record)) (depth fuel : Nat) (seen : List String)
    (isFirst : Bool) (record : Record) (input : Octets) : Except Json.Fault (Record × Octets) :=
  match fuel with
  | 0 => .error (.ahead .endOfObject [])
  | fuel + 1 =>
    match Json.nextKey? isFirst input with
    | .error fault => .error (fault.under .unknown)
    | .ok none =>
      match missing? fields seen with
      | some misfit => .error (.pending misfit input)
      | none => .ok (record, input)
    | .ok (some (key, rest)) =>
      match fieldOf? fields key with
      | none =>
        match Json.readColon rest with
        | .error fault => .error (fault.under (.key key))
        | .ok rest =>
          match Json.skipValue rest with
          | .error fault => .error (fault.under (.key key))
          | .ok rest => readEntries fields depth fuel seen false record rest
      | some field =>
        if seen.contains key then .error (.pending (.duplicateField key) rest)
        else
          match Json.readColon rest with
          | .error fault => .error (fault.under (.key key))
          | .ok rest =>
            match field.shape.read depth rest with
            | .error fault => .error (fault.under (.key key))
            | .ok (change, rest) =>
              readEntries fields depth fuel (key :: seen) false (change record) rest

/-- The record after the items of a list; `all` counts all fields, `index` those before. -/
def readPositions (name : String) (all depth : Nat) :
    List (Field Record) → Nat → Record → Octets → Except Json.Fault (Record × Octets)
  | [], _, record, input => .ok (record, input)
  | field :: later, index, record, input =>
    match Json.nextItem? (index == 0) input with
    | .error fault => .error (fault.under (.index index))
    | .ok none =>
      if field.absence == .anywhere then readPositions name all depth later index record input
      else .error (.pending (.wrongLength index (lengthWanted name all)) input)
    | .ok (some rest) =>
      match field.shape.read depth rest with
      | .error fault => .error (fault.under (.index index))
      | .ok (change, rest) => readPositions name all depth later (index + 1) (change record) rest

/-! ### From a tree -/

/-- The record after the entries of a table. -/
def takeEntries (fields : List (Field Record)) (dialect : Dialect) :
    List (String × Tree) → List String → Record → Except Misplaced Record
  | [], seen, record =>
    match missing? fields seen with
    | some misfit => .error ⟨misfit, []⟩
    | none => .ok record
  | (key, value) :: rest, seen, record =>
    match fieldOf? fields key with
    | none => takeEntries fields dialect rest seen record
    | some field =>
      if seen.contains key then .error ⟨.duplicateField key, []⟩
      else
        match field.shape.ofTree dialect value with
        | .error misplaced => .error (misplaced.under (.key key))
        | .ok change => takeEntries fields dialect rest (key :: seen) (change record)

/-- The record after the items of a list, and the items that are left. -/
def takePositions (name : String) (all : Nat) (dialect : Dialect) :
    List (Field Record) → Nat → Record → List Tree → Except Misplaced (Record × List Tree)
  | [], _, record, items => .ok (record, items)
  | field :: later, index, record, [] =>
    if field.absence == .anywhere then takePositions name all dialect later index record []
    else .error ⟨.wrongLength index (lengthWanted name all), []⟩
  | field :: later, index, record, item :: items =>
    match field.shape.ofTree dialect item with
    | .error misplaced => .error (misplaced.under (.index index))
    | .ok change => takePositions name all dialect later (index + 1) (change record) items

/-! ### The shape -/

/-- A record of the given fields, which starts out as `start`; `name` is what messages call its
type. -/
def record (name : String) (fields : List (Field Record)) (start : Record) : Shape Record where
  read depth := atValue fun input =>
    match input with
    | Octet.openBracket :: rest =>
      match Json.descend depth input with
      | .error fault => .error fault
      | .ok depth => Json.closeList (readPositions name fields.length depth fields 0 start rest)
    | Octet.openBrace :: rest =>
      match Json.descend depth input with
      | .error fault => .error fault
      | .ok depth =>
        Json.closeTable (readEntries fields depth (rest.length + 1) [] true start rest)
    | _ => .error (Json.mismatch ("struct " ++ name) input)
  ofTree dialect tree :=
    match tree with
    | .table entries => takeEntries fields dialect entries [] start
    | .moment _ => takeEntries fields dialect [] [] start
    | .list items =>
      match takePositions name fields.length dialect fields 0 start items with
      | .error misplaced => .error misplaced
      | .ok (record, []) => .ok record
      | .ok (record, _ :: _) =>
        match dialect with
        | .json => .error ⟨.wrongLength items.length "fewer elements in array", []⟩
        | .toml => .ok record
    | _ => unexpected dialect ("struct " ++ name) tree

end Shape

end LatencyService
