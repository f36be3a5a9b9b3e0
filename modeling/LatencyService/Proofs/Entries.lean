/-
The entries of a table, each a key and the stretch that its value takes, and the
items of a list in the same way. A record that is read from a text makes of its
entries or items what it makes of their stretches, so that nothing else in the
text has a part in it: neither what separates the values, nor what stands behind
them, nor what is under keys that are not known.
-/

import LatencyService.Proofs.Steady

namespace LatencyService

namespace Json

/-! ### Stretches of values -/

/-- The stretch is one value, before whatever may follow a value. -/
def Spans (value : Octets) : Prop := ∀ rest, Stops rest → skipValue (value ++ rest) = .ok rest

/-- The stretch that the first value of a text takes, blanks before it included. -/
def extent (text : Octets) : Octets :=
  match skipValue text with
  | .ok rest => text.take (text.length - rest.length)
  | .error _ => []

/-- The text is one value, with nothing but blanks around it. -/
def isWhole (text : Octets) : Bool :=
  match skipValue text with
  | .ok rest => (skipBlanks rest).isEmpty
  | .error _ => false

theorem extent_of_skipValue {text rest : Octets} (skipped : skipValue text = .ok rest) :
    text = extent text ++ rest ∧ Spans (extent text) := by
  obtain ⟨used, rfl, same⟩ := local_skipValue _ _ skipped
  have stretch : extent (used ++ rest) = used := by
    unfold extent
    rw [skipped]
    simp
  rw [stretch]
  exact ⟨rfl, same⟩

/-- A value takes some octet. -/
theorem Spans.exists_cons {value : Octets} (spans : Spans value) :
    ∃ octet others, value = octet :: others := by
  cases value with
  | nil => cases spans [] stops_nil
  | cons octet others => exact ⟨octet, others, rfl⟩

/-! ### Entries -/

/-- The entries of a text that is a table. -/
def entries? (text : Octets) : Option (List (String × Octets)) :=
  if isWhole text then
    (members? text).map (·.map fun (key, value) => (key, skipBlanks (extent value)))
  else none

/-- A stretch of a table before its end: for each entry what comes before its value, and the
value. -/
inductive Body : Bool → List (String × Octets) → Octets → Prop where
  | done {isFirst : Bool} : Body isFirst [] []
  | entry {isFirst : Bool} {key : String} {gap value used : Octets}
      {entries : List (String × Octets)}
      (named : ∀ rest, ∃ behind, nextKey? isFirst (gap ++ rest) = .ok (some (key, behind)) ∧
        readColon behind = .ok rest)
      (spans : Spans value) (later : Body false entries used) :
      Body isFirst ((key, value) :: entries) (gap ++ (value ++ used))

theorem nextKey?_none {isFirst : Bool} {input : Octets}
    (ends : nextKey? isFirst input = .ok none) :
    ∃ behind, skipBlanks input = Octet.closeBrace :: behind := by
  unfold nextKey? at ends
  dsimp only at ends
  split at ends
  · cases ends
  · rename_i at_octet
    split at ends
    · rename_i closes
      exact ⟨_, beq_iff_eq.1 closes ▸ at_octet⟩
    · split at ends
      · split at ends
        · split at ends <;> cases ends
        · cases ends
      · split at ends
        · cases ends
        · split at ends
          · cases ends
          · split at ends
            · split at ends <;> cases ends
            · split at ends <;> cases ends

theorem nextKey?_of_brace (isFirst : Bool) {input behind : Octets}
    (closes : skipBlanks input = Octet.closeBrace :: behind) :
    nextKey? isFirst input = .ok none := by
  simp only [nextKey?, closes]
  rfl

/-- The members of a table take a stretch up to its end. -/
theorem exists_body {fuel : Nat} {isFirst : Bool} {input : Octets}
    {members : List (String × Octets)} (there : membersFrom? fuel isFirst input = some members) :
    ∃ used rest, input = used ++ rest ∧
      Body isFirst (members.map fun (key, value) => (key, extent value)) used ∧
      ∃ behind, skipBlanks rest = Octet.closeBrace :: behind ∧
        Passes isFirst.toNat (expectationOf isFirst) [.table] input behind := by
  induction fuel generalizing isFirst input members with
  | zero => cases there
  | succ fuel inductionHypothesis =>
    rw [membersFrom?] at there
    split at there
    · cases there
    · rename_i ends
      cases there
      obtain ⟨behind, closes⟩ := nextKey?_none ends
      exact ⟨[], input, rfl, .done, behind, closes, passes_end closes⟩
    · rename_i key behind next
      split at there
      · cases there
      · rename_i value colon
        split at there
        · cases there
        · rename_i left skipped
          obtain ⟨later, more, rfl⟩ := Option.map_eq_some_iff.1 there
          obtain ⟨used, rest, rfl, body, closing, closes, passes⟩ := inductionHypothesis more
          obtain ⟨parts, spans⟩ := extent_of_skipValue skipped
          obtain ⟨gap, whole, named⟩ := (local_readColon.behind (local_nextKey? isFirst key)) _ _
            ⟨behind, next, colon⟩
          refine ⟨gap ++ (extent value ++ used), rest, ?_, .entry (fun rest => named rest trivial)
            spans body, closing, closes, (passes_of_skipValue skipped).entry next colon passes⟩
          rw [whole, List.append_assoc, List.append_assoc, ← parts]

/-- What comes behind a value in a table may follow a value. -/
theorem Body.stops {entries : List (String × Octets)} {used rest behind : Octets}
    (body : Body false entries used) (closes : skipBlanks rest = Octet.closeBrace :: behind) :
    Stops (used ++ rest) := by
  cases body with
  | done => exact stops_of_skipBlanks closes (.inr (.inr rfl))
  | @entry _ _ gap value used _ named spans later =>
    obtain ⟨left, next, -⟩ := named (value ++ used ++ rest)
    obtain ⟨text, ⟨none, -⟩ | ⟨-, left, at_comma, -⟩, -⟩ := nextKey?_iff.1 next
    · cases none
    · rw [List.append_assoc]
      exact stops_of_skipBlanks at_comma (.inl rfl)

end Json

namespace Shape

open Json (Body Spans Stops skipBlanks)

variable {Value : Type} {shape : Shape Value}

/-! ### Values from their stretches -/

/-- The value that a whole text holds. -/
def value? (shape : Shape Value) (depth : Nat) (text : Octets) : Option Value :=
  (Json.whole (shape.read depth) text).toOption

theorem ofText_toOption (shape : Shape Value) (text : Octets) :
    (shape.ofText text).toOption = shape.value? Json.depthLimit text := rfl

theorem value?_eq_some_iff {depth : Nat} {text : Octets} {value : Value} :
    shape.value? depth text = some value ↔
      ∃ rest, shape.read depth text = .ok (value, rest) ∧ skipBlanks rest = [] := by
  unfold value? Json.whole
  split
  · rename_i refused
    rw [refused]
    exact ⟨nofun, nofun⟩
  · rename_i read
    rw [read]
    constructor
    · intro same
      split at same
      · rename_i nothing
        cases same
        exact ⟨_, rfl, nothing⟩
      · cases same
    · rintro ⟨rest, same, nothing⟩
      cases same
      rw [nothing]
      rfl

/-- A value is read from its stretch, whatever follows. -/
theorem Steady.read_iff (steady : shape.Steady) {depth : Nat} {stretch rest : Octets}
    (spans : Spans stretch) (stops : Stops rest) {value : Value} {left : Octets} :
    shape.read depth (stretch ++ rest) = .ok (value, left) ↔
      left = rest ∧ shape.value? depth stretch = some value := by
  have nothing : Json.skipValue stretch = .ok [] := by
    have alone := spans [] Json.stops_nil
    rwa [List.append_nil] at alone
  rw [value?_eq_some_iff]
  constructor
  · intro read
    have same : left = rest := by
      have skipped := steady.measured.skipValue read
      rw [spans rest stops] at skipped
      exact (Except.ok.inj skipped).symm
    obtain ⟨used, parts, again⟩ := steady.taken depth value _ _ read
    rw [same, List.append_left_inj] at parts
    have alone := again [] Json.stops_nil
    rw [← parts, List.append_nil] at alone
    exact ⟨same, [], alone, rfl⟩
  · rintro ⟨rfl, behind, read, -⟩
    have skipped := steady.measured.skipValue read
    obtain rfl : behind = [] := Except.ok.inj (skipped.symm.trans nothing)
    obtain ⟨used, parts, again⟩ := steady.taken depth value _ _ read
    rw [List.append_nil] at parts
    exact parts ▸ again _ stops

/-- A stretch holds no value, and reading it fails, or its value is read and what follows is left. -/
theorem Steady.read_cases (steady : shape.Steady) (depth : Nat) {stretch rest : Octets}
    (spans : Spans stretch) (stops : Stops rest) :
    (shape.value? depth stretch = none ∧
        ∃ fault, shape.read depth (stretch ++ rest) = .error fault) ∨
      ∃ value, shape.value? depth stretch = some value ∧
        shape.read depth (stretch ++ rest) = .ok (value, rest) := by
  cases held : shape.value? depth stretch with
  | some value => exact .inr ⟨value, rfl, (steady.read_iff spans stops).2 ⟨rfl, held⟩⟩
  | none =>
    cases read : shape.read depth (stretch ++ rest) with
    | error fault => exact .inl ⟨rfl, fault, rfl⟩
    | ok result =>
      cases held.symm.trans ((steady.read_iff spans stops).1 read).2

theorem Steady.value?_skipBlanks (steady : shape.Steady) (depth : Nat) (text : Octets) :
    shape.value? depth (skipBlanks text) = shape.value? depth text := by
  rw [value?, value?, Json.whole, Json.whole, steady.unspaced]

/-! ### Records from their entries -/

variable {Record : Type} {fields : List (Field Record)}

/-- What a record becomes that takes in entries; the keys that it has seen may not come again, and
in the end some may be missing. -/
def takes? (fields : List (Field Record)) (depth : Nat) :
    List String → List (String × Octets) → Record → Option Record
  | seen, [], record => if (missing? fields seen).isNone then some record else none
  | seen, (key, text) :: rest, record =>
    match fieldOf? fields key with
    | none => takes? fields depth seen rest record
    | some field =>
      if seen.contains key then none
      else
        (field.shape.value? depth text).bind fun change =>
          takes? fields depth (key :: seen) rest (change record)

/-- Entries are read from their stretches. -/
theorem readEntries_of_body (steady : ∀ field ∈ fields, field.shape.Steady) (depth : Nat)
    {isFirst : Bool} {entries : List (String × Octets)} {used rest behind : Octets}
    (body : Body isFirst entries used) (closes : skipBlanks rest = Octet.closeBrace :: behind)
    {fuel : Nat} (enough : used.length < fuel) (seen : List String) (record : Record) :
    (readEntries fields depth fuel seen isFirst record (used ++ rest)).toOption =
      (takes? fields depth seen entries record).map fun result => (result, rest) := by
  induction body generalizing fuel seen record with
  | done =>
    obtain ⟨fuel, rfl⟩ := Nat.exists_eq_succ_of_ne_zero (Nat.ne_of_gt (Nat.zero_lt_of_lt enough))
    rw [List.nil_append, readEntries, Json.nextKey?_of_brace _ closes, takes?]
    dsimp only
    cases missing? fields seen <;> rfl
  | @entry isFirst key gap value used entries named spans later inductionHypothesis =>
    obtain ⟨fuel, rfl⟩ := Nat.exists_eq_succ_of_ne_zero (Nat.ne_of_gt (Nat.zero_lt_of_lt enough))
    obtain ⟨left, next, colon⟩ := named (value ++ (used ++ rest))
    have stops := later.stops closes
    have shorter : used.length < fuel := by
      have something : gap ≠ [] := by
        rintro rfl
        obtain ⟨left, next, -⟩ := named []
        cases next
      have positive := List.length_pos_iff.2 something
      simp only [List.length_append] at enough
      omega
    rw [List.append_assoc, List.append_assoc, readEntries, next, takes?]
    dsimp only
    cases found : fieldOf? fields key with
    | none =>
      dsimp only
      rw [colon]
      dsimp only
      rw [spans _ stops]
      exact inductionHypothesis shorter seen record
    | some field =>
      dsimp only
      split
      · rfl
      · have own := steady field (fieldOf?_some found).1
        rw [colon]
        dsimp only
        rcases own.read_cases depth spans stops with ⟨refused, fault, read⟩ | ⟨change, held, read⟩
        · rw [refused, read]
          rfl
        · rw [held, read]
          exact inductionHypothesis shorter (key :: seen) (change record)

theorem closeTable_of_brace {Value : Type} {value : Value} {input behind : Octets}
    (closes : skipBlanks input = Octet.closeBrace :: behind) :
    Json.closeTable (.ok (value, input)) = .ok (value, behind) := by
  rw [Json.closeTable, closes]
  rfl

theorem record_read_of_brace (name : String) (fields : List (Field Record)) (start : Record)
    {depth : Nat} (deep : 1 < depth) {input left : Octets}
    (at_brace : skipBlanks input = Octet.openBrace :: left) :
    (Shape.record name fields start).read depth input =
      Json.closeTable (readEntries fields (depth - 1) (left.length + 1) [] true start left) := by
  have descends : Json.descend depth (Octet.openBrace :: left) = .ok (depth - 1) :=
    if_neg (by omega)
  simp only [Shape.record]
  rw [atValue_of_skipBlanks at_brace, descends]
  rfl

/-- A record is read from its entries. -/
theorem record_of_body (name : String) (steady : ∀ field ∈ fields, field.shape.Steady)
    (start : Record) {depth : Nat} (deep : 1 < depth) {entries : List (String × Octets)}
    {input used rest behind : Octets} (body : Body true entries used)
    (at_brace : skipBlanks input = Octet.openBrace :: (used ++ rest))
    (closes : skipBlanks rest = Octet.closeBrace :: behind) :
    ((Shape.record name fields start).read depth input).toOption =
      (takes? fields (depth - 1) [] entries start).map fun result => (result, behind) := by
  have enough : used.length < (used ++ rest).length + 1 := by
    rw [List.length_append]
    omega
  have read := readEntries_of_body steady (depth - 1) body closes enough [] start
  rw [record_read_of_brace name fields start deep at_brace]
  cases found : readEntries fields (depth - 1) ((used ++ rest).length + 1) [] true start
      (used ++ rest) with
  | error fault =>
    rw [found] at read
    have none : takes? fields (depth - 1) [] entries start = none :=
      Option.map_eq_none_iff.1 read.symm
    rw [none]
    cases closed : Json.closeTable (.error fault : Except Json.Fault (Record × Octets)) with
    | error fault => rfl
    | ok result => exact absurd closed (Json.closeTable_error fault)
  | ok result =>
    rw [found] at read
    obtain ⟨record, taken, rfl⟩ := Option.map_eq_some_iff.1 read.symm
    rw [taken, closeTable_of_brace closes]
    rfl

/-- Entries from which the leading blanks are taken away read as they did. -/
theorem takes?_skipBlanks (steady : ∀ field ∈ fields, field.shape.Steady) (depth : Nat)
    (seen : List String) (entries : List (String × Octets)) (record : Record) :
    takes? fields depth seen (entries.map fun (key, value) => (key, skipBlanks value)) record =
      takes? fields depth seen entries record := by
  induction entries generalizing seen record with
  | nil => rfl
  | cons entry entries inductionHypothesis =>
    obtain ⟨key, value⟩ := entry
    rw [List.map_cons, takes?, takes?]
    cases found : fieldOf? fields key with
    | none => exact inductionHypothesis seen record
    | some field =>
      dsimp only
      rw [(steady field (fieldOf?_some found).1).value?_skipBlanks]
      simp only [inductionHypothesis]

theorem value?_of_read {depth : Nat} {text behind : Octets} {result : Option Value}
    (read : (shape.read depth text).toOption = result.map fun value => (value, behind))
    (nothing : skipBlanks behind = []) : shape.value? depth text = result := by
  unfold value? Json.whole
  cases found : shape.read depth text with
  | error fault =>
    rw [found] at read
    rw [Option.map_eq_none_iff.1 read.symm]
    rfl
  | ok pair =>
    rw [found] at read
    obtain ⟨value, rfl, rfl⟩ := Option.map_eq_some_iff.1 read.symm
    dsimp only
    rw [nothing]
    rfl

/-- The members of a table and its end. -/
theorem exists_body_of_members? {text : Octets} {members : List (String × Octets)}
    (listed : Json.members? text = some members) :
    ∃ used rest behind,
      Body true (members.map fun (key, value) => (key, Json.extent value)) used ∧
        skipBlanks text = Octet.openBrace :: (used ++ rest) ∧
        skipBlanks rest = Octet.closeBrace :: behind ∧ Json.skipValue text = .ok behind := by
  unfold Json.members? at listed
  split at listed
  · rename_i left at_brace
    obtain ⟨used, rest, rfl, body, behind, closes, passes⟩ := Json.exists_body listed
    have whole : Json.Passes 0 .value [] (skipBlanks text) behind := at_brace ▸ passes.table
    exact ⟨used, rest, behind, body, at_brace, closes, whole.of_skipBlanks.skipValue⟩
  · cases listed

/-- The value of a table is what its entries make. -/
theorem value?_of_entries (name : String) (steady : ∀ field ∈ fields, field.shape.Steady)
    (start : Record) {depth : Nat} (deep : 1 < depth) {text : Octets}
    {entries : List (String × Octets)} (there : Json.entries? text = some entries) :
    (Shape.record name fields start).value? depth text =
      takes? fields (depth - 1) [] entries start := by
  unfold Json.entries? at there
  split at there
  · rename_i whole
    obtain ⟨members, listed, rfl⟩ := Option.map_eq_some_iff.1 there
    obtain ⟨used, rest, behind, body, at_brace, closes, skipped⟩ := exists_body_of_members? listed
    rw [Json.isWhole, skipped] at whole
    have read := record_of_body name steady start deep body at_brace closes
    rw [value?_of_read read (List.isEmpty_iff.1 whole), ← takes?_skipBlanks steady, List.map_map]
    rfl
  · cases there

end Shape

/-! ### Documents that are tables -/

namespace Json

theorem membersFrom?_end {fuel : Nat} {isFirst : Bool} {input : Octets}
    (ends : nextKey? isFirst input = .ok none) :
    membersFrom? (fuel + 1) isFirst input = some [] := by
  rw [membersFrom?, ends]

theorem membersFrom?_entry {fuel : Nat} {isFirst : Bool} {key : String}
    {input behind value rest : Octets} {members : List (String × Octets)}
    (next : nextKey? isFirst input = .ok (some (key, behind)))
    (colon : readColon behind = .ok value) (skipped : skipValue value = .ok rest)
    (later : membersFrom? fuel false rest = some members) :
    membersFrom? (fuel + 1) isFirst input = some ((key, value) :: members) := by
  rw [membersFrom?, next]
  dsimp only
  rw [colon]
  dsimp only
  rw [skipped]
  dsimp only
  rw [later]
  rfl

/-- A table that is read as a tree has members. -/
theorem exists_members_of_readTreeEntries {fuel depth : Nat} {isFirst : Bool}
    {done : List (String × Tree)} {input rest : Octets} {tree : Tree}
    (read : readTreeEntries fuel depth isFirst done input = .ok (tree, rest)) {enough : Nat}
    (long : input.length < enough) : ∃ members, membersFrom? enough isFirst input = some members := by
  induction fuel generalizing isFirst done input enough with
  | zero =>
    rw [readTreeEntries] at read
    cases read
  | succ fuel inductionHypothesis =>
    obtain ⟨enough, rfl⟩ := Nat.exists_eq_succ_of_ne_zero (Nat.ne_of_gt (Nat.zero_lt_of_lt long))
    rw [readTreeEntries] at read
    split at read
    · cases read
    · rename_i ends
      exact ⟨[], membersFrom?_end ends⟩
    · rename_i key behind next
      split at read
      · cases read
      · rename_i value colon
        split at read
        · cases read
        · rename_i item left inner
          have skipped := ((passes_readTree fuel).1 depth value item left inner).skipValue
          have shorter : left.length < enough := by
            obtain ⟨gap, rfl, -⟩ := (local_readColon.behind (local_nextKey? isFirst key)) _ _
              ⟨behind, next, colon⟩
            obtain ⟨parts, spans⟩ := extent_of_skipValue skipped
            obtain ⟨octet, others, same⟩ := spans.exists_cons
            rw [same] at parts
            rw [parts] at long
            simp only [List.length_append, List.length_cons] at long
            omega
          obtain ⟨members, more⟩ := inductionHypothesis read shorter
          exact ⟨_, membersFrom?_entry next colon skipped more⟩

/-- Every document that is a table has entries. -/
theorem exists_entries_of_parse {text : Octets} {tree : Tree} (parsed : parse text = .ok tree)
    (opens : opensTable text = true) : ∃ entries, entries? text = some entries := by
  obtain ⟨left, at_brace⟩ := skipBlanks_of_opensTable opens
  have held : Shape.any.value? depthLimit text = some tree := congrArg Except.toOption parsed
  obtain ⟨rest, read, nothing⟩ := Shape.value?_eq_some_iff.1 held
  have whole : isWhole text = true := by
    rw [isWhole, Shape.any_measured.skipValue read]
    exact List.isEmpty_iff.2 nothing
  replace read : readTree (2 * text.length + 1 + 1) depthLimit text = .ok (tree, rest) := read
  rw [readTree, at_brace] at read
  obtain ⟨after, inner, -⟩ := exists_of_closeTable (read : closeTable
    (readTreeEntries (2 * text.length + 1) (depthLimit - 1) true [] left) = .ok (tree, rest))
  obtain ⟨members, listed⟩ := exists_members_of_readTreeEntries inner (Nat.lt_succ_self _)
  rw [entries?, if_pos whole, members?_of_brace at_brace, listed]
  exact ⟨_, rfl⟩

/-! ### Items -/

/-- The items of a list from here on. Every item takes an octet, and so `fuel` may be the length of
the input. -/
def itemsFrom? (fuel : Nat) (isFirst : Bool) (input : Octets) : Option (List Octets) :=
  match fuel with
  | 0 => none
  | fuel + 1 =>
    match nextItem? isFirst input with
    | .error _ => none
    | .ok none => some []
    | .ok (some item) =>
      match skipValue item with
      | .error _ => none
      | .ok rest => (itemsFrom? fuel false rest).map (extent item :: ·)

/-- The items of a text that is a list. -/
def items? (text : Octets) : Option (List Octets) :=
  match skipBlanks text with
  | Octet.openBracket :: rest =>
    if isWhole text then itemsFrom? (rest.length + 1) true rest else none
  | _ => none

/-- A stretch of a list before its end: for each item what comes before it, and the item. -/
inductive Items : Bool → List Octets → Octets → Prop where
  | done {isFirst : Bool} : Items isFirst [] []
  | item {isFirst : Bool} {gap value used : Octets} {values : List Octets}
      (stands : ∀ rest, nextItem? isFirst (gap ++ (value ++ rest)) = .ok (some (value ++ rest)))
      (spans : Spans value) (later : Items false values used) :
      Items isFirst (value :: values) (gap ++ (value ++ used))

theorem nextItem?_none {isFirst : Bool} {input : Octets}
    (ends : nextItem? isFirst input = .ok none) :
    ∃ behind, skipBlanks input = Octet.closeBracket :: behind := by
  unfold nextItem? at ends
  split at ends
  · cases ends
  · rename_i at_octet
    split at ends
    · rename_i closes
      exact ⟨_, beq_iff_eq.1 closes ▸ at_octet⟩
    · split at ends
      · cases ends
      · split at ends
        · cases ends
        · split at ends
          · cases ends
          · split at ends <;> cases ends

theorem nextItem?_of_bracket (isFirst : Bool) {input behind : Octets}
    (closes : skipBlanks input = Octet.closeBracket :: behind) :
    nextItem? isFirst input = .ok none := by
  rw [nextItem?, closes]
  rfl

/-- Where an item stands, another one can stand. -/
theorem local_nextItem? {isFirst : Bool} {input item : Octets}
    (next : nextItem? isFirst input = .ok (some item)) :
    ∃ gap octet left, item = octet :: left ∧ input = gap ++ octet :: left ∧
      ∀ other, nextItem? isFirst (gap ++ octet :: other) = .ok (some (octet :: other)) := by
  rcases nextItem?_some next with ⟨rfl, octet, left, rfl, at_octet, inner⟩ |
    ⟨rfl, behind, at_comma, at_value⟩
  · obtain ⟨blanks, parts, blank⟩ := exists_blanks input
    rw [at_octet] at parts
    refine ⟨blanks, octet, left, rfl, parts, fun other => ?_⟩
    rw [nextItem?, skipBlanks_append blank, skipBlanks_cons (isBlank_of_skipBlanks at_octet)]
    dsimp only
    rw [inner]
    rfl
  · cases item with
    | nil =>
      simp only [nextItem?, at_comma, at_value] at next
      cases next
    | cons octet left =>
      obtain ⟨gap, parts, same⟩ := (local_octet Octet.comma) _ _ at_comma
      obtain ⟨blanks, behind_parts, blank⟩ := exists_blanks behind
      rw [at_value] at behind_parts
      have inner : ¬(octet == Octet.closeBracket) = true := by
        intro closes
        simp only [nextItem?, at_comma, at_value, closes] at next
        cases next
      refine ⟨gap ++ blanks, octet, left, rfl, ?_, fun other => ?_⟩
      · rw [List.append_assoc, ← behind_parts]
        exact parts
      · have comma : skipBlanks (gap ++ (blanks ++ octet :: other)) = _ := same _ trivial
        rw [List.append_assoc, nextItem?, comma]
        simp only [skipBlanks_append blank, skipBlanks_cons (isBlank_of_skipBlanks at_value),
          if_neg inner]
        rfl

/-- An item is followed by the others and the end of the list. -/
theorem Items.stops {values : List Octets} {used rest behind : Octets}
    (items : Items false values used) (closes : skipBlanks rest = Octet.closeBracket :: behind) :
    Stops (used ++ rest) := by
  cases items with
  | done => exact stops_of_skipBlanks closes (.inr (.inl rfl))
  | @item _ gap value used _ stands spans later =>
    rcases nextItem?_some (stands (used ++ rest)) with ⟨none, -⟩ | ⟨-, left, at_comma, -⟩
    · cases none
    · rw [List.append_assoc, List.append_assoc]
      exact stops_of_skipBlanks at_comma (.inl rfl)

/-- An item stands where another value did, and takes its own stretch. -/
theorem exists_item {isFirst : Bool} {input item rest : Octets}
    (next : nextItem? isFirst input = .ok (some item)) (skipped : skipValue item = .ok rest) :
    ∃ gap, input = gap ++ (extent item ++ rest) ∧ Spans (extent item) ∧
      ∀ other, nextItem? isFirst (gap ++ (extent item ++ other)) =
        .ok (some (extent item ++ other)) := by
  obtain ⟨gap, octet, left, rfl, parts, stands⟩ := local_nextItem? next
  obtain ⟨whole, spans⟩ := extent_of_skipValue skipped
  obtain ⟨first, others, same⟩ := spans.exists_cons
  rw [same, List.cons_append] at whole
  obtain ⟨rfl, rfl⟩ := List.cons.inj whole
  refine ⟨gap, ?_, spans, fun other => ?_⟩
  · rw [same]
    exact parts
  · rw [same]
    exact stands (others ++ other)

theorem itemsFrom?_end {fuel : Nat} {isFirst : Bool} {input : Octets}
    (ends : nextItem? isFirst input = .ok none) :
    itemsFrom? (fuel + 1) isFirst input = some [] := by
  rw [itemsFrom?, ends]

theorem itemsFrom?_item {fuel : Nat} {isFirst : Bool} {input item rest : Octets}
    {values : List Octets} (next : nextItem? isFirst input = .ok (some item))
    (skipped : skipValue item = .ok rest) (later : itemsFrom? fuel false rest = some values) :
    itemsFrom? (fuel + 1) isFirst input = some (extent item :: values) := by
  rw [itemsFrom?, next]
  dsimp only
  rw [skipped]
  dsimp only
  rw [later]
  rfl

/-- An item takes some octet. -/
theorem length_of_item {isFirst : Bool} {input item rest : Octets}
    (next : nextItem? isFirst input = .ok (some item)) (skipped : skipValue item = .ok rest) :
    rest.length < input.length := by
  obtain ⟨gap, rfl, spans, -⟩ := exists_item next skipped
  obtain ⟨octet, others, same⟩ := spans.exists_cons
  rw [same]
  simp only [List.length_append, List.length_cons]
  omega

theorem exists_items {fuel : Nat} {isFirst : Bool} {input : Octets} {values : List Octets}
    (there : itemsFrom? fuel isFirst input = some values) :
    ∃ used rest, input = used ++ rest ∧ Items isFirst values used ∧
      ∃ behind, skipBlanks rest = Octet.closeBracket :: behind ∧
        Passes isFirst.toNat (expectationOf isFirst) [.list] input behind := by
  induction fuel generalizing isFirst input values with
  | zero => cases there
  | succ fuel inductionHypothesis =>
    rw [itemsFrom?] at there
    split at there
    · cases there
    · rename_i ends
      cases there
      obtain ⟨behind, closes⟩ := nextItem?_none ends
      exact ⟨[], input, rfl, .done, behind, closes, passes_end closes⟩
    · rename_i next
      split at there
      · cases there
      · rename_i skipped
        obtain ⟨later, more, rfl⟩ := Option.map_eq_some_iff.1 there
        obtain ⟨used, rest, rfl, items, closing, closes, passes⟩ := inductionHypothesis more
        have through := (passes_of_skipValue skipped).item next passes
        obtain ⟨gap, rfl, spans, stands⟩ := exists_item next skipped
        exact ⟨_, rest, by simp, .item stands spans items, closing, closes, through⟩

theorem exists_of_closeList {Value : Type} {items : Except Fault (Value × Octets)}
    {value : Value} {rest : Octets} (closed : closeList items = .ok (value, rest)) :
    ∃ after, items = .ok (value, after) ∧ skipBlanks after = Octet.closeBracket :: rest := by
  cases items with
  | error fault => exact absurd closed (closeList_error fault)
  | ok read =>
    obtain ⟨other, after⟩ := read
    unfold closeList at closed
    dsimp only at closed
    split at closed
    · cases closed
    · rename_i at_octet
      split at closed
      · rename_i same
        cases closed
        exact ⟨after, rfl, beq_iff_eq.1 same ▸ at_octet⟩
      · split at closed
        · cases closed
        · split at closed <;> cases closed

/-- A list that is read as a tree has items. -/
theorem exists_items_of_readTreeItems {fuel depth index : Nat} {done : List Tree}
    {input rest : Octets} {tree : Tree}
    (read : readTreeItems fuel depth index done input = .ok (tree, rest)) {enough : Nat}
    (long : input.length < enough) :
    ∃ values, itemsFrom? enough (index == 0) input = some values := by
  induction fuel generalizing index done input enough with
  | zero =>
    rw [readTreeItems] at read
    cases read
  | succ fuel inductionHypothesis =>
    obtain ⟨enough, rfl⟩ := Nat.exists_eq_succ_of_ne_zero (Nat.ne_of_gt (Nat.zero_lt_of_lt long))
    rw [readTreeItems] at read
    split at read
    · cases read
    · rename_i ends
      exact ⟨[], itemsFrom?_end ends⟩
    · rename_i item next
      split at read
      · cases read
      · rename_i value left inner
        have skipped := ((passes_readTree fuel).1 depth item value left inner).skipValue
        have shorter := length_of_item next skipped
        obtain ⟨values, more⟩ :=
          inductionHypothesis read (Nat.lt_of_lt_of_le shorter (Nat.le_of_lt_succ long))
        exact ⟨_, itemsFrom?_item next skipped more⟩

/-- Every document that is a list has items. -/
theorem exists_items_of_parse {text left : Octets} {tree : Tree} (parsed : parse text = .ok tree)
    (opens : skipBlanks text = Octet.openBracket :: left) :
    ∃ values, items? text = some values := by
  have held : Shape.any.value? depthLimit text = some tree := congrArg Except.toOption parsed
  obtain ⟨rest, read, nothing⟩ := Shape.value?_eq_some_iff.1 held
  have whole : isWhole text = true := by
    rw [isWhole, Shape.any_measured.skipValue read]
    exact List.isEmpty_iff.2 nothing
  replace read : readTree (2 * text.length + 1 + 1) depthLimit text = .ok (tree, rest) := read
  rw [readTree, opens] at read
  obtain ⟨after, inner, -⟩ := exists_of_closeList (read : closeList
    (readTreeItems (2 * text.length + 1) (depthLimit - 1) 0 [] left) = .ok (tree, rest))
  obtain ⟨values, listed⟩ := exists_items_of_readTreeItems inner (Nat.lt_succ_self _)
  refine ⟨values, ?_⟩
  rw [items?, opens]
  exact (if_pos whole).trans listed

end Json

namespace Shape

open Json (Items Spans Stops skipBlanks)

variable {Record : Type} {fields : List (Field Record)}

/-- What a record becomes that takes in items, one for each of the first fields. -/
def takesInOrder? (depth : Nat) : List (Field Record) → List Octets → Record → Option Record
  | [], _, record => some record
  | field :: later, [], record =>
    if field.absence == .anywhere then takesInOrder? depth later [] record else none
  | field :: later, item :: items, record =>
    (field.shape.value? depth item).bind fun change =>
      takesInOrder? depth later items (change record)

/-- Items are read from their stretches. -/
theorem readPositions_of_items (name : String) (all depth : Nat)
    (steady : ∀ field ∈ fields, field.shape.Steady) {index : Nat} {values : List Octets}
    {used rest behind : Octets} (items : Items (index == 0) values used)
    (few : values.length ≤ fields.length)
    (closes : skipBlanks rest = Octet.closeBracket :: behind) (record : Record) :
    (readPositions name all depth fields index record (used ++ rest)).toOption =
      (takesInOrder? depth fields values record).map fun result => (result, rest) := by
  induction fields generalizing index values used record with
  | nil =>
    obtain rfl : values = [] := List.length_eq_zero_iff.1 (Nat.le_zero.1 few)
    cases items
    rfl
  | cons field later inductionHypothesis =>
    replace inductionHypothesis := @inductionHypothesis fun other among =>
      steady other (List.mem_cons_of_mem _ among)
    have own := steady field List.mem_cons_self
    cases items with
    | done =>
      rw [List.nil_append, readPositions, Json.nextItem?_of_bracket _ closes, takesInOrder?]
      dsimp only
      split
      · exact inductionHypothesis .done (Nat.zero_le _) record
      · rfl
    | @item _ gap value used values stands spans others =>
      have stops := others.stops closes
      rw [List.append_assoc, List.append_assoc, readPositions, stands, takesInOrder?]
      dsimp only
      rcases own.read_cases depth spans stops with ⟨refused, fault, read⟩ | ⟨change, held, read⟩
      · rw [refused, read]
        rfl
      · rw [held, read]
        have others : Items (index + 1 == 0) values used := others
        exact inductionHypothesis others (Nat.le_of_succ_le_succ few) (change record)

theorem closeList_of_bracket {Value : Type} {value : Value} {input behind : Octets}
    (closes : skipBlanks input = Octet.closeBracket :: behind) :
    Json.closeList (.ok (value, input)) = .ok (value, behind) := by
  rw [Json.closeList, closes]
  rfl

theorem record_read_of_bracket (name : String) (fields : List (Field Record)) (start : Record)
    {depth : Nat} (deep : 1 < depth) {input left : Octets}
    (at_bracket : skipBlanks input = Octet.openBracket :: left) :
    (Shape.record name fields start).read depth input =
      Json.closeList (readPositions name fields.length (depth - 1) fields 0 start left) := by
  have descends : Json.descend depth (Octet.openBracket :: left) = .ok (depth - 1) :=
    if_neg (by omega)
  simp only [Shape.record]
  rw [atValue_of_skipBlanks at_bracket, descends]
  rfl

/-- A record is read from its items. -/
theorem record_of_items (name : String) (steady : ∀ field ∈ fields, field.shape.Steady)
    (start : Record) {depth : Nat} (deep : 1 < depth) {values : List Octets}
    (few : values.length ≤ fields.length) {input used rest behind : Octets}
    (items : Items true values used)
    (at_bracket : skipBlanks input = Octet.openBracket :: (used ++ rest))
    (closes : skipBlanks rest = Octet.closeBracket :: behind) :
    ((Shape.record name fields start).read depth input).toOption =
      (takesInOrder? (depth - 1) fields values start).map fun result => (result, behind) := by
  have items : Items ((0 : Nat) == 0) values used := items
  have read := readPositions_of_items name fields.length (depth - 1) steady items few closes start
  rw [record_read_of_bracket name fields start deep at_bracket]
  cases found : readPositions name fields.length (depth - 1) fields 0 start (used ++ rest) with
  | error fault =>
    rw [found] at read
    have none : takesInOrder? (depth - 1) fields values start = none :=
      Option.map_eq_none_iff.1 read.symm
    rw [none]
    cases closed : Json.closeList (.error fault : Except Json.Fault (Record × Octets)) with
    | error fault => rfl
    | ok result => exact absurd closed (Json.closeList_error fault)
  | ok result =>
    rw [found] at read
    obtain ⟨record, taken, rfl⟩ := Option.map_eq_some_iff.1 read.symm
    rw [taken, closeList_of_bracket closes]
    rfl

/-- A list that a record is read from has no more items than the record has fields. -/
theorem exists_items_of_readPositions {name : String} {all depth : Nat}
    (steady : ∀ field ∈ fields, field.shape.Steady) {index : Nat} {record result : Record}
    {input rest : Octets}
    (read : readPositions name all depth fields index record input = .ok (result, rest)) :
    ∃ used values, input = used ++ rest ∧ Items (index == 0) values used ∧
      values.length ≤ fields.length := by
  induction fields generalizing index record input with
  | nil =>
    cases read
    exact ⟨[], [], rfl, .done, Nat.le_refl _⟩
  | cons field later inductionHypothesis =>
    replace inductionHypothesis := @inductionHypothesis fun other among =>
      steady other (List.mem_cons_of_mem _ among)
    rw [readPositions] at read
    split at read
    · cases read
    · rename_i ends
      split at read
      · obtain ⟨used, values, parts, items, few⟩ := inductionHypothesis read
        exact ⟨used, values, parts, items, Nat.le_succ_of_le few⟩
      · cases read
    · rename_i next
      split at read
      · cases read
      · rename_i value
        have skipped := (steady field List.mem_cons_self).measured.skipValue value
        obtain ⟨used, values, rfl, items, few⟩ := inductionHypothesis read
        obtain ⟨gap, rfl, spans, stands⟩ := Json.exists_item next skipped
        exact ⟨_, _, by simp, .item stands spans items, Nat.succ_le_succ few⟩

/-- The value of a list is what its items make. -/
theorem value?_of_items (name : String) (steady : ∀ field ∈ fields, field.shape.Steady)
    (start : Record) {depth : Nat} (deep : 1 < depth) {text : Octets} {values : List Octets}
    (there : Json.items? text = some values) (few : values.length ≤ fields.length) :
    (Shape.record name fields start).value? depth text =
      takesInOrder? (depth - 1) fields values start := by
  unfold Json.items? at there
  split at there
  · rename_i left at_bracket
    split at there
    · rename_i whole
      obtain ⟨used, rest, rfl, items, behind, closes, passes⟩ := Json.exists_items there
      have through : Json.Passes 0 .value [] (skipBlanks text) behind := at_bracket ▸ passes.list
      rw [Json.isWhole, through.of_skipBlanks.skipValue] at whole
      exact value?_of_read (record_of_items name steady start deep few items at_bracket closes)
        (List.isEmpty_iff.1 whole)
    · cases there
  · cases there

/-! ### Records are steady -/

theorem exists_ok_of_toOption {Fault Value : Type} {result : Except Fault Value} {value : Value}
    (taken : result.toOption = some value) : result = .ok value := by
  cases result with
  | error fault => cases taken
  | ok other => exact congrArg Except.ok (Option.some.inj taken)

/-- A record is read from a list or from a table. -/
theorem record_read_cases {name : String} {start result : Record} {depth : Nat}
    {input rest : Octets}
    (read : (Shape.record name fields start).read depth input = .ok (result, rest)) :
    1 < depth ∧
      ((∃ left, skipBlanks input = Octet.openBracket :: left ∧
        Json.closeList (readPositions name fields.length (depth - 1) fields 0 start left) =
          .ok (result, rest)) ∨
      ∃ left, skipBlanks input = Octet.openBrace :: left ∧
        Json.closeTable (readEntries fields (depth - 1) (left.length + 1) [] true start left) =
          .ok (result, rest)) := by
  simp only [Shape.record, atValue] at read
  split at read
  · cases read
  · split at read
    · rename_i at_bracket
      unfold Json.descend at read
      by_cases deep : depth ≤ 1
      · rw [if_pos deep] at read
        cases read
      · rw [if_neg deep] at read
        exact ⟨by omega, .inl ⟨_, at_bracket, read⟩⟩
    · rename_i at_brace
      unfold Json.descend at read
      by_cases deep : depth ≤ 1
      · rw [if_pos deep] at read
        cases read
      · rw [if_neg deep] at read
        exact ⟨by omega, .inr ⟨_, at_brace, read⟩⟩
    · cases read

/-- A record is a value of its own if its fields are. -/
theorem record_steady (name : String) (start : Record)
    (steady : ∀ field ∈ fields, field.shape.Steady) :
    (Shape.record name fields start).Steady where
  measured := record_measured name start fun field member => (steady field member).measured
  unspaced _ input := atValue_skipBlanks _ input
  taken depth result := by
    intro input rest read
    have measured : ∀ field ∈ fields, field.shape.Measured := fun field member =>
      (steady field member).measured
    obtain ⟨deep, ⟨left, at_bracket, closed⟩ | ⟨left, at_brace, closed⟩⟩ := record_read_cases read
    · obtain ⟨after, positions, closes⟩ := Json.exists_of_closeList closed
      obtain ⟨used, values, rfl, items, few⟩ := exists_items_of_readPositions steady positions
      have taken := record_of_items name steady start deep few items at_bracket closes
      rw [read] at taken
      obtain ⟨record, made, same⟩ := Option.map_eq_some_iff.1 taken.symm
      cases same
      obtain ⟨before, rfl, opens⟩ := (Json.local_octet Octet.openBracket) _ _ at_bracket
      obtain ⟨ending, rfl, shuts⟩ := (Json.local_octet Octet.closeBracket) _ _ closes
      refine ⟨before ++ (used ++ ending), by simp, fun other _ => exists_ok_of_toOption ?_⟩
      have at_bracket := opens (used ++ (ending ++ other)) trivial
      rw [record_of_items name steady start deep few items (by simpa using at_bracket)
        (shuts other trivial), made]
      rfl
    · obtain ⟨after, entries, -⟩ := Json.exists_of_closeTable closed
      obtain ⟨members, listed, -⟩ := takes_of_readEntries measured entries
      obtain ⟨used, ends, rfl, body, behind, closes, -⟩ := Json.exists_body listed
      have taken := record_of_body name steady start deep body at_brace closes
      rw [read] at taken
      obtain ⟨record, made, same⟩ := Option.map_eq_some_iff.1 taken.symm
      cases same
      obtain ⟨before, rfl, opens⟩ := (Json.local_octet Octet.openBrace) _ _ at_brace
      obtain ⟨ending, rfl, shuts⟩ := (Json.local_octet Octet.closeBrace) _ _ closes
      refine ⟨before ++ (used ++ ending), by simp, fun other _ => exists_ok_of_toOption ?_⟩
      have at_brace := opens (used ++ (ending ++ other)) trivial
      rw [record_of_body name steady start deep body (by simpa using at_brace)
        (shuts other trivial), made]
      rfl

end Shape

end LatencyService
