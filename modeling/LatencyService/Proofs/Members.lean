/-
What a table in a text carries, told without any record in mind: its members,
each a key and the text from its value on. A record that is read from a table
makes something of the members whose keys it knows, each of which occurs once,
and nothing of the others. So whatever is read from a table depends on no more
than what stands under the keys that are known.
-/

import LatencyService.Proofs.Extents

namespace LatencyService

namespace Json

/-! ### Members -/

/-- The members of a table from here on. Every member takes an octet, and so `fuel` may be the length
of the input. -/
def membersFrom? (fuel : Nat) (isFirst : Bool) (input : Octets) : Option (List (String × Octets)) :=
  match fuel with
  | 0 => none
  | fuel + 1 =>
    match nextKey? isFirst input with
    | .error _ => none
    | .ok none => some []
    | .ok (some (key, rest)) =>
      match readColon rest with
      | .error _ => none
      | .ok value =>
        match skipValue value with
        | .error _ => none
        | .ok rest => (membersFrom? fuel false rest).map ((key, value) :: ·)

/-- The text begins with a table. -/
def opensTable (text : Octets) : Bool := (skipBlanks text).head? == some Octet.openBrace

/-- The members of the table with which a text begins. -/
def members? (text : Octets) : Option (List (String × Octets)) :=
  match skipBlanks text with
  | Octet.openBrace :: rest => membersFrom? (rest.length + 1) true rest
  | _ => none

/-- The string with which a text begins. -/
def string? (text : Octets) : Option String :=
  match skipBlanks text with
  | Octet.quote :: rest => (readString rest).toOption.map Prod.fst
  | _ => none

/-- The text begins with null. -/
def isNull (text : Octets) : Bool :=
  match skipBlanks text with
  | Octet.smallN :: rest => (readWord nullTail rest).isOk
  | _ => false

section Beginnings

variable {text rest : Octets}

theorem members?_of_brace (at_brace : skipBlanks text = Octet.openBrace :: rest) :
    members? text = membersFrom? (rest.length + 1) true rest := by
  rw [members?, at_brace]
  rfl

theorem string?_of_quote (at_quote : skipBlanks text = Octet.quote :: rest) :
    string? text = (readString rest).toOption.map Prod.fst := by
  rw [string?, at_quote]
  rfl

theorem isNull_of_letter (at_letter : skipBlanks text = Octet.smallN :: rest) :
    isNull text = (readWord nullTail rest).isOk := by
  rw [isNull, at_letter]
  rfl

theorem string?_of_letter (at_letter : skipBlanks text = Octet.smallN :: rest) :
    string? text = none := by
  rw [string?, at_letter]
  rfl

/-- A table is closed behind what was read. -/
theorem exists_of_closeTable {Value : Type} {entries : Except Fault (Value × Octets)}
    {value : Value} (closed : closeTable entries = .ok (value, rest)) :
    ∃ after, entries = .ok (value, after) ∧ skipBlanks after = Octet.closeBrace :: rest := by
  cases entries with
  | error fault => exact absurd closed (closeTable_error fault)
  | ok read =>
    obtain ⟨other, after⟩ := read
    unfold closeTable at closed
    dsimp only at closed
    split at closed
    · cases closed
    · rename_i at_octet
      split at closed
      · rename_i same
        cases closed
        exact ⟨after, rfl, beq_iff_eq.1 same ▸ at_octet⟩
      · split at closed <;> cases closed

end Beginnings

theorem members?_skipBlanks (text : Octets) : members? (skipBlanks text) = members? text := by
  rw [members?, members?, skipBlanks_skipBlanks]

theorem skipBlanks_of_opensTable {text : Octets} (opens : opensTable text = true) :
    ∃ rest, skipBlanks text = Octet.openBrace :: rest := by
  have first : (skipBlanks text).head? = some Octet.openBrace := beq_iff_eq.1 opens
  exact List.head?_eq_some_iff.1 first

end Json

namespace Shape

/-! ### Texts -/

variable {Value : Type}

theorem read_map {Other : Type} {shape : Shape Value} {change : Value → Other} {depth : Nat}
    {input rest : Octets} {result : Other}
    (read : (shape.map change).read depth input = .ok (result, rest)) :
    ∃ value, shape.read depth input = .ok (value, rest) ∧ result = change value := by
  simp only [Shape.map] at read
  split at read
  · rename_i inner
    cases read
    exact ⟨_, inner, rfl⟩
  · cases read

theorem string?_of_text {depth : Nat} {input rest : Octets} {value : String}
    (read : text.read depth input = .ok (value, rest)) : Json.string? input = some value := by
  simp only [text, atValue] at read
  split at read
  · cases read
  · split at read
    · rename_i at_quote
      rw [Json.string?_of_quote at_quote, read]
      rfl
    · cases read

/-- A value is read at the first octet that is not blank. -/
theorem atValue_of_skipBlanks {read : Octets → Except Json.Fault (Value × Octets)}
    {octet : UInt8} {input rest : Octets} (at_octet : Json.skipBlanks input = octet :: rest) :
    atValue read input = read (octet :: rest) := by
  unfold atValue
  rw [at_octet]

/-- An optional text is a string, or else it is null. -/
theorem string?_of_optional {depth : Nat} {input rest : Octets} {value : Option String}
    (read : text.optional.read depth input = .ok (value, rest)) :
    value = Json.string? input ∧ (value = none → Json.isNull input = true) := by
  simp only [Shape.optional] at read
  split at read
  · rename_i at_letter
    split at read
    · rename_i word
      cases read
      rw [Json.string?_of_letter at_letter, Json.isNull_of_letter at_letter, word]
      exact ⟨rfl, fun _ => rfl⟩
    · cases read
  · obtain ⟨string, taken, rfl⟩ := read_map read
    have same := string?_of_text taken
    rw [Json.string?, Json.skipBlanks_skipBlanks] at same
    exact ⟨same.symm, fun none => nomatch none⟩

/-! ### Records -/

variable {Record : Type} {fields : List (Field Record)}

/-- What a record becomes that takes in members; the keys that it has seen may not come again. -/
inductive Takes (fields : List (Field Record)) (depth : Nat) :
    List String → List (String × Octets) → Record → Record → Prop where
  | done {seen : List String} {record : Record} : Takes fields depth seen [] record record
  | unknown {seen : List String} {members : List (String × Octets)} {record result : Record}
      {key : String} {text : Octets} (unknown : fieldOf? fields key = none)
      (later : Takes fields depth seen members record result) :
      Takes fields depth seen ((key, text) :: members) record result
  | known {seen : List String} {members : List (String × Octets)} {record result : Record}
      {key : String} {text rest : Octets} {field : Field Record} {change : Record → Record}
      (found : fieldOf? fields key = some field) (fresh : key ∉ seen)
      (read : field.shape.read depth text = .ok (change, rest))
      (later : Takes fields depth (key :: seen) members (change record) result) :
      Takes fields depth seen ((key, text) :: members) record result

/-- The entries that are read are the members of the table. -/
theorem takes_of_readEntries (measured : ∀ field ∈ fields, field.shape.Measured)
    {depth fuel : Nat} {seen : List String} {isFirst : Bool} {record result : Record}
    {input rest : Octets}
    (read : readEntries fields depth fuel seen isFirst record input = .ok (result, rest)) :
    ∃ members, Json.membersFrom? fuel isFirst input = some members ∧
      Takes fields depth seen members record result := by
  induction fuel generalizing seen isFirst record input with
  | zero => cases read
  | succ fuel inductionHypothesis =>
    rw [readEntries] at read
    rw [Json.membersFrom?]
    cases next : Json.nextKey? isFirst input with
    | error fault =>
      rw [next] at read
      cases read
    | ok found =>
      rw [next] at read
      cases found with
      | none =>
        dsimp only at read
        split at read
        · cases read
        · cases read
          exact ⟨[], rfl, .done⟩
      | some entry =>
        obtain ⟨key, behind⟩ := entry
        dsimp only at read ⊢
        cases colon : Json.readColon behind with
        | error fault =>
          split at read
          · rw [colon] at read
            cases read
          · split at read
            · cases read
            · rw [colon] at read
              cases read
        | ok text =>
          dsimp only
          split at read
          · rename_i unknown
            rw [colon] at read
            dsimp only at read
            cases skipped : Json.skipValue text with
            | error fault =>
              rw [skipped] at read
              cases read
            | ok after =>
              rw [skipped] at read
              obtain ⟨members, same, takes⟩ := inductionHypothesis read
              dsimp only
              rw [same]
              exact ⟨(key, text) :: members, rfl, .unknown unknown takes⟩
          · rename_i field found
            split at read
            · cases read
            · rename_i fresh
              rw [colon] at read
              dsimp only at read
              split at read
              · cases read
              · rename_i value
                obtain ⟨members, same, takes⟩ := inductionHypothesis read
                have skipped : Json.skipValue text = .ok _ :=
                  (measured field (fieldOf?_some found).1).skipValue value
                rw [skipped]
                dsimp only
                rw [same]
                exact ⟨(key, text) :: members, rfl,
                  .known found (by simpa using fresh) value takes⟩

/-- A record that is read from a table has taken in the members of the table. -/
theorem takes_of_record {name : String} {start record : Record}
    (measured : ∀ field ∈ fields, field.shape.Measured) {depth : Nat} {input rest : Octets}
    (read : (Shape.record name fields start).read depth input = .ok (record, rest))
    (opens : Json.opensTable input = true) :
    ∃ members, Json.members? input = some members ∧
      ∃ inner, Takes fields inner [] members start record := by
  obtain ⟨left, at_brace⟩ := Json.skipBlanks_of_opensTable opens
  simp only [Shape.record] at read
  rw [atValue_of_skipBlanks at_brace] at read
  rw [Json.members?_of_brace at_brace]
  cases deeper : Json.descend depth (Octet.openBrace :: left) with
  | error fault =>
    simp only [deeper] at read
    cases read
  | ok inner =>
    simp only [deeper] at read
    obtain ⟨after, entries, -⟩ := Json.exists_of_closeTable read
    obtain ⟨members, same, takes⟩ := takes_of_readEntries measured entries
    exact ⟨members, same, inner, takes⟩

variable {depth : Nat} {seen : List String} {members : List (String × Octets)}
  {record result : Record} {key : String}

/-- A key that is known occurs once, and one that has been seen does not occur any more. -/
theorem Takes.count_le_one (takes : Takes fields depth seen members record result)
    (known : (fieldOf? fields key).isSome = true) :
    (members.map Prod.fst).count key ≤ 1 ∧
      (key ∈ seen → (members.map Prod.fst).count key = 0) := by
  induction takes with
  | done => exact ⟨Nat.zero_le 1, fun _ => rfl⟩
  | @unknown seen members record result other text unknown later inductionHypothesis =>
    have apart : other ≠ key := by
      rintro rfl
      rw [unknown] at known
      cases known
    rw [List.map_cons, List.count_cons_of_ne apart]
    exact inductionHypothesis
  | @known seen members record result other text rest field change found fresh read later
      inductionHypothesis =>
    rw [List.map_cons]
    by_cases same : other = key
    · rw [same, List.count_cons_self]
      have gone := inductionHypothesis.2 (same ▸ List.mem_cons_self)
      exact ⟨by omega, fun member => absurd (same ▸ member) fresh⟩
    · rw [List.count_cons_of_ne same]
      exact ⟨inductionHypothesis.1,
        fun member => inductionHypothesis.2 (List.mem_cons_of_mem _ member)⟩

/-- What a record shows comes from the member of one key, if what its field reads decides that, and
if no other field touches it. -/
theorem Takes.look (look : Record → Value) (shows : Octets → Value → Prop)
    (takes : Takes fields depth seen members record result)
    (mine : ∀ field, fieldOf? fields key = some field → ∀ depth text change rest,
      field.shape.read depth text = .ok (change, rest) → ∀ record, shows text (look (change record)))
    (others : ∀ field ∈ fields, field.key ≠ key → ∀ depth text change rest,
      field.shape.read depth text = .ok (change, rest) → ∀ record, look (change record) = look record)
    (known : (fieldOf? fields key).isSome = true) :
    (key ∈ seen → look result = look record) ∧
      (key ∉ seen → (members.lookup key).elim (look result = look record)
        fun text => shows text (look result)) := by
  induction takes with
  | done => exact ⟨fun _ => rfl, fun _ => rfl⟩
  | @unknown seen members record result other text unknown later inductionHypothesis =>
    have apart : (key == other) = false := by
      rw [beq_eq_false_iff_ne]
      rintro rfl
      rw [unknown] at known
      cases known
    rw [List.lookup_cons, apart]
    exact inductionHypothesis
  | @known seen members record result other text rest field change found fresh read later
      inductionHypothesis =>
    obtain ⟨member, named⟩ := fieldOf?_some found
    by_cases same : key = other
    · subst same
      have kept := inductionHypothesis.1 List.mem_cons_self
      rw [List.lookup_cons, beq_self_eq_true]
      refine ⟨fun seen_key => absurd seen_key fresh, fun _ => ?_⟩
      rw [Option.elim_some, kept]
      exact mine field found _ _ _ _ read record
    · have kept := others field member (fun equal => same (equal.symm.trans named)) _ _ _ _ read record
      rw [kept] at inductionHypothesis
      rw [List.lookup_cons, beq_eq_false_iff_ne.2 same]
      refine ⟨fun seen_key => inductionHypothesis.1 (List.mem_cons_of_mem _ seen_key),
        fun unseen => inductionHypothesis.2 ?_⟩
      rw [List.mem_cons, not_or]
      exact ⟨same, unseen⟩

end Shape

end LatencyService
