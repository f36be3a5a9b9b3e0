/-
Tables and lists that are written as JSON are read again, part by part: as the
record of a shape when each of their parts is read by the field of its key, and
as a tree when each part is read as one. A part is read wherever it stands, as
long as not too many containers are open around it.
-/

import LatencyService.Envelope.Header
import LatencyService.Proofs.Spelling

namespace LatencyService

namespace Json

/-! ### What a written value begins with -/

/-- A text begins with an octet that is no blank, and with which neither `null` nor the end of a list
begins. -/
def Begins (text : String) : Prop :=
  ∃ first others, Octets.ofText text = first :: others ∧ isBlank first = false ∧
    first ≠ Octet.smallN ∧ first ≠ Octet.closeBracket

theorem begins_quote (text : String) : Begins (quote text) :=
  ⟨_, _, ofText_quote text, rfl, by decide, by decide⟩

theorem begins_of_isDigit {octet : UInt8} (digit : Octet.isDigit octet = true) :
    isBlank octet = false ∧ octet ≠ Octet.smallN ∧ octet ≠ Octet.closeBracket := by
  refine ⟨isBlank_of_isDigit digit, ?_, ?_⟩
  · rintro rfl
    cases digit
  · rintro rfl
    cases digit

theorem begins_integer (value : Int) : Begins (toString value) := by
  rw [Int.toString_eq_repr, Int.repr_eq_if]
  split
  · obtain ⟨first, others, parts, -⟩ := ofText_repr_eq_cons value.toNat
    have digit : Octet.isDigit first = true :=
      isDigit_of_mem_repr value.toNat first (parts ▸ List.mem_cons_self)
    exact ⟨first, others, parts, begins_of_isDigit digit⟩
  · refine ⟨Octet.minus, Octets.ofText (-value).toNat.repr, ?_, rfl, by decide⟩
    rw [Octets.ofText_append]
    rfl

/-! ### Entries -/

/-- An entry of a table, from its key to its value. -/
def entryOctets (entry : String × String) : Octets :=
  Octets.ofText (quote entry.1) ++ Octet.colon :: Octets.ofText entry.2

/-- The entries behind the first one, each behind its comma. -/
def laterEntries (entries : List (String × String)) : Octets :=
  entries.flatMap fun entry => Octet.comma :: entryOctets entry

/-- Texts behind the first one, each behind its comma. -/
def laterItems (items : List String) : Octets :=
  items.flatMap fun item => Octet.comma :: Octets.ofText item

theorem ofText_intercalate (first : String) (others : List String) :
    Octets.ofText (String.intercalate "," (first :: others)) =
      Octets.ofText first ++ laterItems others := by
  induction others generalizing first with
  | nil => rw [String.intercalate_singleton, laterItems, List.flatMap_nil, List.append_nil]
  | cons next rest inductionHypothesis =>
    rw [String.intercalate_cons_cons, Octets.ofText_append, Octets.ofText_append,
      inductionHypothesis, List.append_assoc]
    rfl

theorem ofText_object_nil : Octets.ofText (object []) = [Octet.openBrace, Octet.closeBrace] := rfl

theorem ofText_object_cons (first : String × String) (others : List (String × String)) :
    Octets.ofText (object (first :: others)) =
      Octet.openBrace :: (entryOctets first ++ (laterEntries others ++ [Octet.closeBrace])) := by
  have entry (entry : String × String) :
      Octets.ofText (quote entry.1 ++ ":" ++ entry.2) = entryOctets entry := by
    rw [Octets.ofText_append, Octets.ofText_append, List.append_assoc]
    rfl
  have later : laterItems (others.map fun entry => quote entry.1 ++ ":" ++ entry.2) =
      laterEntries others := by
    rw [laterItems, List.flatMap_map, laterEntries]
    simp only [entry]
  rw [object, Octets.ofText_append, Octets.ofText_append, List.map_cons, ofText_intercalate, later,
    entry, List.append_assoc, List.append_assoc]
  rfl

theorem ofText_array_nil : Octets.ofText (array []) = [Octet.openBracket, Octet.closeBracket] := rfl

theorem ofText_array_cons (first : String) (others : List String) :
    Octets.ofText (array (first :: others)) =
      Octet.openBracket :: (Octets.ofText first ++ (laterItems others ++ [Octet.closeBracket])) := by
  rw [array, Octets.ofText_append, Octets.ofText_append, ofText_intercalate, List.append_assoc,
    List.append_assoc]
  rfl

theorem begins_object (entries : List (String × String)) : Begins (object entries) := by
  cases entries with
  | nil => exact ⟨_, _, ofText_object_nil, rfl, by decide, by decide⟩
  | cons first others => exact ⟨_, _, ofText_object_cons first others, rfl, by decide, by decide⟩

/-! ### Reading what separates entries and items -/

/-- Blanks are skipped where there are none. -/
theorem readColon_colon (rest : Octets) : readColon (Octet.colon :: rest) = .ok rest := rfl

/-- The first key of a table. -/
theorem nextKey?_first (key : String) (rest : Octets) :
    nextKey? true (Octets.ofText (quote key) ++ rest) = .ok (some (key, rest)) := by
  obtain ⟨written, parts, read⟩ := readString_quote key rest
  rw [parts, List.cons_append, nextKey?, skipBlanks_cons rfl]
  dsimp only
  rw [if_neg (by decide), if_pos rfl, if_pos (beq_self_eq_true _), read]

/-- Every other key, which stands behind a comma. -/
theorem nextKey?_later (key : String) (rest : Octets) :
    nextKey? false (Octet.comma :: (Octets.ofText (quote key) ++ rest)) =
      .ok (some (key, rest)) := by
  obtain ⟨written, parts, read⟩ := readString_quote key rest
  rw [parts, List.cons_append, nextKey?, skipBlanks_cons rfl]
  dsimp only
  rw [if_neg (by decide), if_neg (by decide), if_neg (by decide), skipBlanks_cons rfl]
  dsimp only
  rw [if_pos (beq_self_eq_true _), read]

theorem nextKey?_end (isFirst : Bool) (rest : Octets) :
    nextKey? isFirst (Octet.closeBrace :: rest) = .ok none := by
  rw [nextKey?, skipBlanks_cons rfl]
  exact if_pos rfl

/-- The first item of a list. -/
theorem nextItem?_first {octet : UInt8} (graphic : isBlank octet = false)
    (item : octet ≠ Octet.closeBracket) (rest : Octets) :
    nextItem? true (octet :: rest) = .ok (some (octet :: rest)) := by
  rw [nextItem?, skipBlanks_cons graphic]
  dsimp only
  rw [if_neg (by rwa [beq_iff_eq]), if_pos rfl]

/-- Every other item, which stands behind a comma. -/
theorem nextItem?_later {octet : UInt8} (graphic : isBlank octet = false)
    (item : octet ≠ Octet.closeBracket) (rest : Octets) :
    nextItem? false (Octet.comma :: octet :: rest) = .ok (some (octet :: rest)) := by
  rw [nextItem?, skipBlanks_cons rfl]
  dsimp only
  rw [if_neg (by decide), if_neg (by decide), if_neg (by decide), skipBlanks_cons graphic]
  dsimp only
  rw [if_neg (by rwa [beq_iff_eq])]

theorem nextItem?_end (isFirst : Bool) (rest : Octets) :
    nextItem? isFirst (Octet.closeBracket :: rest) = .ok none := by
  rw [nextItem?, skipBlanks_cons rfl]
  exact if_pos rfl

theorem descend_of_lt {depth : Nat} (room : 1 < depth) (input : Octets) :
    descend depth input = .ok (depth - 1) := if_neg (Nat.not_le.2 room)

end Json

namespace Shape

/-! ### Values of shapes -/

/-- Where more than so many containers may still be opened, a text is read as a value, and what
follows it is left. -/
def Reads {Value : Type} (shape : Shape Value) (level : Nat) (text : String) (value : Value) :
    Prop :=
  ∀ depth rest, level < depth → Json.Ends rest →
    shape.read depth (Octets.ofText text ++ rest) = .ok (value, rest)

variable {Value : Type} {shape : Shape Value} {level : Nat} {written : String} {value : Value}

theorem Reads.map {Other : Type} (reads : shape.Reads level written value)
    (change : Value → Other) : (shape.map change).Reads level written (change value) := by
  intro depth rest room ends
  rw [Shape.map]
  dsimp only
  rw [reads depth rest room ends]

/-- A value that is there is read as one that may be missing. -/
theorem Reads.optional (reads : shape.Reads level written value) (begins : Json.Begins written) :
    shape.optional.Reads level written (some value) := by
  intro depth rest room ends
  obtain ⟨first, others, parts, graphic, present, -⟩ := begins
  have read := reads.map some depth rest room ends
  rw [parts, List.cons_append] at read
  rw [parts, List.cons_append, Shape.optional]
  dsimp only
  rw [Json.skipBlanks_cons graphic]
  split
  · rename_i same
    exact absurd (List.cons.inj same).1 present
  · exact read

theorem Reads.orElse (reads : shape.Reads level written value) (begins : Json.Begins written)
    (other : Value) : (shape.orElse other).Reads level written value :=
  (reads.optional begins).map (·.getD other)

/-- A text that fills a whole document. -/
theorem Reads.ofText (reads : shape.Reads level written value) (shallow : level < Json.depthLimit) :
    shape.ofText (Octets.ofText written) = .ok value := by
  have read := reads Json.depthLimit [] shallow Json.ends_nil
  rw [List.append_nil] at read
  rw [Shape.ofText, Json.whole, read]
  rfl

theorem atValue_cons {octet : UInt8} (graphic : Json.isBlank octet = false) (rest : Octets)
    (read : Octets → Except Json.Fault (Value × Octets)) :
    atValue read (octet :: rest) = read (octet :: rest) := by
  rw [atValue, Json.skipBlanks_cons graphic]

theorem text_reads (value : String) : Shape.text.Reads 0 (Json.quote value) value := by
  intro depth rest _ _
  obtain ⟨written, parts, read⟩ := Json.readString_quote value rest
  rw [parts, List.cons_append, Shape.text]
  dsimp only
  rw [atValue_cons rfl]
  exact read

/-- A whole number that its type holds. -/
theorem whole_reads (name : String) {ofInt? : Int → Option Value} {number : Int}
    (held : ofInt? number = some value) (low : -0x8000000000000000 ≤ number)
    (high : number ≤ 0xFFFFFFFFFFFFFFFF) :
    (whole name ofInt?).Reads 0 (toString number) value := by
  intro depth rest _ ends
  obtain ⟨first, others, parts, graphic, -⟩ := Json.begins_integer number
  have read := Json.number?_repr low high ends
  rw [parts, List.cons_append] at read
  rw [parts, List.cons_append, whole]
  dsimp only
  rw [atValue_cons graphic, read]
  dsimp only
  rw [held]

theorem integer32_reads (value : Int32) : integer32.Reads 0 (toString value.toInt) value := by
  have low : -0x80000000 ≤ value.toInt := Int32.le_toInt value
  have high : value.toInt < 0x80000000 := Int32.toInt_lt value
  refine whole_reads "i32" ?_ (by omega) (by omega)
  rw [if_pos (by simpa using ⟨low, high⟩), Int32.ofInt_toInt]

theorem natural64_reads (value : UInt64) : natural64.Reads 0 (toString value.toNat) value := by
  have high : value.toNat < 0x10000000000000000 := value.toNat_lt
  show (whole _ _).Reads 0 (toString (value.toNat : Int)) value
  refine whole_reads "u64" ?_ (by omega) (by omega)
  rw [if_pos (by simp; omega), Int.toNat_natCast]
  exact congrArg some UInt64.ofNat_toNat

theorem boolean_reads (value : Bool) :
    boolean.Reads 0 (if value then "true" else "false") value := by
  intro depth rest _ _
  cases value <;> rfl

/-- A value that is missing is written as null. -/
theorem null_reads : shape.optional.Reads level "null" none := fun _ _ _ _ => rfl

/-- A value that may be missing, written as null where it is. -/
theorem optional_reads {render : Value → String}
    (reads : ∀ value, shape.Reads level (render value) value)
    (begins : ∀ value, Json.Begins (render value)) (part : Option Value) :
    shape.optional.Reads level ((part.map render).getD "null") part := by
  cases part with
  | none => exact null_reads
  | some value => exact (reads value).optional (begins value)

/-- One of several values, by its name. -/
theorem choice_reads {variants : List (String × Value)} {name : String}
    (chosen : chosen? variants name = .ok value) :
    (choice variants).Reads 0 (Json.quote name) value := by
  intro depth rest _ _
  obtain ⟨written, parts, read⟩ := Json.readString_quote name rest
  rw [parts, List.cons_append, choice]
  dsimp only
  rw [atValue_cons rfl]
  show readVariant variants (written ++ rest) = .ok (value, rest)
  rw [readVariant, read]
  dsimp only
  rw [chosen]

/-! ### Records -/

variable {Record : Type} {fields : List (Field Record)}

/-- An entry of a table: what is written under its key, and what reading that does to a record. -/
structure Entry (Record : Type) where
  key : String
  written : String
  change : Record → Record

/-- The entry as it is written. -/
def Entry.pair (entry : Entry Record) : String × String := (entry.key, entry.written)

/-- There is a field for the entry, and it reads it. -/
def ReadsEntry (fields : List (Field Record)) (level : Nat) (entry : Entry Record) : Prop :=
  ∃ field, fieldOf? fields entry.key = some field ∧
    field.shape.Reads level entry.written entry.change

variable {entry : Entry Record} {entries : List (Entry Record)} {depth fuel : Nat}
  {seen : List String} {record start : Record} {rest : Octets}

/-- Reading an entry once its key was taken. -/
theorem ReadsEntry.step (reads : ReadsEntry fields level entry) (fresh : entry.key ∉ seen)
    (room : level < depth) (ends : Json.Ends rest) {isFirst : Bool} {input : Octets}
    (next : Json.nextKey? isFirst input = .ok (some
      (entry.key, Octet.colon :: (Octets.ofText entry.written ++ rest)))) :
    readEntries fields depth (fuel + 1) seen isFirst record input =
      readEntries fields depth fuel (entry.key :: seen) false (entry.change record) rest := by
  obtain ⟨field, found, read⟩ := reads
  have unseen : seen.contains entry.key = false := by simpa using fresh
  rw [readEntries, next]
  dsimp only
  rw [found]
  dsimp only
  rw [unseen, Json.readColon_colon]
  dsimp only
  rw [read depth rest room ends]
  rfl

theorem ends_laterEntries (pairs : List (String × String)) (rest : Octets) :
    Json.Ends (Json.laterEntries pairs ++ Octet.closeBrace :: rest) := by
  cases pairs with
  | nil => exact Json.ends_cons (.inr (.inr rfl))
  | cons first others => exact Json.ends_cons (.inl rfl)

/-- Nothing is left but the end of the table. -/
theorem readEntries_end (complete : missing? fields seen = none) (isFirst : Bool) :
    readEntries fields depth (fuel + 1) seen isFirst record (Octet.closeBrace :: rest) =
      .ok (record, Octet.closeBrace :: rest) := by
  rw [readEntries, Json.nextKey?_end]
  dsimp only
  rw [complete]

/-- The entries behind the first one. -/
theorem readEntries_later (each : ∀ entry ∈ entries, ReadsEntry fields level entry)
    (once : (entries.map Entry.key).Nodup) (fresh : ∀ entry ∈ entries, entry.key ∉ seen)
    (all : ∀ field ∈ fields, field.absence = .refused →
      field.key ∈ entries.map Entry.key ++ seen)
    (room : level < depth) (enough : entries.length < fuel) :
    readEntries fields depth fuel seen false record
        (Json.laterEntries (entries.map Entry.pair) ++ Octet.closeBrace :: rest) =
      .ok (entries.foldl (fun record entry => entry.change record) record,
        Octet.closeBrace :: rest) := by
  obtain ⟨fuel, rfl⟩ := Nat.exists_eq_add_one_of_ne_zero (Nat.ne_zero_of_lt enough)
  induction entries generalizing seen record fuel with
  | nil =>
    exact readEntries_end (missing?_eq_none all) false
  | cons entry others inductionHypothesis =>
    obtain ⟨apart, once⟩ := List.nodup_cons.1 once
    have next := Json.nextKey?_later entry.key (Octet.colon :: (Octets.ofText entry.written ++
      (Json.laterEntries (others.map Entry.pair) ++ Octet.closeBrace :: rest)))
    have parts : Json.laterEntries ((entry :: others).map Entry.pair) ++ Octet.closeBrace :: rest =
        Octet.comma :: (Octets.ofText (Json.quote entry.key) ++ Octet.colon ::
          (Octets.ofText entry.written ++
            (Json.laterEntries (others.map Entry.pair) ++ Octet.closeBrace :: rest))) := by
      rw [List.map_cons, Json.laterEntries, List.flatMap_cons, Json.entryOctets, List.append_assoc,
        List.cons_append, List.append_assoc, List.cons_append]
      rfl
    rw [parts, (each entry List.mem_cons_self).step (fresh entry List.mem_cons_self) room
      (ends_laterEntries _ rest) next]
    have less : others.length < fuel := Nat.lt_of_succ_lt_succ enough
    obtain ⟨fuel, rfl⟩ := Nat.exists_eq_add_one_of_ne_zero (Nat.ne_zero_of_lt less)
    refine inductionHypothesis (fun other member => each other (List.mem_cons_of_mem _ member)) once
      (fun other member => ?_) (fun field member refused => ?_) fuel less
    · rw [List.mem_cons, not_or]
      refine ⟨fun same => apart ?_, fresh other (List.mem_cons_of_mem _ member)⟩
      exact List.mem_map.2 ⟨other, member, same⟩
    · have there := all field member refused
      simp only [List.map_cons, List.cons_append, List.mem_cons, List.mem_append] at there ⊢
      tauto

theorem length_le_laterEntries (pairs : List (String × String)) :
    pairs.length ≤ (Json.laterEntries pairs).length := by
  induction pairs with
  | nil => exact Nat.le_refl 0
  | cons first others inductionHypothesis =>
    rw [Json.laterEntries, List.flatMap_cons, List.length_append, List.length_cons,
      List.length_cons]
    have more : others.length ≤ (others.flatMap fun entry =>
      Octet.comma :: Json.entryOctets entry).length := inductionHypothesis
    omega

variable (start) in
/-- A record is read from the table of its entries. -/
theorem record_reads (name : String) (each : ∀ entry ∈ entries, ReadsEntry fields level entry)
    (once : (entries.map Entry.key).Nodup)
    (all : ∀ field ∈ fields, field.absence = .refused → field.key ∈ entries.map Entry.key) :
    (Shape.record name fields start).Reads (level + 1) (Json.object (entries.map Entry.pair))
      (entries.foldl (fun record entry => entry.change record) start) := by
  intro depth rest room _
  have inner : level < depth - 1 := by omega
  have opens (input : Octets) : (Shape.record name fields start).read depth
        (Octet.openBrace :: input) =
      Json.closeTable (readEntries fields (depth - 1) (input.length + 1) [] true start input) := by
    rw [Shape.record]
    dsimp only
    rw [atValue_cons rfl, Json.descend_of_lt (by omega)]
    rfl
  cases entries with
  | nil =>
    rw [List.map_nil, Json.ofText_object_nil]
    show (Shape.record name fields start).read depth (Octet.openBrace :: Octet.closeBrace :: rest) = _
    have complete : missing? fields [] = none := missing?_eq_none all
    rw [opens, readEntries_end complete]
    rfl
  | cons entry others =>
    obtain ⟨apart, once⟩ := List.nodup_cons.1 once
    have next := Json.nextKey?_first entry.key (Octet.colon :: (Octets.ofText entry.written ++
      (Json.laterEntries (others.map Entry.pair) ++ Octet.closeBrace :: rest)))
    have parts : Octets.ofText (Json.object ((entry :: others).map Entry.pair)) ++ rest =
        Octet.openBrace :: (Octets.ofText (Json.quote entry.key) ++ Octet.colon ::
          (Octets.ofText entry.written ++
            (Json.laterEntries (others.map Entry.pair) ++ Octet.closeBrace :: rest))) := by
      rw [List.map_cons, Json.ofText_object_cons, Json.entryOctets]
      simp only [List.cons_append, List.append_assoc]
      rfl
    have fresh : ∀ other ∈ others, other.key ∉ [entry.key] := by
      intro other member same
      exact apart (List.mem_map.2 ⟨other, member, List.mem_singleton.1 same⟩)
    have covered : ∀ field ∈ fields, field.absence = .refused →
        field.key ∈ others.map Entry.key ++ [entry.key] := by
      intro field member refused
      rcases List.mem_cons.1 (all field member refused) with first | later
      · exact List.mem_append_right _ (List.mem_singleton.2 first)
      · exact List.mem_append_left _ later
    have enough : others.length < (Octets.ofText (Json.quote entry.key) ++ Octet.colon ::
        (Octets.ofText entry.written ++
          (Json.laterEntries (others.map Entry.pair) ++ Octet.closeBrace :: rest))).length := by
      have less := length_le_laterEntries (others.map Entry.pair)
      rw [List.length_map] at less
      simp only [List.length_append, List.length_cons]
      omega
    rw [parts, opens, (each entry List.mem_cons_self).step List.not_mem_nil inner
      (ends_laterEntries _ rest) next, readEntries_later
      (fun other member => each other (List.mem_cons_of_mem _ member)) once fresh covered inner
      enough]
    rfl

/-- A record that may lack any of its fields is read from entries that make it up. -/
theorem record_reads_of_foldl (name : String)
    (each : ∀ entry ∈ entries, ReadsEntry fields level entry)
    (once : (entries.map Entry.key).Nodup) (free : ∀ field ∈ fields, field.absence ≠ .refused)
    (made : entries.foldl (fun record entry => entry.change record) start = record) :
    (Shape.record name fields start).Reads (level + 1) (Json.object (entries.map Entry.pair))
      record :=
  made ▸ record_reads start name each once fun field member refused =>
    absurd refused (free field member)

end Shape

namespace Json

/-! ### Trees -/

/-- Where more than so many containers may still be opened, a text is read as a tree, and what follows
it is left. -/
def Writes (level : Nat) (written : String) (tree : Tree) : Prop :=
  ∀ fuel depth rest, (Octets.ofText written).length < fuel → level < depth → Ends rest →
    readTree fuel depth (Octets.ofText written ++ rest) = .ok (tree, rest)

variable {level depth fuel : Nat} {written : String} {tree : Tree} {rest : Octets}

theorem Writes.mono {more : Nat} (writes : Writes level written tree) (less : level ≤ more) :
    Writes more written tree :=
  fun fuel depth rest enough room =>
    writes fuel depth rest enough (Nat.lt_of_le_of_lt less room)

/-- Any shape takes what is read as a tree. -/
theorem Writes.any (writes : Writes level written tree) :
    Shape.any.Reads level written tree := by
  intro depth rest room ends
  refine writes _ depth rest ?_ room ends
  rw [List.length_append]
  omega

/-- A tree that fills a whole document. -/
theorem Writes.parse (writes : Writes level written tree) (shallow : level < depthLimit) :
    Json.parse (Octets.ofText written) = .ok tree := by
  have read := writes (2 * (Octets.ofText written).length + 2) depthLimit [] (by omega) shallow
    ends_nil
  rw [List.append_nil] at read
  rw [Json.parse, whole, read]
  rfl

theorem quote_writes (text : String) : Writes 0 (quote text) (.text text) := by
  intro fuel depth rest enough _ _
  obtain ⟨fuel, rfl⟩ := Nat.exists_eq_add_one_of_ne_zero (Nat.ne_zero_of_lt enough)
  obtain ⟨octets, parts, read⟩ := readString_quote text rest
  rw [parts, List.cons_append, readTree, skipBlanks_cons rfl]
  conv_lhs => whnf
  rw [read]

/-- What begins with a number is read as one. -/
theorem readTree_number {octet : UInt8} {input : Octets} {number : Number}
    (graphic : isBlank octet = false)
    (read : number? (octet :: input) = some (.ok (number, rest))) :
    readTree (fuel + 1) depth (octet :: input) = .ok (number.toTree, rest) := by
  rw [readTree, skipBlanks_cons graphic]
  dsimp only
  split
  · rename_i none
    cases none
  all_goals try
    rename_i same
    rw [(List.cons.inj same).1] at read
    cases read
  rw [read]

theorem integer_writes {value : Int} (low : -0x8000000000000000 ≤ value)
    (high : value ≤ 0xFFFFFFFFFFFFFFFF) : Writes 0 (toString value) (.integer value) := by
  intro fuel depth rest enough _ ends
  obtain ⟨fuel, rfl⟩ := Nat.exists_eq_add_one_of_ne_zero (Nat.ne_zero_of_lt enough)
  obtain ⟨first, others, parts, graphic, -⟩ := begins_integer value
  have read := number?_repr low high ends
  rw [parts, List.cons_append] at read ⊢
  exact readTree_number graphic read

/-! ### Tables -/

/-- An entry of a table: what is written under its key, and the tree that it is read as. -/
structure TreeEntry where
  key : String
  written : String
  tree : Tree

/-- The entry as it is written. -/
def TreeEntry.pair (entry : TreeEntry) : String × String := (entry.key, entry.written)

/-- The entries of a table after some more were read. -/
def insertAll (done : List (String × Tree)) (entries : List TreeEntry) : List (String × Tree) :=
  entries.foldl (fun done entry => Tree.insertSorted entry.key entry.tree done) done

variable {entry : TreeEntry} {entries : List TreeEntry} {done : List (String × Tree)}

theorem readTreeEntries_step (writes : Writes level entry.written entry.tree)
    (enough : (Octets.ofText entry.written).length < fuel) (room : level < depth)
    (ends : Ends rest) {isFirst : Bool} {input : Octets}
    (next : nextKey? isFirst input = .ok (some
      (entry.key, Octet.colon :: (Octets.ofText entry.written ++ rest)))) :
    readTreeEntries (fuel + 1) depth isFirst done input =
      readTreeEntries fuel depth false (Tree.insertSorted entry.key entry.tree done) rest := by
  rw [readTreeEntries, next]
  dsimp only
  rw [readColon_colon]
  dsimp only
  rw [writes fuel depth rest enough room ends]

theorem readTreeEntries_end (isFirst : Bool) :
    readTreeEntries (fuel + 1) depth isFirst done (Octet.closeBrace :: rest) =
      .ok (.table done, Octet.closeBrace :: rest) := by
  rw [readTreeEntries, nextKey?_end]

theorem readTreeEntries_later (each : ∀ entry ∈ entries, Writes level entry.written entry.tree)
    (room : level < depth)
    (enough : (laterEntries (entries.map TreeEntry.pair)).length < fuel) :
    readTreeEntries fuel depth false done
        (laterEntries (entries.map TreeEntry.pair) ++ Octet.closeBrace :: rest) =
      .ok (.table (insertAll done entries), Octet.closeBrace :: rest) := by
  obtain ⟨fuel, rfl⟩ := Nat.exists_eq_add_one_of_ne_zero (Nat.ne_zero_of_lt enough)
  induction entries generalizing done fuel with
  | nil => exact readTreeEntries_end false
  | cons entry others inductionHypothesis =>
    have next := nextKey?_later entry.key (Octet.colon :: (Octets.ofText entry.written ++
      (laterEntries (others.map TreeEntry.pair) ++ Octet.closeBrace :: rest)))
    have parts : laterEntries ((entry :: others).map TreeEntry.pair) =
        Octet.comma :: (Octets.ofText (quote entry.key) ++ Octet.colon ::
          (Octets.ofText entry.written ++ laterEntries (others.map TreeEntry.pair))) := by
      rw [List.map_cons, laterEntries, List.flatMap_cons, entryOctets, List.cons_append,
        List.append_assoc, List.cons_append]
      rfl
    rw [parts] at enough
    simp only [List.length_cons, List.length_append] at enough
    have fits : (Octets.ofText entry.written).length < fuel := by omega
    have less : (laterEntries (others.map TreeEntry.pair)).length < fuel := by omega
    have whole : laterEntries ((entry :: others).map TreeEntry.pair) ++ Octet.closeBrace :: rest =
        Octet.comma :: (Octets.ofText (quote entry.key) ++ Octet.colon ::
          (Octets.ofText entry.written ++
            (laterEntries (others.map TreeEntry.pair) ++ Octet.closeBrace :: rest))) := by
      rw [parts]
      simp only [List.cons_append, List.append_assoc]
    rw [whole, readTreeEntries_step (each entry List.mem_cons_self) fits room
      (Shape.ends_laterEntries (others.map TreeEntry.pair) rest) next]
    obtain ⟨fuel, rfl⟩ := Nat.exists_eq_add_one_of_ne_zero (Nat.ne_zero_of_lt fits)
    exact inductionHypothesis (fun other member => each other (List.mem_cons_of_mem _ member)) fuel
      less

/-- A tree is read from the table of its entries. -/
theorem object_writes (each : ∀ entry ∈ entries, Writes level entry.written entry.tree) :
    Writes (level + 1) (object (entries.map TreeEntry.pair)) (.table (insertAll [] entries)) := by
  intro fuel depth rest enough room _
  have inner : level < depth - 1 := by omega
  obtain ⟨fuel, rfl⟩ := Nat.exists_eq_add_one_of_ne_zero (Nat.ne_zero_of_lt enough)
  have opens (input : Octets) : readTree (fuel + 1) depth (Octet.openBrace :: input) =
      closeTable (readTreeEntries fuel (depth - 1) true [] input) := by
    rw [readTree, skipBlanks_cons rfl]
    simp only [descend_of_lt (show 1 < depth by omega)]
    rfl
  cases entries with
  | nil =>
    obtain ⟨fuel, rfl⟩ := Nat.exists_eq_add_one_of_ne_zero (show fuel ≠ 0 by
      rw [List.map_nil, ofText_object_nil] at enough
      simp only [List.length_cons, List.length_nil] at enough
      omega)
    rw [List.map_nil, ofText_object_nil]
    show readTree _ depth (Octet.openBrace :: Octet.closeBrace :: rest) = _
    rw [opens, readTreeEntries_end]
    rfl
  | cons entry others =>
    have next := nextKey?_first entry.key (Octet.colon :: (Octets.ofText entry.written ++
      (laterEntries (others.map TreeEntry.pair) ++ Octet.closeBrace :: rest)))
    have parts : Octets.ofText (object ((entry :: others).map TreeEntry.pair)) =
        Octet.openBrace :: (Octets.ofText (quote entry.key) ++ Octet.colon ::
          (Octets.ofText entry.written ++
            (laterEntries (others.map TreeEntry.pair) ++ [Octet.closeBrace]))) := by
      rw [List.map_cons, ofText_object_cons, entryOctets]
      simp only [List.cons_append, List.append_assoc]
      rfl
    rw [parts] at enough ⊢
    simp only [List.length_cons, List.length_append, List.length_nil] at enough
    have whole : Octet.openBrace :: (Octets.ofText (quote entry.key) ++ Octet.colon ::
          (Octets.ofText entry.written ++
            (laterEntries (others.map TreeEntry.pair) ++ [Octet.closeBrace]))) ++ rest =
        Octet.openBrace :: (Octets.ofText (quote entry.key) ++ Octet.colon ::
          (Octets.ofText entry.written ++
            (laterEntries (others.map TreeEntry.pair) ++ Octet.closeBrace :: rest))) := by
      simp only [List.cons_append, List.append_assoc, List.nil_append]
    obtain ⟨fuel, rfl⟩ := Nat.exists_eq_add_one_of_ne_zero (show fuel ≠ 0 by omega)
    rw [whole, opens, readTreeEntries_step (each entry List.mem_cons_self) (by omega) inner
      (Shape.ends_laterEntries (others.map TreeEntry.pair) rest) next,
      readTreeEntries_later (fun other member => each other (List.mem_cons_of_mem _ member)) inner
        (by omega)]
    rfl

/-! ### Lists -/

/-- An item of a list: what is written, and the tree that it is read as. -/
structure TreeItem where
  written : String
  tree : Tree

variable {item : TreeItem} {items : List TreeItem} {before : List Tree} {index : Nat}

theorem ends_laterItems (written : List String) (rest : Octets) :
    Ends (laterItems written ++ Octet.closeBracket :: rest) := by
  cases written with
  | nil => exact ends_cons (.inr (.inl rfl))
  | cons first others => exact ends_cons (.inl rfl)

theorem readTreeItems_step (writes : Writes level item.written item.tree)
    (enough : (Octets.ofText item.written).length < fuel) (room : level < depth)
    (ends : Ends rest) {input : Octets}
    (next : nextItem? (index == 0) input = .ok (some (Octets.ofText item.written ++ rest))) :
    readTreeItems (fuel + 1) depth index before input =
      readTreeItems fuel depth (index + 1) (item.tree :: before) rest := by
  rw [readTreeItems, next]
  dsimp only
  rw [writes fuel depth rest enough room ends]

theorem readTreeItems_end :
    readTreeItems (fuel + 1) depth index before (Octet.closeBracket :: rest) =
      .ok (.list before.reverse, Octet.closeBracket :: rest) := by
  rw [readTreeItems, nextItem?_end]

theorem readTreeItems_later (each : ∀ item ∈ items, Writes level item.written item.tree)
    (begin : ∀ item ∈ items, Begins item.written) (room : level < depth)
    (enough : (laterItems (items.map TreeItem.written)).length < fuel) :
    readTreeItems fuel depth (index + 1) before
        (laterItems (items.map TreeItem.written) ++ Octet.closeBracket :: rest) =
      .ok (.list (before.reverse ++ items.map TreeItem.tree), Octet.closeBracket :: rest) := by
  obtain ⟨fuel, rfl⟩ := Nat.exists_eq_add_one_of_ne_zero (Nat.ne_zero_of_lt enough)
  induction items generalizing before index fuel with
  | nil =>
    rw [List.map_nil, List.map_nil, List.append_nil]
    exact readTreeItems_end
  | cons item others inductionHypothesis =>
    obtain ⟨first, octets, parts, graphic, -, item_begins⟩ := begin item List.mem_cons_self
    have whole : laterItems ((item :: others).map TreeItem.written) ++ Octet.closeBracket :: rest =
        Octet.comma :: (Octets.ofText item.written ++
          (laterItems (others.map TreeItem.written) ++ Octet.closeBracket :: rest)) := by
      rw [List.map_cons, laterItems, List.flatMap_cons, List.append_assoc, List.cons_append]
      rfl
    have next : nextItem? (index + 1 == 0) (Octet.comma :: (Octets.ofText item.written ++
        (laterItems (others.map TreeItem.written) ++ Octet.closeBracket :: rest))) =
        .ok (some (Octets.ofText item.written ++
          (laterItems (others.map TreeItem.written) ++ Octet.closeBracket :: rest))) := by
      rw [parts]
      exact nextItem?_later graphic item_begins _
    rw [List.map_cons, laterItems, List.flatMap_cons, List.length_append, List.length_cons]
      at enough
    have less : (laterItems (others.map TreeItem.written)).length < fuel := by
      rw [laterItems]
      omega
    rw [whole, readTreeItems_step (each item List.mem_cons_self) (by omega) room
      (ends_laterItems (others.map TreeItem.written) rest) next]
    obtain ⟨fuel, rfl⟩ := Nat.exists_eq_add_one_of_ne_zero (Nat.ne_zero_of_lt less)
    rw [inductionHypothesis (fun other member => each other (List.mem_cons_of_mem _ member))
      (fun other member => begin other (List.mem_cons_of_mem _ member)) fuel less,
      List.reverse_cons, List.append_assoc]
    rfl

/-- A tree is read from the list of its items. -/
theorem array_writes (each : ∀ item ∈ items, Writes level item.written item.tree)
    (begin : ∀ item ∈ items, Begins item.written) :
    Writes (level + 1) (array (items.map TreeItem.written)) (.list (items.map TreeItem.tree)) := by
  intro fuel depth rest enough room _
  have inner : level < depth - 1 := by omega
  obtain ⟨fuel, rfl⟩ := Nat.exists_eq_add_one_of_ne_zero (Nat.ne_zero_of_lt enough)
  have opens (input : Octets) : readTree (fuel + 1) depth (Octet.openBracket :: input) =
      closeList (readTreeItems fuel (depth - 1) 0 [] input) := by
    rw [readTree, skipBlanks_cons rfl]
    simp only [descend_of_lt (show 1 < depth by omega)]
    rfl
  cases items with
  | nil =>
    obtain ⟨fuel, rfl⟩ := Nat.exists_eq_add_one_of_ne_zero (show fuel ≠ 0 by
      rw [List.map_nil, ofText_array_nil] at enough
      simp only [List.length_cons, List.length_nil] at enough
      omega)
    rw [List.map_nil, ofText_array_nil]
    show readTree _ depth (Octet.openBracket :: Octet.closeBracket :: rest) = _
    rw [opens, readTreeItems_end]
    rfl
  | cons item others =>
    obtain ⟨first, octets, parts, graphic, -, item_begins⟩ := begin item List.mem_cons_self
    have next : nextItem? (0 == 0) (Octets.ofText item.written ++
        (laterItems (others.map TreeItem.written) ++ Octet.closeBracket :: rest)) =
        .ok (some (Octets.ofText item.written ++
          (laterItems (others.map TreeItem.written) ++ Octet.closeBracket :: rest))) := by
      rw [parts]
      exact nextItem?_first graphic item_begins _
    rw [List.map_cons, ofText_array_cons] at enough ⊢
    simp only [List.length_cons, List.length_append, List.length_nil] at enough
    have whole : Octet.openBracket :: (Octets.ofText item.written ++
          (laterItems (others.map TreeItem.written) ++ [Octet.closeBracket])) ++ rest =
        Octet.openBracket :: (Octets.ofText item.written ++
          (laterItems (others.map TreeItem.written) ++ Octet.closeBracket :: rest)) := by
      simp only [List.cons_append, List.append_assoc, List.nil_append]
    obtain ⟨fuel, rfl⟩ := Nat.exists_eq_add_one_of_ne_zero (show fuel ≠ 0 by omega)
    rw [whole, opens, readTreeItems_step (each item List.mem_cons_self) (by omega) inner
      (ends_laterItems (others.map TreeItem.written) rest) next,
      readTreeItems_later (fun other member => each other (List.mem_cons_of_mem _ member))
        (fun other member => begin other (List.mem_cons_of_mem _ member)) inner (by omega)]
    rfl

end Json

end LatencyService
