/-
What a text tells of a record. It gives values to the fields, as a table under
their keys or as a list in their order, and each value is a stretch of the text
on its own. If the record is read at all, every value that the text gives to a
field is taken by the field, and what the record shows of the field is that
value; where no value is given, it shows what it began with.
-/

import LatencyService.Proofs.Lenience

namespace LatencyService

namespace Json

/-! ### Values that stand on their own -/

/-- The text is a value with nothing around it. -/
structure Exact (value : Octets) : Prop where
  whole : skipValue value = .ok []
  graphic : skipBlanks value = value

theorem skipValue_skipBlanks {input rest : Octets} (skipped : skipValue input = .ok rest) :
    skipValue (skipBlanks input) = .ok rest := by
  have same := (skipOpen_skipBlanks _ [] input).2 skipped
  rcases passes_skipOpen _ (by nofun) same with ⟨other, -⟩ | passes
  · cases other
  · exact passes.skipValue

theorem Spans.exact {value : Octets} (spans : Spans value) : Exact (skipBlanks value) := by
  have alone := spans [] stops_nil
  rw [List.append_nil] at alone
  exact ⟨skipValue_skipBlanks alone, skipBlanks_skipBlanks value⟩

theorem Body.spans {isFirst : Bool} {entries : List (String × Octets)} {used : Octets}
    (body : Body isFirst entries used) : ∀ entry ∈ entries, Spans entry.2 := by
  induction body with
  | done => exact List.forall_mem_nil _
  | entry named spans later inductionHypothesis =>
    exact List.forall_mem_cons.2 ⟨spans, inductionHypothesis⟩

theorem exact_of_entries? {text : Octets} {entries : List (String × Octets)}
    (there : entries? text = some entries) : ∀ entry ∈ entries, Exact entry.2 := by
  unfold entries? at there
  split at there
  · obtain ⟨members, listed, rfl⟩ := Option.map_eq_some_iff.1 there
    obtain ⟨used, rest, behind, body, -⟩ := Shape.exists_body_of_members? listed
    intro entry member
    obtain ⟨⟨key, value⟩, among, rfl⟩ := List.mem_map.1 member
    exact (body.spans _ (List.mem_map_of_mem among)).exact
  · cases there

/-- An item begins with no blank. -/
theorem Items.exact {isFirst : Bool} {values : List Octets} {used : Octets}
    (items : Items isFirst values used) : ∀ value ∈ values, Exact value := by
  induction items with
  | done => exact List.forall_mem_nil _
  | @item isFirst gap value used values stands spans later inductionHypothesis =>
    refine List.forall_mem_cons.2 ⟨?_, inductionHypothesis⟩
    have graphic : skipBlanks value = value := by
      have next := stands []
      rw [List.append_nil] at next
      rcases nextItem?_some next with ⟨-, octet, left, rfl, at_octet, -⟩ | ⟨-, left, -, at_value⟩
      · exact skipBlanks_cons (isBlank_of_skipBlanks at_octet) left
      · rw [← at_value, skipBlanks_skipBlanks]
    exact graphic ▸ spans.exact

theorem exact_of_items? {text : Octets} {values : List Octets}
    (there : items? text = some values) : ∀ value ∈ values, Exact value := by
  unfold items? at there
  split at there
  · split at there
    · obtain ⟨used, rest, -, items, -⟩ := exists_items there
      exact items.exact
    · cases there
  · cases there

/-- The text gives values to keys: as a table, or as a list to the first of all keys. -/
def Tells (keys : List String) (text : Octets) (entries : List (String × Octets)) : Prop :=
  entries? text = some entries ∨ ∃ values, items? text = some values ∧ entries = keys.zip values

theorem Tells.exact {keys : List String} {text : Octets} {entries : List (String × Octets)}
    (tells : Tells keys text entries) : ∀ entry ∈ entries, Exact entry.2 := by
  rcases tells with there | ⟨values, there, rfl⟩
  · exact exact_of_entries? there
  · rintro ⟨key, value⟩ member
    exact exact_of_items? there value (List.of_mem_zip member).2

end Json

namespace Shape

open Json (Exact nullText skipBlanks)

section Alone

variable {Value : Type} {shape : Shape Value} {depth : Nat} {text : Octets}

/-- A value that fills a text on its own leaves nothing. -/
theorem read_of_exact (measured : shape.Measured) (exact : Exact text) {value : Value}
    (held : shape.value? depth text = some value) : shape.read depth text = .ok (value, []) := by
  obtain ⟨rest, read, -⟩ := value?_eq_some_iff.1 held
  have skipped := measured.skipValue read
  obtain rfl : rest = [] := Except.ok.inj (skipped.symm.trans exact.whole)
  exact read

/-- What may be null is read from null, or it is the value that is there. -/
theorem optional_value?_cases (steady : shape.Steady) (exact : Exact text) {result : Option Value}
    (held : shape.optional.value? depth text = some result) :
    text = nullText ∧ result = none ∨
      ∃ value, result = some value ∧ shape.value? depth text = some value := by
  cases at_octet : skipBlanks text with
  | nil =>
    have nothing := exact.whole
    rw [← exact.graphic, at_octet] at nothing
    cases nothing
  | cons octet left =>
    by_cases letter : octet = Octet.smallN
    · subst letter
      have read := read_of_exact steady.measured.optional exact held
      rw [optional_of_letter at_octet] at read
      split at read
      · rename_i word
        cases read
        refine .inl ⟨?_, rfl⟩
        rw [← exact.graphic, at_octet, Json.readWord_iff.1 word, List.append_nil, nullText]
      · cases read
    · rw [optional_value?_of_other steady at_octet letter] at held
      obtain ⟨value, known, rfl⟩ := Option.map_eq_some_iff.1 held
      exact .inr ⟨value, rfl, known⟩

end Alone

variable {Record Value : Type} {fields : List (Field Record)} {start record result : Record}
  {depth : Nat} {text : Octets} {key name : String} {entries : List (String × Octets)}

/-! ### Whatever is read tells something -/

/-- A list from which fields are read has items, and no more of them than there are fields. -/
theorem exists_items_of_positions (steady : ∀ field ∈ fields, field.shape.Steady) {all index : Nat}
    {input rest behind : Octets}
    (read : readPositions name all depth fields index record input = .ok (result, rest))
    (closes : skipBlanks rest = Octet.closeBracket :: behind) {fuel : Nat}
    (enough : input.length < fuel) :
    ∃ values, Json.itemsFrom? fuel (index == 0) input = some values ∧
      values.length ≤ fields.length := by
  induction fields generalizing index record input fuel with
  | nil =>
    cases read
    obtain ⟨fuel, rfl⟩ := Nat.exists_eq_succ_of_ne_zero (Nat.ne_of_gt (Nat.zero_lt_of_lt enough))
    exact ⟨[], Json.itemsFrom?_end (Json.nextItem?_of_bracket _ closes), Nat.le_refl _⟩
  | cons field later inductionHypothesis =>
    have others (other : Field Record) (among : other ∈ later) : other.shape.Steady :=
      steady other (List.mem_cons_of_mem _ among)
    obtain ⟨fuel, rfl⟩ := Nat.exists_eq_succ_of_ne_zero (Nat.ne_of_gt (Nat.zero_lt_of_lt enough))
    rw [readPositions] at read
    split at read
    · cases read
    · rename_i ends
      exact ⟨[], Json.itemsFrom?_end ends, Nat.zero_le _⟩
    · rename_i item next
      split at read
      · cases read
      · rename_i change left value
        have skipped := (steady field List.mem_cons_self).measured.skipValue value
        have shorter := Json.length_of_item next skipped
        obtain ⟨values, more, few⟩ :=
          inductionHypothesis others read (Nat.lt_of_lt_of_le shorter (Nat.le_of_lt_succ enough))
        exact ⟨_, Json.itemsFrom?_item next skipped more, Nat.succ_le_succ few⟩

theorem isWhole_of_value? (steady : (Shape.record name fields start).Steady)
    (held : (Shape.record name fields start).value? depth text = some result) :
    Json.isWhole text = true := by
  obtain ⟨rest, read, nothing⟩ := value?_eq_some_iff.1 held
  rw [Json.isWhole, steady.measured.skipValue read]
  exact List.isEmpty_iff.2 nothing

/-- A text from which a record is read is a table, or a list with no more items than the record has
fields. -/
theorem tells_of_value? (steady : ∀ field ∈ fields, field.shape.Steady)
    (held : (Shape.record name fields start).value? depth text = some result) :
    (∃ entries, Json.entries? text = some entries) ∨
      ∃ values, Json.items? text = some values ∧ values.length ≤ fields.length := by
  have whole := isWhole_of_value? (record_steady name start steady) held
  obtain ⟨rest, read, -⟩ := value?_eq_some_iff.1 held
  obtain ⟨-, ⟨left, at_bracket, closed⟩ | ⟨left, at_brace, closed⟩⟩ := record_read_cases read
  · obtain ⟨after, positions, closes⟩ := Json.exists_of_closeList closed
    obtain ⟨values, listed, few⟩ :=
      exists_items_of_positions steady positions closes (Nat.lt_succ_self _)
    refine .inr ⟨values, ?_, few⟩
    rw [Json.items?, at_bracket]
    exact (if_pos whole).trans listed
  · obtain ⟨after, entries, -⟩ := Json.exists_of_closeTable closed
    have measured (field : Field Record) (member : field ∈ fields) : field.shape.Measured :=
      (steady field member).measured
    obtain ⟨members, listed, -⟩ := takes_of_readEntries measured entries
    rw [Json.entries?, if_pos whole, Json.members?_of_brace at_brace, listed]
    exact .inl ⟨_, rfl⟩

theorem few_of_value? (steady : ∀ field ∈ fields, field.shape.Steady)
    (held : (Shape.record name fields start).value? depth text = some result)
    {values : List Octets} (there : Json.items? text = some values) :
    values.length ≤ fields.length := by
  rcases tells_of_value? steady held with ⟨entries, table⟩ | ⟨others, same, few⟩
  · obtain ⟨left, at_brace⟩ := Json.brace_of_entries? table
    obtain ⟨other, at_bracket⟩ := Json.bracket_of_items? there
    cases at_brace.symm.trans at_bracket
  · exact Option.some.inj (same.symm.trans there) ▸ few

theorem exists_tells (keys : List String) (steady : ∀ field ∈ fields, field.shape.Steady)
    (held : (Shape.record name fields start).value? depth text = some result) :
    ∃ entries, Json.Tells keys text entries := by
  rcases tells_of_value? steady held with ⟨entries, table⟩ | ⟨values, list, -⟩
  · exact ⟨entries, .inl table⟩
  · exact ⟨_, .inr ⟨values, list, rfl⟩⟩

/-! ### What is taken in -/

/-- A record is what it becomes by the values that its text gives. -/
theorem made?_of_tells (lenient : LenientFields fields start) (deep : 1 < depth)
    (tells : Json.Tells (fields.map Field.key) text entries)
    (held : (Shape.record name fields start).value? depth text = some result) :
    (knownKeys fields entries).Nodup ∧ made? fields (depth - 1) entries start = some result := by
  rcases tells with there | ⟨values, there, rfl⟩
  · rw [value?_of_entries name lenient.steady start deep there, takes?_eq lenient.free] at held
    split at held
    · rename_i fresh
      exact ⟨fresh.1, held⟩
    · cases held
  · have once := (zip_sublist (fields.map Field.key) values).nodup lenient.distinct
    have few := few_of_value? lenient.steady held there
    rw [value?_of_items name lenient.steady start deep there few,
      takesInOrder?_eq lenient (fun _ => id)] at held
    split at held
    · exact ⟨once.filter _, held⟩
    · cases held

/-- What a record shows of a field is the value that is given to the field. -/
theorem look_of_made? {look : Record → Value} {own : Shape Value} {absence : Absence}
    {set : Value → Record → Record}
    (found : fieldOf? fields key = some (.of key absence own set))
    (shown : ∀ value record, look (set value record) = value)
    (spared : ∀ other ∈ fields, other.key ≠ key → ∀ change, Makes other change →
      ∀ record, look (change record) = look record)
    (once : (knownKeys fields entries).Nodup)
    (made : made? fields depth entries record = some result) :
    (key ∉ entries.map Prod.fst → look result = look record) ∧
      ∀ value, (key, value) ∈ entries → own.value? depth value = some (look result) := by
  induction entries generalizing record with
  | nil =>
    cases made
    exact ⟨fun _ => rfl, fun _ => nofun⟩
  | cons entry entries inductionHypothesis =>
    obtain ⟨other, text⟩ := entry
    have later (value : Octets) (member : (key, value) ∈ (other, text) :: entries)
        (apart : other ≠ key) : (key, value) ∈ entries :=
      (List.mem_cons.1 member).resolve_left fun same => apart (congrArg Prod.fst same).symm
    cases also : fieldOf? fields other with
    | none =>
      have apart : other ≠ key := by
        rintro rfl
        cases found.symm.trans also
      rw [made?_cons_of_none also] at made
      rw [knownKeys_cons_of_none also] at once
      obtain ⟨kept, given⟩ := inductionHypothesis once made
      exact ⟨fun never => kept fun member => never (List.mem_cons_of_mem _ member),
        fun value member => given value (later value member apart)⟩
    | some first =>
      rw [made?_cons_of_some also] at made
      rw [knownKeys_cons_of_some also] at once
      obtain ⟨fresh, once⟩ := List.nodup_cons.1 once
      obtain ⟨change, taken, made⟩ := Option.bind_eq_some_iff.1 made
      obtain ⟨kept, given⟩ := inductionHypothesis once made
      by_cases same : other = key
      · subst same
        obtain rfl := Option.some.inj (also.symm.trans found)
        rw [Field.of, value?_map] at taken
        obtain ⟨value, own_taken, rfl⟩ := Option.map_eq_some_iff.1 taken
        -- The key is known, so that it does not come again.
        have gone : other ∉ entries.map Prod.fst := fun member =>
          fresh (List.mem_filter.2 ⟨member, by simp [also]⟩)
        refine ⟨fun never => absurd List.mem_cons_self never, fun other_value member => ?_⟩
        rcases List.mem_cons.1 member with same | again
        · cases same
          rw [own_taken, kept gone, shown]
        · exact absurd (List.mem_map_of_mem again) gone
      · obtain ⟨member, named⟩ := fieldOf?_some also
        have spared := spared first member (named ▸ same) change ⟨depth, text, taken⟩ record
        exact ⟨fun never => (kept fun there => never (List.mem_cons_of_mem _ there)).trans spared,
          fun value member => given value (later value member same)⟩

end Shape

end LatencyService
