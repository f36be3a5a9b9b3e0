/-
Records that are taken from trees. A tree writes the parts of a record under
their keys, or in their order where it is a list; whether a record is taken from
it is decided by these parts one by one, and each of them by what the field
makes of it. What a record shows of one part is what is written for that part,
or what the record starts out with.
-/

import LatencyService.Schema.Record
import Mathlib.Data.List.Basic

namespace LatencyService

/-! ### What a tree writes for a record -/

namespace Tree

/-- What a tree writes for one part of a record: in a table it stands under the key of the part, and
in a list at its place among all keys. -/
def part? (keys : List String) (key : String) : Tree → Option Tree
  | table entries => find? key entries
  | list items => items[keys.idxOf key]?
  | _ => none

/-- A tree can write a record with certain keys: it is a table in which none of them comes twice, a
list, or a date, which counts as a table without any of them. -/
inductive WritesRecord (keys : List String) : Tree → Prop where
  | table {entries : List (String × Tree)}
      (once : ∀ key ∈ keys, (entries.map Prod.fst).count key ≤ 1) :
      WritesRecord keys (.table entries)
  | list {items : List Tree} : WritesRecord keys (.list items)
  | moment {text : String} : WritesRecord keys (.moment text)

theorem find?_cons (key other : String) (value : Tree) (entries : List (String × Tree)) :
    find? key ((other, value) :: entries) =
      if other = key then some value else find? key entries := by
  by_cases same : other = key
  · simp [find?, same]
  · simp [find?, same]

/-- What never comes is not found. -/
theorem find?_of_count_eq_zero {key : String} {entries : List (String × Tree)}
    (never : (entries.map Prod.fst).count key = 0) : find? key entries = none := by
  refine Option.map_eq_none_iff.2 (List.find?_eq_none.2 fun entry member same => ?_)
  refine List.count_eq_zero.1 never (List.mem_map.2 ⟨entry, member, beq_iff_eq.1 same⟩)

end Tree

/-! ### What a field does to a record -/

namespace Shape

variable {First Second : Type} {dialect : Dialect} {tree : Tree}

theorem ofTree_map {change : First → Second} {shape : Shape First} {result : Second}
    (taken : (shape.map change).ofTree dialect tree = .ok result) :
    ∃ value, shape.ofTree dialect tree = .ok value ∧ result = change value := by
  simp only [map] at taken
  split at taken
  · rename_i value known
    cases taken
    exact ⟨value, known, rfl⟩
  · cases taken

theorem isOk_map (change : First → Second) (shape : Shape First) :
    ((shape.map change).ofTree dialect tree).isOk = (shape.ofTree dialect tree).isOk := by
  simp only [map]
  split
  · rename_i value known
    rw [known]
    rfl
  · rename_i misplaced known
    rw [known]
    rfl

end Shape

namespace Field

variable {Record Value Other : Type} {field : Field Record} {shape : Shape Value}
  {look : Record → Value}

/-- What a record shows is the value of a field, if the field is written. -/
def Sets (field : Field Record) (shape : Shape Value) (look : Record → Value) : Prop :=
  ∀ dialect tree change, field.shape.ofTree dialect tree = .ok change →
    ∃ value, shape.ofTree dialect tree = .ok value ∧ ∀ record, look (change record) = value

/-- A field has no part in what a record shows. -/
def Spares (field : Field Record) (look : Record → Value) : Prop :=
  ∀ dialect tree change, field.shape.ofTree dialect tree = .ok change →
    ∀ record, look (change record) = look record

theorem sets_of {key : String} {absence : Absence} {set : Value → Record → Record}
    (shown : ∀ value record, look (set value record) = value) :
    (Field.of key absence shape set).Sets shape look := by
  intro dialect tree change taken
  obtain ⟨value, known, rfl⟩ := Shape.ofTree_map taken
  exact ⟨value, known, shown value⟩

theorem spares_of {key : String} {absence : Absence} {other : Shape Other}
    {set : Other → Record → Record}
    (kept : ∀ value record, look (set value record) = look record) :
    (Field.of key absence other set).Spares look := by
  intro dialect tree change taken
  obtain ⟨value, -, rfl⟩ := Shape.ofTree_map taken
  exact kept value

end Field

namespace Shape

variable {Record Value : Type} {fields : List (Field Record)} {field : Field Record}
  {dialect : Dialect} {look : Record → Value} {own : Shape Value}

/-- A field is found by its key, unless another one has the same key. -/
theorem fieldOf?_of_mem (distinct : (fields.map Field.key).Nodup) (member : field ∈ fields) :
    fieldOf? fields field.key = some field := by
  induction fields with
  | nil => cases member
  | cons first rest inductionHypothesis =>
    obtain ⟨apart, distinct⟩ := List.nodup_cons.1 distinct
    rcases List.mem_cons.1 member with rfl | later
    · exact List.find?_cons_of_pos (beq_self_eq_true _)
    · have other : first.key ≠ field.key := fun same =>
        apart (same ▸ List.mem_map_of_mem later)
      exact (List.find?_cons_of_neg (by simpa using other)).trans
        (inductionHypothesis distinct later)

/-- A key under which nothing is found is that of no field. -/
theorem ne_of_fieldOf?_none (distinct : (fields.map Field.key).Nodup) (member : field ∈ fields)
    {key : String} (unknown : fieldOf? fields key = none) : key ≠ field.key := by
  rintro rfl
  cases unknown.symm.trans (fieldOf?_of_mem distinct member)

/-- Fields are told apart by their keys. -/
theorem eq_of_key (distinct : (fields.map Field.key).Nodup) {first : Field Record}
    (known : first ∈ fields) (member : field ∈ fields) (same : first.key = field.key) :
    first = field :=
  Option.some.inj ((fieldOf?_of_mem distinct known).symm.trans
    (same ▸ fieldOf?_of_mem distinct member))

/-- What is taken from a part that may be missing. -/
def taken? (shape : Shape Value) (dialect : Dialect) (part? : Option Tree) : Option Value :=
  part?.bind fun part => (shape.ofTree dialect part).toOption

theorem taken?_of_ok {part : Tree} {value : Value} (taken : own.ofTree dialect part = .ok value) :
    own.taken? dialect (some part) = some value := by
  rw [taken?, Option.bind_some, taken]
  rfl

/-! ### Tables -/

/-- Nothing is missing of a record with parts that may all be missing. -/
theorem missing?_of_optional (optional : ∀ field ∈ fields, field.absence = .anywhere)
    (seen : List String) : missing? fields seen = none :=
  missing?_eq_none fun field member refused => by
    rw [optional field member] at refused
    cases refused

/-- What a record shows of a part behind the entries of a table. -/
theorem look_of_takeEntries (distinct : (fields.map Field.key).Nodup) (member : field ∈ fields)
    (sets : field.Sets own look)
    (spares : ∀ other ∈ fields, other.key ≠ field.key → other.Spares look)
    {entries : List (String × Tree)} {seen : List String} {record result : Record}
    (takes : takeEntries fields dialect entries seen record = .ok result) :
    (field.key ∈ seen → look result = look record) ∧
      (field.key ∉ seen → look result =
        (own.taken? dialect (Tree.find? field.key entries)).getD (look record)) := by
  induction entries generalizing seen record with
  | nil =>
    rw [takeEntries] at takes
    split at takes
    · cases takes
    · cases takes
      exact ⟨fun _ => rfl, fun _ => rfl⟩
  | cons entry rest inductionHypothesis =>
    obtain ⟨key, value⟩ := entry
    rw [takeEntries] at takes
    rw [Tree.find?_cons]
    split at takes
    · rename_i unknown
      rw [if_neg (ne_of_fieldOf?_none distinct member unknown)]
      exact inductionHypothesis takes
    · rename_i first found
      split at takes
      · cases takes
      · rename_i fresh
        split at takes
        · cases takes
        · rename_i change taken
          obtain ⟨known, rfl⟩ := fieldOf?_some found
          have behind := inductionHypothesis takes
          by_cases same : first.key = field.key
          · obtain rfl := eq_of_key distinct known member same
            obtain ⟨shown, own_taken, shows⟩ := sets dialect value change taken
            refine ⟨fun seen_before => absurd (List.contains_iff_mem.2 seen_before) fresh,
              fun _ => ?_⟩
            rw [if_pos rfl, taken?_of_ok own_taken, behind.1 List.mem_cons_self, shows]
            rfl
          · have kept := spares first known same dialect value change taken record
            rw [if_neg same, ← kept]
            refine ⟨fun before => behind.1 (List.mem_cons_of_mem _ before), fun never => ?_⟩
            refine behind.2 fun now => ?_
            rcases List.mem_cons.1 now with equal | before
            · exact same equal.symm
            · exact never before

/-- A record is taken from the entries of a table if none of its keys comes again, and if every
field takes what is written for it. -/
theorem isOk_takeEntries (distinct : (fields.map Field.key).Nodup)
    (optional : ∀ field ∈ fields, field.absence = .anywhere) (entries : List (String × Tree))
    (seen : List String) (record : Record) :
    (takeEntries fields dialect entries seen record).isOk = true ↔
      ∀ field ∈ fields,
        (entries.map Prod.fst).count field.key + (if field.key ∈ seen then 1 else 0) ≤ 1 ∧
        ∀ part, Tree.find? field.key entries = some part →
          (field.shape.ofTree dialect part).isOk = true := by
  induction entries generalizing seen record with
  | nil =>
    rw [takeEntries, missing?_of_optional optional]
    refine iff_of_true rfl fun field _ => ⟨?_, fun part found => by cases found⟩
    split <;> simp
  | cons entry rest inductionHypothesis =>
    obtain ⟨key, value⟩ := entry
    rw [takeEntries]
    have step (field : Field Record) : (((key, value) :: rest).map Prod.fst).count field.key =
        (rest.map Prod.fst).count field.key + if key = field.key then 1 else 0 := by
      rw [List.map_cons, List.count_cons]
      simp only [beq_iff_eq]
    simp only [step, Tree.find?_cons]
    split
    · rename_i unknown
      refine (inductionHypothesis seen record).trans (forall₂_congr fun field member => ?_)
      have other := ne_of_fieldOf?_none distinct member unknown
      rw [if_neg other, if_neg other, Nat.add_zero]
    · rename_i first found
      obtain ⟨known, rfl⟩ := fieldOf?_some found
      split
      · rename_i again
        refine iff_of_false (by simp [Except.isOk, Except.toBool]) fun fits => ?_
        have once := (fits first known).1
        rw [if_pos rfl, if_pos (List.contains_iff_mem.1 again)] at once
        omega
      · rename_i fresh
        have new : first.key ∉ seen := fun before => fresh (List.contains_iff_mem.2 before)
        split
        · rename_i misplaced refused
          refine iff_of_false (by simp [Except.isOk, Except.toBool]) fun fits => ?_
          have taken := (fits first known).2 value (if_pos rfl)
          rw [refused] at taken
          cases taken
        · rename_i change taken
          refine (inductionHypothesis (first.key :: seen) (change record)).trans
            (forall₂_congr fun field member => ?_)
          by_cases same : first.key = field.key
          · obtain rfl := eq_of_key distinct known member same
            rw [if_pos rfl, if_pos rfl, if_pos List.mem_cons_self, if_neg new, Nat.add_zero]
            refine and_congr_right fun once => ?_
            rw [Tree.find?_of_count_eq_zero (by omega)]
            refine iff_of_true (fun part found => by cases found) ?_
            rintro part ⟨⟩
            rw [taken]
            rfl
          · have apart : (field.key ∈ first.key :: seen) ↔ field.key ∈ seen :=
              ⟨fun now => (List.mem_cons.1 now).resolve_left fun equal => same equal.symm,
                List.mem_cons_of_mem _⟩
            simp only [if_neg same, apart, Nat.add_zero]

/-- What was seen before matters for the keys that are still to come alone. -/
theorem takeEntries_congr (optional : ∀ field ∈ fields, field.absence = .anywhere)
    {entries : List (String × Tree)} {seen other : List String} (record : Record)
    (alike : ∀ entry ∈ entries, entry.1 ∈ seen ↔ entry.1 ∈ other) :
    takeEntries fields dialect entries seen record =
      takeEntries fields dialect entries other record := by
  induction entries generalizing seen other record with
  | nil =>
    rw [takeEntries, takeEntries, missing?_of_optional optional, missing?_of_optional optional]
  | cons entry rest inductionHypothesis =>
    obtain ⟨key, value⟩ := entry
    obtain ⟨front, behind⟩ := List.forall_mem_cons.1 alike
    have same : seen.contains key = other.contains key := by
      rw [Bool.eq_iff_iff, List.contains_iff_mem, List.contains_iff_mem]
      exact front
    have further (entry : String × Tree) (member : entry ∈ rest) :
        entry.1 ∈ key :: seen ↔ entry.1 ∈ key :: other := by
      rw [List.mem_cons, List.mem_cons, behind entry member]
    rw [takeEntries, takeEntries, same]
    split
    · exact inductionHypothesis record behind
    · split
      · rfl
      · split
        · rfl
        · exact inductionHypothesis _ further

/-- An entry whose value changes nothing can be left out of a table that has its key only once. -/
theorem takeEntries_idle (distinct : (fields.map Field.key).Nodup)
    (optional : ∀ field ∈ fields, field.absence = .anywhere) (member : field ∈ fields)
    (spares : ∀ other ∈ fields, other.key ≠ field.key → other.Spares look) {value : Tree}
    {change : Record → Record} (taken : field.shape.ofTree dialect value = .ok change)
    {own : Value} (idle : ∀ record, look record = own → change record = record)
    {before after : List (String × Tree)} (apart : ∀ entry ∈ before ++ after, entry.1 ≠ field.key)
    {seen : List String} (fresh : field.key ∉ seen) {record : Record} (shown : look record = own) :
    takeEntries fields dialect (before ++ (field.key, value) :: after) seen record =
      takeEntries fields dialect (before ++ after) seen record := by
  induction before generalizing seen record with
  | nil =>
    have found := fieldOf?_of_mem distinct member
    have unseen : seen.contains field.key = false := by simpa using fresh
    simp only [List.nil_append, takeEntries, found, unseen, taken, Bool.false_eq_true, if_false,
      idle record shown]
    refine takeEntries_congr optional record fun entry behind => ?_
    rw [List.mem_cons]
    exact or_iff_right (apart entry behind)
  | cons entry before inductionHypothesis =>
    obtain ⟨key, part⟩ := entry
    obtain ⟨different, others⟩ := List.forall_mem_cons.1 apart
    rw [List.cons_append, List.cons_append, takeEntries, takeEntries]
    split
    · exact inductionHypothesis others fresh shown
    · rename_i other found
      split
      · rfl
      · split
        · rfl
        · rename_i other_change other_taken
          obtain ⟨known, rfl⟩ := fieldOf?_some found
          have kept := spares other known different dialect part other_change other_taken record
          refine inductionHypothesis others (fun again => ?_) (kept.trans shown)
          exact (List.mem_cons.1 again).elim (fun same => different same.symm) fresh

/-! ### Lists -/

/-- A field stands one place further behind another one. -/
theorem idxOf_later {first : Field Record} {later : List (Field Record)}
    (apart : first.key ∉ later.map Field.key) (behind : field ∈ later) :
    ((first :: later).map Field.key).idxOf field.key =
      (later.map Field.key).idxOf field.key + 1 := by
  rw [List.map_cons]
  exact List.idxOf_cons_ne _ fun same => apart (same ▸ List.mem_map_of_mem behind)

/-- Fields that have no part in what a record shows leave it alone. -/
theorem spared_takePositions (spares : ∀ other ∈ fields, other.Spares look) {name : String}
    {all index : Nat} {record result : Record} {items left : List Tree}
    (takes : takePositions name all dialect fields index record items = .ok (result, left)) :
    look result = look record := by
  induction fields generalizing index record items with
  | nil =>
    cases takes
    rfl
  | cons first later inductionHypothesis =>
    have others (other : Field Record) (member : other ∈ later) : other.Spares look :=
      spares other (List.mem_cons_of_mem _ member)
    cases items with
    | nil =>
      rw [takePositions] at takes
      split at takes
      · exact inductionHypothesis others takes
      · cases takes
    | cons item items =>
      rw [takePositions] at takes
      split at takes
      · cases takes
      · rename_i change taken
        exact (inductionHypothesis others takes).trans
          (spares first List.mem_cons_self dialect item change taken record)

/-- What a record shows of a part behind the items of a list. -/
theorem look_of_takePositions (distinct : (fields.map Field.key).Nodup) (member : field ∈ fields)
    (sets : field.Sets own look)
    (spares : ∀ other ∈ fields, other.key ≠ field.key → other.Spares look) {name : String}
    {all index : Nat} {record result : Record} {items left : List Tree}
    (takes : takePositions name all dialect fields index record items = .ok (result, left)) :
    look result =
      (own.taken? dialect items[(fields.map Field.key).idxOf field.key]?).getD (look record) := by
  induction fields generalizing index record items with
  | nil => cases member
  | cons first later inductionHypothesis =>
    obtain ⟨apart, distinct⟩ := List.nodup_cons.1 distinct
    have others (other : Field Record) (among : other ∈ later) (different : other.key ≠ field.key) :
        other.Spares look := spares other (List.mem_cons_of_mem _ among) different
    rcases List.mem_cons.1 member with rfl | behind
    · have rest (other : Field Record) (among : other ∈ later) : other.Spares look :=
        others other among fun same => apart (same ▸ List.mem_map_of_mem among)
      rw [List.map_cons, List.idxOf_cons_self]
      cases items with
      | nil =>
        rw [takePositions] at takes
        split at takes
        · exact spared_takePositions rest takes
        · cases takes
      | cons item items =>
        rw [takePositions] at takes
        split at takes
        · cases takes
        · rename_i change taken
          obtain ⟨shown, own_taken, shows⟩ := sets dialect item change taken
          rw [spared_takePositions rest takes, shows, List.getElem?_cons_zero,
            taken?_of_ok own_taken]
          rfl
    · have other : first.key ≠ field.key := fun same =>
        apart (same ▸ List.mem_map_of_mem behind)
      rw [idxOf_later apart behind]
      cases items with
      | nil =>
        rw [takePositions] at takes
        split at takes
        · exact inductionHypothesis distinct behind others takes
        · cases takes
      | cons item items =>
        rw [takePositions] at takes
        split at takes
        · cases takes
        · rename_i change taken
          have kept := spares first List.mem_cons_self other dialect item change taken record
          rw [inductionHypothesis distinct behind others takes, kept, List.getElem?_cons_succ]

/-- A record is taken from the items of a list if every field takes what is written for it. -/
theorem isOk_takePositions (distinct : (fields.map Field.key).Nodup)
    (optional : ∀ field ∈ fields, field.absence = .anywhere) (name : String) (all index : Nat)
    (record : Record) (items : List Tree) :
    (takePositions name all dialect fields index record items).isOk = true ↔
      ∀ field ∈ fields, ∀ part, items[(fields.map Field.key).idxOf field.key]? = some part →
        (field.shape.ofTree dialect part).isOk = true := by
  induction fields generalizing index record items with
  | nil => exact iff_of_true rfl (List.forall_mem_nil _)
  | cons first later inductionHypothesis =>
    obtain ⟨apart, distinct⟩ := List.nodup_cons.1 distinct
    have others (field : Field Record) (among : field ∈ later) : field.absence = .anywhere :=
      optional field (List.mem_cons_of_mem _ among)
    have front : ((first :: later).map Field.key).idxOf first.key = 0 := List.idxOf_cons_self
    rw [List.forall_mem_cons, front]
    cases items with
    | nil =>
      rw [takePositions, optional first List.mem_cons_self]
      refine (inductionHypothesis distinct others _ record []).trans ?_
      simp
    | cons item items =>
      rw [takePositions, List.getElem?_cons_zero]
      split
      · rename_i misplaced refused
        refine iff_of_false (by simp [Except.isOk, Except.toBool]) fun fits => ?_
        have taken := fits.1 item rfl
        rw [refused] at taken
        cases taken
      · rename_i change taken
        refine (inductionHypothesis distinct others _ (change record) items).trans ?_
        have own (part : Tree) (same : some item = some part) :
            (first.shape.ofTree dialect part).isOk = true := by
          cases same
          rw [taken]
          rfl
        refine (forall₂_congr fun field among => ?_).trans (and_iff_right own).symm
        rw [idxOf_later apart among, List.getElem?_cons_succ]

/-! ### Records -/

variable {name : String} {start : Record} {tree : Tree}

/-- What a record shows of a part is what is written for the part, or what the record starts out
with. -/
theorem look_of_record (distinct : (fields.map Field.key).Nodup) (member : field ∈ fields)
    (sets : field.Sets own look)
    (spares : ∀ other ∈ fields, other.key ≠ field.key → other.Spares look) {result : Record}
    (taken : (record name fields start).ofTree dialect tree = .ok result) :
    look result =
      (own.taken? dialect (tree.part? (fields.map Field.key) field.key)).getD (look start) := by
  simp only [record] at taken
  cases tree with
  | table entries =>
    exact (look_of_takeEntries distinct member sets spares taken).2 List.not_mem_nil
  | moment text =>
    exact (look_of_takeEntries distinct member sets spares taken).2 List.not_mem_nil
  | list items =>
    dsimp only at taken
    split at taken
    · cases taken
    · rename_i takes
      cases taken
      exact look_of_takePositions distinct member sets spares takes
    · rename_i takes
      cases dialect with
      | json => cases taken
      | toml =>
        cases taken
        exact look_of_takePositions distinct member sets spares takes
  | null | boolean | integer | decimal | text => cases taken

/-- Where a record is taken, every field has taken what is written for it. -/
theorem isOk_of_record (distinct : (fields.map Field.key).Nodup)
    (optional : ∀ field ∈ fields, field.absence = .anywhere)
    (taken : ((record name fields start).ofTree dialect tree).isOk = true) (member : field ∈ fields)
    {part : Tree} (written : tree.part? (fields.map Field.key) field.key = some part) :
    (field.shape.ofTree dialect part).isOk = true := by
  simp only [record] at taken
  cases tree with
  | table entries =>
    exact ((isOk_takeEntries distinct optional entries [] start).1 taken field member).2 part
      written
  | list items =>
    refine (isOk_takePositions distinct optional name fields.length 0 start items).1 ?_ field
      member part written
    dsimp only at taken
    split at taken <;> rename_i takes
    · cases taken
    · rw [takes]
      rfl
    · rw [takes]
      rfl
  | moment | null | boolean | integer | decimal | text => cases written

/-- A record with parts that may all be missing is taken from a tree that can write a record, if
every field takes what is written for it. -/
theorem isOk_record (distinct : (fields.map Field.key).Nodup)
    (optional : ∀ field ∈ fields, field.absence = .anywhere) (name : String) (start : Record)
    (tree : Tree) :
    ((record name fields start).ofTree .toml tree).isOk = true ↔
      tree.WritesRecord (fields.map Field.key) ∧
        ∀ field ∈ fields, ∀ part, tree.part? (fields.map Field.key) field.key = some part →
          (field.shape.ofTree .toml part).isOk = true := by
  simp only [record]
  cases tree with
  | table entries =>
    refine (isOk_takeEntries distinct optional entries [] start).trans ?_
    simp only [List.not_mem_nil, if_false, Nat.add_zero]
    refine ⟨fun fits => ⟨.table ?_, fun field member => (fits field member).2⟩, ?_⟩
    · intro key known
      obtain ⟨field, member, rfl⟩ := List.mem_map.1 known
      exact (fits field member).1
    · rintro ⟨⟨once⟩, fits⟩ field member
      exact ⟨once field.key (List.mem_map_of_mem member), fits field member⟩
  | moment text =>
    refine iff_of_true ((isOk_takeEntries distinct optional [] [] start).2 ?_)
      ⟨.moment, fun field member part found => by cases found⟩
    exact fun field member => ⟨by simp, fun part found => by cases found⟩
  | list items =>
    refine Iff.trans ?_ ((isOk_takePositions distinct optional name fields.length 0 start
      items).trans (and_iff_right .list).symm)
    dsimp only
    split <;> rename_i takes <;> rw [takes] <;> exact Iff.rfl
  | null | boolean | integer | decimal | text =>
    refine iff_of_false (by simp [unexpected, Except.isOk, Except.toBool]) fun fits => ?_
    cases fits.1

end Shape

end LatencyService
