/-
A record that may be written in many ways is read as one. The order of the
entries of a table does not count, nor do entries whose keys are not known, nor
does it make a difference whether what is known is null or absent; and a record
that may be written as a list reads like the table that gives the items to its
first fields. Nothing is left open by that, as a key that is known may not come
twice.
-/

import LatencyService.Envelope.Inbound
import LatencyService.Proofs.Entries
import LatencyService.Proofs.Records
import Mathlib.Data.List.Nodup
import Mathlib.Data.List.Pairwise

namespace LatencyService

namespace Json

/-! ### Ways of writing -/

/-- Null, as it is written. -/
def nullText : Octets := Octet.smallN :: nullTail

/-- The entries of a table are given in another way. What is known may be left out when it is null,
and the values of one key may be alike in a way of their own. -/
inductive Rewrites (known : List String) (alike : String → Octets → Octets → Prop) :
    List (String × Octets) → List (String × Octets) → Prop where
  | permuted {entries others : List (String × Octets)} (perm : entries.Perm others) :
      Rewrites known alike entries others
  | unknown {key : String} {value : Octets} {entries : List (String × Octets)}
      (unknown : key ∉ known) : Rewrites known alike ((key, value) :: entries) entries
  | absent {key : String} {entries : List (String × Octets)} (there : key ∈ known)
      (fresh : key ∉ entries.map Prod.fst) :
      Rewrites known alike ((key, nullText) :: entries) entries
  | alike {key : String} {value other : Octets} {entries : List (String × Octets)}
      (same : alike key value other) :
      Rewrites known alike ((key, value) :: entries) ((key, other) :: entries)
  | symm {entries others : List (String × Octets)} (back : Rewrites known alike others entries) :
      Rewrites known alike entries others
  | trans {entries middle others : List (String × Octets)}
      (first : Rewrites known alike entries middle) (second : Rewrites known alike middle others) :
      Rewrites known alike entries others

end Json

namespace Shape

variable {Record Value : Type} {fields : List (Field Record)} {start : Record}

/-! ### Fields that are lenient -/

/-- The field makes a change of some text. -/
def Makes (field : Field Record) (change : Record → Record) : Prop :=
  ∃ depth text, field.shape.value? depth text = some change

/-- The changes that one field makes and those of another do not get in each other's way. -/
def Apart (first second : Field Record) : Prop :=
  ∀ change other, Makes first change → Makes second other →
    ∀ record, change (other record) = other (change record)

/-- A field may be missing, and null stands for what it begins with. -/
structure LenientField (start : Record) (field : Field Record) : Prop where
  steady : field.shape.Steady
  free : field.absence ≠ .refused
  null (depth : Nat) : ∃ change,
    field.shape.value? depth Json.nullText = some change ∧ change start = start

/-- Fields are lenient, and each of them has a part of the record of its own. -/
structure LenientFields (fields : List (Field Record)) (start : Record) : Prop where
  distinct : (fields.map Field.key).Nodup
  each : ∀ field ∈ fields, LenientField start field
  apart : fields.Pairwise Apart

theorem LenientFields.steady (lenient : LenientFields fields start) :
    ∀ field ∈ fields, field.shape.Steady := fun field member => (lenient.each field member).steady

theorem LenientFields.free (lenient : LenientFields fields start) :
    ∀ field ∈ fields, field.absence ≠ .refused := fun field member =>
  (lenient.each field member).free

instance : Std.Symm (@Apart Record) where
  symm _ _ apart change other makes makes_other record :=
    (apart other change makes_other makes record).symm

theorem LenientFields.commutes (lenient : LenientFields fields start) {first second : Field Record}
    (one : first ∈ fields) (two : second ∈ fields) (other : first.key ≠ second.key) :
    Apart first second :=
  lenient.apart.forall one two fun same => other (congrArg Field.key same)

/-- The keys that are known among those of entries. -/
def knownKeys (fields : List (Field Record)) (entries : List (String × Octets)) : List String :=
  (entries.map Prod.fst).filter fun key => (fieldOf? fields key).isSome

/-- What a record becomes that takes in entries, whatever their keys are. -/
def made? (fields : List (Field Record)) (depth : Nat) :
    List (String × Octets) → Record → Option Record
  | [], record => some record
  | (key, text) :: rest, record =>
    match fieldOf? fields key with
    | none => made? fields depth rest record
    | some field =>
      (field.shape.value? depth text).bind fun change => made? fields depth rest (change record)

section Taking

variable {depth : Nat} {key : String} {value : Octets} {entries others : List (String × Octets)}

theorem knownKeys_cons_of_none (unknown : fieldOf? fields key = none) :
    knownKeys fields ((key, value) :: entries) = knownKeys fields entries := by
  rw [knownKeys, List.map_cons, List.filter_cons_of_neg (by simp [unknown])]
  rfl

theorem knownKeys_cons_of_some {field : Field Record} (found : fieldOf? fields key = some field) :
    knownKeys fields ((key, value) :: entries) = key :: knownKeys fields entries := by
  rw [knownKeys, List.map_cons, List.filter_cons_of_pos (by simp [found])]
  rfl

theorem made?_cons_of_none (unknown : fieldOf? fields key = none) (record : Record) :
    made? fields depth ((key, value) :: entries) record = made? fields depth entries record := by
  rw [made?, unknown]

theorem made?_cons_of_some {field : Field Record} (found : fieldOf? fields key = some field)
    (record : Record) :
    made? fields depth ((key, value) :: entries) record =
      (field.shape.value? depth value).bind fun change =>
        made? fields depth entries (change record) := by
  rw [made?, found]

/-- A key that has not been seen and does not come again may be put to those that have been seen. -/
theorem fresh_cons_iff {keys seen : List String} (unseen : key ∉ seen) :
    ((key :: keys).Nodup ∧ ∀ other ∈ key :: keys, other ∉ seen) ↔
      keys.Nodup ∧ ∀ other ∈ keys, other ∉ key :: seen := by
  rw [List.nodup_cons, List.forall_mem_cons]
  constructor
  · rintro ⟨⟨apart, once⟩, -, fresh⟩
    refine ⟨once, fun other member => ?_⟩
    rw [List.mem_cons, not_or]
    exact ⟨fun equal => apart (equal ▸ member), fresh other member⟩
  · rintro ⟨once, fresh⟩
    exact ⟨⟨fun member => fresh key member List.mem_cons_self, once⟩, unseen,
      fun other later there => fresh other later (List.mem_cons_of_mem _ there)⟩

/-- Entries are taken in if no key that is known comes twice. -/
theorem takes?_eq (free : ∀ field ∈ fields, field.absence ≠ .refused) (depth : Nat)
    (seen : List String) (entries : List (String × Octets)) (record : Record) :
    takes? fields depth seen entries record =
      if (knownKeys fields entries).Nodup ∧ ∀ key ∈ knownKeys fields entries, key ∉ seen then
        made? fields depth entries record
      else none := by
  induction entries generalizing seen record with
  | nil =>
    have none : missing? fields seen = none :=
      missing?_eq_none fun field member refused => absurd refused (free field member)
    rw [takes?, none]
    exact (if_pos ⟨List.nodup_nil, List.forall_mem_nil _⟩).symm
  | cons entry entries inductionHypothesis =>
    obtain ⟨key, value⟩ := entry
    rw [takes?]
    cases found : fieldOf? fields key with
    | none =>
      rw [knownKeys_cons_of_none found, made?_cons_of_none found]
      exact inductionHypothesis seen record
    | some field =>
      rw [knownKeys_cons_of_some found, made?_cons_of_some found]
      simp only [inductionHypothesis]
      by_cases again : key ∈ seen
      · rw [if_pos (List.elem_iff.2 again),
          if_neg fun fresh => fresh.2 key List.mem_cons_self again]
      · rw [if_neg fun there => again (List.elem_iff.1 there)]
        by_cases once : (knownKeys fields entries).Nodup ∧
            ∀ other ∈ knownKeys fields entries, other ∉ key :: seen
        · simp only [if_pos once, if_pos ((fresh_cons_iff again).2 once)]
        · simp only [if_neg once, if_neg fun fresh => once ((fresh_cons_iff again).1 fresh)]
          cases field.shape.value? depth value <;> rfl

/-- Two entries may change places. -/
theorem made?_swap (lenient : LenientFields fields start) {other : String} {text : Octets}
    (once : (knownKeys fields ((other, text) :: (key, value) :: entries)).Nodup)
    (record : Record) :
    made? fields depth ((other, text) :: (key, value) :: entries) record =
      made? fields depth ((key, value) :: (other, text) :: entries) record := by
  cases found : fieldOf? fields key with
  | none =>
    cases also : fieldOf? fields other <;>
      simp only [made?, found, also]
  | some field =>
    cases also : fieldOf? fields other with
    | none => simp only [made?, found, also]
    | some second =>
      rw [knownKeys_cons_of_some also, knownKeys_cons_of_some found] at once
      have apart : second.key ≠ field.key := by
        rw [(fieldOf?_some also).2, (fieldOf?_some found).2]
        rintro rfl
        exact (List.nodup_cons.1 once).1 List.mem_cons_self
      simp only [made?, found, also]
      cases held : field.shape.value? depth value with
      | none => simp
      | some change =>
        cases holds : second.shape.value? depth text with
        | none => simp
        | some later =>
          simp only [Option.bind_some]
          rw [lenient.commutes (fieldOf?_some also).1 (fieldOf?_some found).1 apart later change
            ⟨depth, text, holds⟩ ⟨depth, value, held⟩ record]

/-- The entries may come in any order. -/
theorem made?_of_perm (lenient : LenientFields fields start) (perm : entries.Perm others)
    (once : (knownKeys fields entries).Nodup) (record : Record) :
    made? fields depth entries record = made? fields depth others record := by
  induction perm generalizing record with
  | nil => rfl
  | cons entry perm inductionHypothesis =>
    obtain ⟨key, value⟩ := entry
    cases found : fieldOf? fields key with
    | none =>
      rw [knownKeys_cons_of_none found] at once
      rw [made?_cons_of_none found, made?_cons_of_none found]
      exact inductionHypothesis once record
    | some field =>
      rw [knownKeys_cons_of_some found] at once
      rw [made?_cons_of_some found, made?_cons_of_some found]
      exact Option.bind_congr fun change _ =>
        inductionHypothesis (List.nodup_cons.1 once).2 (change record)
  | swap first second rest => exact made?_swap lenient once record
  | trans perm more first second =>
    have knows := (perm.map Prod.fst).filter fun key => (fieldOf? fields key).isSome
    exact (first once record).trans (second (knows.nodup_iff.1 once) record)

theorem nodup_knownKeys_of_perm (perm : entries.Perm others) :
    (knownKeys fields entries).Nodup ↔ (knownKeys fields others).Nodup :=
  ((perm.map Prod.fst).filter _).nodup_iff

/-- A value that a field does not take is not taken in, wherever it stands. -/
theorem made?_eq_none {field : Field Record} (member : (key, value) ∈ entries)
    (found : fieldOf? fields key = some field) (refused : field.shape.value? depth value = none)
    (record : Record) : made? fields depth entries record = none := by
  induction entries generalizing record with
  | nil => cases member
  | cons entry entries inductionHypothesis =>
    obtain ⟨other, text⟩ := entry
    rcases List.mem_cons.1 member with same | later
    · cases same
      rw [made?_cons_of_some found, refused]
      rfl
    · cases also : fieldOf? fields other with
      | none =>
        rw [made?_cons_of_none also]
        exact inductionHypothesis later record
      | some first =>
        rw [made?_cons_of_some also]
        exact Option.bind_eq_none_iff.2 fun change _ => inductionHypothesis later (change record)

/-! ### Tables that are taken in alike -/

theorem fieldOf?_eq_none (unknown : key ∉ fields.map Field.key) : fieldOf? fields key = none := by
  refine List.find?_eq_none.2 fun field member same => unknown ?_
  exact beq_iff_eq.1 same ▸ List.mem_map_of_mem member

theorem exists_fieldOf? (known : key ∈ fields.map Field.key) :
    ∃ field, fieldOf? fields key = some field := by
  obtain ⟨field, member, same⟩ := List.mem_map.1 known
  exact Option.isSome_iff_exists.1
    (List.find?_isSome.2 ⟨field, member, beq_iff_eq.2 same⟩)

/-- Whatever the way in which entries are given, they are taken in alike. -/
theorem made?_of_rewrites (lenient : LenientFields fields start)
    {alike : String → Octets → Octets → Prop}
    (same : ∀ field ∈ fields, ∀ text other, alike field.key text other →
      field.shape.value? depth text = field.shape.value? depth other)
    (rewrites : Json.Rewrites (fields.map Field.key) alike entries others) :
    ((knownKeys fields entries).Nodup ↔ (knownKeys fields others).Nodup) ∧
      ((knownKeys fields entries).Nodup →
        made? fields depth entries start = made? fields depth others start) := by
  induction rewrites with
  | permuted perm =>
    exact ⟨nodup_knownKeys_of_perm perm, fun once => made?_of_perm lenient perm once start⟩
  | unknown unknown =>
    rw [knownKeys_cons_of_none (fieldOf?_eq_none unknown),
      made?_cons_of_none (fieldOf?_eq_none unknown)]
    exact ⟨Iff.rfl, fun _ => rfl⟩
  | @absent key entries there fresh =>
    obtain ⟨field, found⟩ := exists_fieldOf? there
    obtain ⟨change, null, unchanged⟩ := (lenient.each field (fieldOf?_some found).1).null depth
    rw [knownKeys_cons_of_some found, made?_cons_of_some found, null, Option.bind_some, unchanged,
      List.nodup_cons]
    exact ⟨and_iff_right fun member => fresh (List.mem_of_mem_filter member), fun _ => rfl⟩
  | @alike key value other entries respelled =>
    cases found : fieldOf? fields key with
    | none =>
      rw [knownKeys_cons_of_none found, knownKeys_cons_of_none found, made?_cons_of_none found,
        made?_cons_of_none found]
      exact ⟨Iff.rfl, fun _ => rfl⟩
    | some field =>
      obtain ⟨member, rfl⟩ := fieldOf?_some found
      rw [knownKeys_cons_of_some found, knownKeys_cons_of_some found, made?_cons_of_some found,
        made?_cons_of_some found, same field member value other respelled]
      exact ⟨Iff.rfl, fun _ => rfl⟩
  | symm back inductionHypothesis =>
    exact ⟨inductionHypothesis.1.symm, fun once =>
      (inductionHypothesis.2 (inductionHypothesis.1.2 once)).symm⟩
  | trans first second before after =>
    exact ⟨before.1.trans after.1, fun once =>
      (before.2 once).trans (after.2 (before.1.1 once))⟩

theorem takes?_of_rewrites (lenient : LenientFields fields start)
    {alike : String → Octets → Octets → Prop}
    (same : ∀ field ∈ fields, ∀ text other, alike field.key text other →
      field.shape.value? depth text = field.shape.value? depth other)
    (rewrites : Json.Rewrites (fields.map Field.key) alike entries others) :
    takes? fields depth [] entries start = takes? fields depth [] others start := by
  obtain ⟨once, made⟩ := made?_of_rewrites lenient same rewrites
  rw [takes?_eq lenient.free, takes?_eq lenient.free]
  by_cases unique : (knownKeys fields entries).Nodup
  · rw [if_pos ⟨unique, fun _ _ => List.not_mem_nil⟩,
      if_pos ⟨once.1 unique, fun _ _ => List.not_mem_nil⟩, made unique]
  · rw [if_neg fun fresh => unique fresh.1, if_neg fun fresh => unique (once.2 fresh.1)]

/-- A key that is known may not come twice. -/
theorem takes?_of_twice (lenient : LenientFields fields start)
    (known : key ∈ fields.map Field.key) (twice : 1 < (entries.map Prod.fst).count key)
    (record : Record) : takes? fields depth [] entries record = none := by
  rw [takes?_eq lenient.free]
  refine if_neg fun fresh => ?_
  obtain ⟨field, found⟩ := exists_fieldOf? known
  have once := List.nodup_iff_count_le_one.1 fresh.1 key
  rw [knownKeys, List.count_filter (by simp [found])] at once
  omega

/-- What is known has to be taken. -/
theorem takes?_of_refused (lenient : LenientFields fields start) {field : Field Record}
    (member : field ∈ fields) (there : (field.key, value) ∈ entries)
    (refused : field.shape.value? depth value = none) (record : Record) :
    takes? fields depth [] entries record = none := by
  rw [takes?_eq lenient.free,
    made?_eq_none there (fieldOf?_of_mem lenient.distinct member) refused, ite_self]

/-! ### Lists that are taken in like tables -/

/-- Items are taken in like entries where all that they leave out may be left out. -/
theorem takesInOrder?_eq (lenient : LenientFields fields start) {later : List (Field Record)}
    (among : ∀ field ∈ later, field ∈ fields) (values : List Octets) (record : Record) :
    takesInOrder? depth later values record =
      if ∀ field ∈ later.drop values.length, field.absence = .anywhere then
        made? fields depth ((later.map Field.key).zip values) record
      else none := by
  induction later generalizing values record with
  | nil =>
    rw [List.drop_nil, if_pos (List.forall_mem_nil _)]
    rfl
  | cons field later inductionHypothesis =>
    replace inductionHypothesis := @inductionHypothesis fun other member =>
      among other (List.mem_cons_of_mem _ member)
    cases values with
    | nil =>
      have rest := inductionHypothesis [] record
      rw [List.length_nil, List.drop_zero, List.zip_nil_right] at rest
      rw [takesInOrder?, rest, List.length_nil, List.drop_zero, List.zip_nil_right]
      simp only [List.forall_mem_cons, beq_iff_eq, ite_and]
    | cons value values =>
      have known := fieldOf?_of_mem lenient.distinct (among field List.mem_cons_self)
      rw [List.map_cons, List.zip_cons_cons, made?_cons_of_some known, takesInOrder?,
        List.length_cons, List.drop_succ_cons]
      simp only [inductionHypothesis values]
      split
      · rfl
      · cases field.shape.value? depth value <;> rfl

theorem zip_sublist (keys : List String) (values : List Octets) :
    ((keys.zip values).map Prod.fst).Sublist keys := by
  induction keys generalizing values with
  | nil => exact List.Sublist.refl _
  | cons key keys inductionHypothesis =>
    cases values with
    | nil => exact List.nil_sublist _
    | cons value values => exact (inductionHypothesis values).cons_cons key

/-- Items are taken in like the entries that give them to the first fields. -/
theorem takes?_zip (lenient : LenientFields fields start)
    (anywhere : ∀ field ∈ fields, field.absence = .anywhere) (values : List Octets)
    (record : Record) :
    takes? fields depth [] ((fields.map Field.key).zip values) record =
      takesInOrder? depth fields values record := by
  have once := (zip_sublist (fields.map Field.key) values).nodup lenient.distinct
  rw [takes?_eq lenient.free, takesInOrder?_eq lenient (fun _ => id),
    if_pos ⟨once.filter _, fun _ _ => List.not_mem_nil⟩,
    if_pos fun field member => anywhere field (List.mem_of_mem_drop member)]

end Taking

/-! ### Values of records and of what may be null -/

variable {shape : Shape Value} {depth : Nat}

theorem value?_map {Other : Type} (change : Value → Other) (shape : Shape Value) (depth : Nat)
    (text : Octets) : (shape.map change).value? depth text = (shape.value? depth text).map change := by
  simp only [value?, Json.whole, Shape.map]
  cases shape.read depth text with
  | error fault => rfl
  | ok read =>
    dsimp only
    split <;> rfl

/-- A field makes the changes that its values make. -/
theorem exists_of_makes {key : String} {absence : Absence} {set : Value → Record → Record}
    {change : Record → Record} (makes : Makes (.of key absence shape set) change) :
    ∃ value, set value = change := by
  obtain ⟨depth, text, read⟩ := makes
  rw [Field.of, value?_map] at read
  obtain ⟨value, -, same⟩ := Option.map_eq_some_iff.1 read
  exact ⟨value, same⟩

/-- Null is read as no value. -/
theorem optional_value?_null (shape : Shape Value) (depth : Nat) :
    shape.optional.value? depth Json.nullText = some none := rfl

/-- What does not begin like null is read as the value that it is. -/
theorem optional_value?_of_other (steady : shape.Steady) {text left : Octets} {octet : UInt8}
    (at_octet : Json.skipBlanks text = octet :: left) (other : octet ≠ Octet.smallN) :
    shape.optional.value? depth text = (shape.value? depth text).map some := by
  have same : shape.optional.read depth text = (shape.map some).read depth text := by
    rw [optional_of_other at_octet other, ← at_octet, (steady.map some).unspaced]
  rw [← value?_map, value?, value?, Json.whole, Json.whole, same]

end Shape

/-! ### Texts that are read alike -/

namespace Json

/-- Two texts are tables with the same entries, given in other ways. -/
def Retells (known : List String) (alike : String → Octets → Octets → Prop)
    (text other : Octets) : Prop :=
  ∃ entries others, entries? text = some entries ∧ entries? other = some others ∧
    Rewrites known alike entries others

/-- A text is a list, and another one the table that gives the items to the first keys. -/
def Lists (known : List String) (text other : Octets) : Prop :=
  ∃ values, items? text = some values ∧ values.length ≤ known.length ∧
    entries? other = some (known.zip values)

/-- Two texts write one record, the first as a table or as a list, the second as a table. -/
def Respells (known : List String) (text other : Octets) : Prop :=
  Retells known (fun _ _ _ => False) text other ∨ Lists known text other

/-- A text is a table in which a key that is known comes twice. -/
def Repeats (known : List String) (text : Octets) : Prop :=
  ∃ entries, entries? text = some entries ∧ ∃ key ∈ known, 1 < (entries.map Prod.fst).count key

theorem brace_of_entries? {text : Octets} {entries : List (String × Octets)}
    (there : entries? text = some entries) :
    ∃ left, skipBlanks text = Octet.openBrace :: left := by
  unfold entries? at there
  split at there
  · obtain ⟨members, listed, -⟩ := Option.map_eq_some_iff.1 there
    obtain ⟨used, rest, -, -, at_brace, -⟩ := Shape.exists_body_of_members? listed
    exact ⟨_, at_brace⟩
  · cases there

theorem bracket_of_items? {text : Octets} {values : List Octets}
    (there : items? text = some values) :
    ∃ left, skipBlanks text = Octet.openBracket :: left := by
  unfold items? at there
  split at there
  · rename_i at_bracket
    exact ⟨_, at_bracket⟩
  · cases there

/-- What writes a record does not begin like null. -/
theorem Respells.begins {known : List String} {text other : Octets}
    (respells : Respells known text other) :
    (∃ octet left, skipBlanks text = octet :: left ∧ octet ≠ Octet.smallN) ∧
      ∃ octet left, skipBlanks other = octet :: left ∧ octet ≠ Octet.smallN := by
  rcases respells with ⟨entries, others, there, also, -⟩ | ⟨values, there, -, also⟩
  · obtain ⟨left, at_brace⟩ := brace_of_entries? there
    obtain ⟨rest, at_other⟩ := brace_of_entries? also
    exact ⟨⟨_, _, at_brace, by decide⟩, _, _, at_other, by decide⟩
  · obtain ⟨left, at_bracket⟩ := bracket_of_items? there
    obtain ⟨rest, at_other⟩ := brace_of_entries? also
    exact ⟨⟨_, _, at_bracket, by decide⟩, _, _, at_other, by decide⟩

end Json

namespace Shape

variable {Record Value : Type} {fields : List (Field Record)} {start : Record} {depth : Nat}
  {text other : Octets} {name : String}

theorem value?_of_retells (lenient : LenientFields fields start) (name : String) (deep : 1 < depth)
    {alike : String → Octets → Octets → Prop}
    (same : ∀ field ∈ fields, ∀ text other, alike field.key text other →
      field.shape.value? (depth - 1) text = field.shape.value? (depth - 1) other)
    (retells : Json.Retells (fields.map Field.key) alike text other) :
    (record name fields start).value? depth text =
      (record name fields start).value? depth other := by
  obtain ⟨entries, others, there, also, rewrites⟩ := retells
  rw [value?_of_entries name lenient.steady start deep there,
    value?_of_entries name lenient.steady start deep also]
  exact takes?_of_rewrites lenient same rewrites

theorem value?_of_respells (lenient : LenientFields fields start)
    (anywhere : ∀ field ∈ fields, field.absence = .anywhere) (name : String) (deep : 1 < depth)
    (respells : Json.Respells (fields.map Field.key) text other) :
    (record name fields start).value? depth text =
      (record name fields start).value? depth other := by
  rcases respells with retells | ⟨values, there, few, also⟩
  · exact value?_of_retells lenient name deep (fun _ _ _ _ => False.elim) retells
  · rw [List.length_map] at few
    rw [value?_of_items name lenient.steady start deep there few,
      value?_of_entries name lenient.steady start deep also]
    exact (takes?_zip lenient anywhere values start).symm

theorem value?_of_repeats (lenient : LenientFields fields start) (name : String) (deep : 1 < depth)
    (repeats : Json.Repeats (fields.map Field.key) text) :
    (record name fields start).value? depth text = none := by
  obtain ⟨entries, there, key, known, twice⟩ := repeats
  rw [value?_of_entries name lenient.steady start deep there]
  exact takes?_of_twice lenient known twice start

end Shape

end LatencyService
