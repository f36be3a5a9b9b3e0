/-
Documents that write some of the settings. Such a document lies over the defaults:
the settings that it writes are as it has them, and all others are the defaults,
whichever of them it writes and wherever in it they stand. It makes no difference
whether a section is missing or empty, and keys that are not known do not count.
What is written has to be of the right kind, though: a document with anything
else in the place of a setting or of a section is not read at all.

Documents of both kinds are read so. A section can be written as a list of its values
as well, and a date or a time counts as an empty section.
-/

import LatencyService.Proofs.Layers
import Mathlib.Data.List.Nodup

namespace LatencyService

/-! ### Values in documents -/

/-- A null, a truth value, a number or a text. -/
def Tree.isPlain : Tree → Bool
  | null | boolean _ | integer _ | decimal _ | text _ => true
  | moment _ | list _ | table _ => false

namespace Shape

variable {dialect : Dialect} {tree : Tree}

theorem text_isOk (taken : (text.ofTree dialect tree).isOk = true) :
    ∃ value, tree = .text value := by
  cases tree with
  | text value => exact ⟨value, rfl⟩
  | null | boolean | integer | decimal | moment | list | table => cases taken

theorem boolean_isOk (taken : (boolean.ofTree dialect tree).isOk = true) :
    ∃ value, tree = .boolean value := by
  cases tree with
  | boolean value => exact ⟨value, rfl⟩
  | null | text | integer | decimal | moment | list | table => cases taken

theorem natural64_ofTree (dialect : Dialect) (value : UInt64) :
    natural64.ofTree dialect (.integer value.toNat) = .ok value := by
  have bound := value.toNat_lt
  have fits : (0 ≤ (value.toNat : Int) && (value.toNat : Int) ≤ 0xFFFFFFFFFFFFFFFF) = true := by
    simp only [Bool.and_eq_true, decide_eq_true_eq]
    omega
  simp only [natural64, whole, fits, if_true, Int.toNat_natCast]
  rw [Nat.toUInt64_eq, UInt64.ofNat_toNat]

theorem natural64_isOk (taken : (natural64.ofTree dialect tree).isOk = true) :
    ∃ value : UInt64, tree = .integer value.toNat := by
  cases tree with
  | integer value =>
    by_cases fits : (0 ≤ value && value ≤ 0xFFFFFFFFFFFFFFFF) = true
    · simp only [Bool.and_eq_true, decide_eq_true_eq] at fits
      refine ⟨value.toNat.toUInt64, congrArg Tree.integer ?_⟩
      rw [Nat.toUInt64_eq, UInt64.toNat_ofNat_of_lt' (by change _ < 2 ^ 64; omega)]
      omega
    · simp only [natural64, whole, fits] at taken
      cases taken
  | null | text | boolean | decimal | moment | list | table => cases taken

theorem optional_isOk {Value : Type} {shape : Shape Value}
    (taken : (shape.optional.ofTree dialect tree).isOk = true) :
    tree = .null ∨ (shape.ofTree dialect tree).isOk = true := by
  cases tree with
  | null => exact .inl rfl
  | integer | text | boolean | decimal | moment | list | table =>
    exact .inr ((isOk_map _ _).symm.trans taken)

theorem choice_isOk {Value : Type} {variants : List (String × Value)}
    (taken : ((choice variants).ofTree dialect tree).isOk = true) :
    (∃ variant ∈ variants, tree = .text variant.1) ∨ ∃ entries, tree = .table entries := by
  cases tree with
  | text name =>
    simp only [choice, chosen?] at taken
    cases found : variants.find? fun variant => variant.1 == name with
    | none =>
      rw [found] at taken
      cases taken
    | some variant =>
      have same := List.find?_some found
      exact .inl ⟨variant, List.mem_of_find?_eq_some found,
        congrArg Tree.text (beq_iff_eq.1 same).symm⟩
  | table entries => exact .inr ⟨entries, rfl⟩
  | null | integer | boolean | decimal | moment | list => cases dialect <;> cases taken

theorem record_isOk {Record : Type} {name : String} {fields : List (Field Record)} {start : Record}
    (taken : ((record name fields start).ofTree dialect tree).isOk = true) :
    tree.isPlain = false := by
  cases tree with
  | moment | list | table => rfl
  | null | boolean | integer | decimal | text => cases taken

end Shape

namespace Setting

/-- A value of the setting as documents write it. -/
def toTree : (setting : Setting) → setting.Value → Tree
  | burnIterations => fun (value : UInt64) => .integer value.toNat
  | outboundSeconds | requestSeconds => fun (value : Option UInt64) =>
    match value with
    | some seconds => .integer seconds.toNat
    | none => .null
  | logFormat => fun (value : LogFormat) => .text value.name
  | metricsEnabled => .boolean
  | bindAddress | environment | outboundUrl | logLevel | metricsAddress => .text

/-- Every value is read from what is written for it. -/
theorem ofTree_toTree (dialect : Dialect) (setting : Setting) (value : setting.Value) :
    setting.shape.ofTree dialect (setting.toTree value) = .ok value := by
  have seconds (value : Option UInt64) :
      Shape.natural64.optional.ofTree dialect (toTree .outboundSeconds value) = .ok value := by
    cases value with
    | none => rfl
    | some number =>
      show (Shape.natural64.map some).ofTree dialect (.integer number.toNat) = _
      simp only [Shape.map, Shape.natural64_ofTree]
  cases setting with
  | burnIterations => exact Shape.natural64_ofTree dialect value
  | outboundSeconds | requestSeconds => exact seconds value
  | logFormat => cases value <;> rfl
  | metricsEnabled | bindAddress | environment | outboundUrl | logLevel | metricsAddress => rfl

/-- Nothing else is read than what is written for some value, a format in a table aside. -/
theorem exists_of_isOk {dialect : Dialect} {setting : Setting} {tree : Tree}
    (taken : (setting.shape.ofTree dialect tree).isOk = true) :
    (∃ value, tree = setting.toTree value) ∨
      setting = .logFormat ∧ ∃ entries, tree = .table entries := by
  have seconds (taken : (Shape.natural64.optional.ofTree dialect tree).isOk = true) :
      ∃ value, tree = toTree .outboundSeconds value := by
    rcases Shape.optional_isOk taken with rfl | taken
    · exact ⟨none, rfl⟩
    · obtain ⟨number, rfl⟩ := Shape.natural64_isOk taken
      exact ⟨some number, rfl⟩
  cases setting with
  | burnIterations => exact .inl (Shape.natural64_isOk taken)
  | outboundSeconds | requestSeconds => exact .inl (seconds taken)
  | logFormat =>
    refine (Shape.choice_isOk taken).imp ?_ fun table => ⟨rfl, table⟩
    rintro ⟨variant, known, rfl⟩
    simp only [LogFormat.variants, List.mem_cons, List.not_mem_nil, or_false] at known
    rcases known with rfl | rfl
    · exact ⟨LogFormat.pretty, rfl⟩
    · exact ⟨LogFormat.json, rfl⟩
  | metricsEnabled => exact .inl (Shape.boolean_isOk taken)
  | bindAddress | environment | outboundUrl | logLevel | metricsAddress =>
    exact .inl (Shape.text_isOk taken)

/-- Where settings are read, so is every setting that is written. -/
theorem isOk_of_shape {dialect : Dialect} {tree : Tree}
    (taken : (Settings.shape.ofTree dialect tree).isOk = true) {setting : Setting} {part : Tree}
    (written : setting.part? tree = some part) :
    (setting.shape.ofTree dialect part).isOk = true := by
  obtain ⟨own, own_written, part_written⟩ := Option.bind_eq_some_iff.1 written
  have own_taken := Settings.isOk_section taken own_written
  rw [setting.group.shape_eq] at own_taken
  rw [← setting.group.keys_fields] at part_written
  exact (Shape.isOk_map _ _).symm.trans
    (Shape.isOk_of_record setting.group.distinct_fields setting.group.optional_fields own_taken
      setting.field_mem part_written)

end Setting

/-! ### Entries that lie over the defaults -/

/-- The entries of a table write certain values for certain settings and nothing for the others, in
sections that are tables, and no known key comes twice. Nothing is said of the order of the entries,
and nothing of keys that are not known. -/
structure Overlays (chosen : (setting : Setting) → Option setting.Value)
    (entries : List (String × Tree)) : Prop where
  once (group : SettingGroup) : (entries.map Prod.fst).count group.key ≤ 1
  sections (group : SettingGroup) (part : Tree) : group.part? (.table entries) = some part →
    ∃ own, part = .table own ∧ ∀ key ∈ group.keys, (own.map Prod.fst).count key ≤ 1
  values (setting : Setting) :
    setting.part? (.table entries) = (chosen setting).map setting.toTree

namespace Overlays

variable {chosen : (setting : Setting) → Option setting.Value} {entries : List (String × Tree)}

/-- Every section is read. -/
theorem isOk_section (overlays : Overlays chosen entries) (dialect : Dialect)
    {group : SettingGroup} {part : Tree} (written : group.part? (.table entries) = some part) :
    (group.shape.ofTree dialect part).isOk = true := by
  obtain ⟨own, rfl, once⟩ := overlays.sections group part written
  rw [group.shape_eq]
  refine (Shape.isOk_takeEntries group.distinct_fields group.optional_fields own []
    (group.get {})).2 fun field member => ⟨?_, ?_⟩
  · rw [if_neg List.not_mem_nil, Nat.add_zero]
    exact once field.key (group.keys_fields ▸ List.mem_map_of_mem member)
  · refine SettingGroup.forall_fields (fun other field => other = group → ∀ part,
      Tree.find? field.key own = some part → (field.shape.ofTree dialect part).isOk = true)
      (fun setting same part found => ?_) group field member rfl
    subst same
    have shown : setting.part? (.table entries) = some part :=
      Option.bind_eq_some_iff.2 ⟨.table own, written, found⟩
    rw [overlays.values] at shown
    obtain ⟨value, -, rfl⟩ := Option.map_eq_some_iff.1 shown
    refine (Shape.isOk_map _ _).trans ?_
    rw [setting.ofTree_toTree]
    rfl

/-- The whole is read. -/
theorem isOk_shape (overlays : Overlays chosen entries) (dialect : Dialect) :
    (Settings.shape.ofTree dialect (.table entries)).isOk = true := by
  rw [Settings.shape_eq]
  refine (Shape.isOk_takeEntries SettingGroup.distinct_keys Settings.optional_fields entries []
    {}).2 fun field member => ?_
  obtain ⟨group, -, rfl⟩ := List.mem_map.1 member
  refine ⟨?_, fun part found => (Shape.isOk_map _ _).trans ?_⟩
  · rw [if_neg List.not_mem_nil, Nat.add_zero]
    exact overlays.once group
  · exact overlays.isOk_section dialect found

/-- Every setting is what is written for it, or the default. -/
theorem ofTree_eq (overlays : Overlays chosen entries) (dialect : Dialect) :
    Settings.shape.ofTree dialect (.table entries) =
      .ok (.of fun setting => (chosen setting).getD (setting.get {})) := by
  have whole := overlays.isOk_shape dialect
  cases taken : Settings.shape.ofTree dialect (.table entries) with
  | error misplaced =>
    rw [taken] at whole
    cases whole
  | ok settings =>
    refine congrArg Except.ok (Settings.ext_get fun setting => ?_)
    rw [Setting.get_of_shape taken, overlays.values, Settings.get_of]
    cases chosen setting with
    | none => rfl
    | some value =>
      rw [Option.map_some, Shape.taken?_of_ok (setting.ofTree_toTree dialect value)]

end Overlays

/-! ### A document for every choice -/

section

variable (chosen : (setting : Setting) → Option setting.Value)

/-- What is written for the chosen ones of some settings. -/
def Setting.chosenEntries (settings : List Setting) : List (String × Tree) :=
  settings.filterMap fun setting =>
    (chosen setting).map fun value => (setting.key, setting.toTree value)

theorem Setting.sublist_chosenEntries (settings : List Setting) :
    ((chosenEntries chosen settings).map Prod.fst).Sublist (settings.map key) := by
  induction settings with
  | nil => exact .slnil
  | cons first rest inductionHypothesis =>
    rw [chosenEntries, List.filterMap_cons]
    cases chosen first with
    | none => exact inductionHypothesis.cons _
    | some value => exact inductionHypothesis.cons_cons _

theorem Setting.find?_chosenEntries {settings : List Setting}
    (distinct : (settings.map key).Nodup) {setting : Setting} (member : setting ∈ settings) :
    Tree.find? setting.key (chosenEntries chosen settings) =
      (chosen setting).map setting.toTree := by
  induction settings with
  | nil => cases member
  | cons first rest inductionHypothesis =>
    obtain ⟨apart, distinct⟩ := List.nodup_cons.1 distinct
    rw [chosenEntries, List.filterMap_cons]
    rcases List.mem_cons.1 member with rfl | later
    · cases chosen setting with
      | none =>
        refine Tree.find?_of_count_eq_zero (List.count_eq_zero.2 fun again => apart ?_)
        exact (sublist_chosenEntries chosen rest).subset again
      | some value => exact (Tree.find?_cons ..).trans (if_pos rfl)
    · have other : first.key ≠ setting.key := fun same => apart (same ▸ List.mem_map_of_mem later)
      cases chosen first with
      | none => exact inductionHypothesis distinct later
      | some value =>
        exact ((Tree.find?_cons ..).trans (if_neg other)).trans (inductionHypothesis distinct later)

/-- The settings of a group, in the order of their keys. -/
def SettingGroup.settings : SettingGroup → List Setting
  | listener => [.bindAddress]
  | service => [.environment, .burnIterations]
  | outbound => [.outboundUrl, .outboundSeconds]
  | timeouts => [.requestSeconds]
  | observability => [.logLevel, .logFormat, .metricsEnabled, .metricsAddress]

theorem SettingGroup.map_key_settings (group : SettingGroup) :
    group.settings.map Setting.key = group.keys := by
  cases group <;> rfl

theorem SettingGroup.nodup_keys (group : SettingGroup) : group.keys.Nodup := by
  cases group <;> decide

/-- What is written for all chosen settings, group by group. -/
def SettingGroup.chosenSections : List (String × Tree) :=
  all.map fun group => (group.key, .table (Setting.chosenEntries chosen group.settings))

/-- Whatever values are chosen, there are entries that write these and nothing else. -/
theorem Overlays.of_chosen : Overlays chosen (SettingGroup.chosenSections chosen) := by
  have part (group : SettingGroup) : group.part? (.table (SettingGroup.chosenSections chosen)) =
      some (.table (Setting.chosenEntries chosen group.settings)) := by
    cases group <;> rfl
  refine ⟨fun group => ?_, fun group own written => ?_, fun setting => ?_⟩
  · have keys : (SettingGroup.all.map SettingGroup.key).Nodup := by decide
    rw [SettingGroup.chosenSections, List.map_map]
    exact List.nodup_iff_count_le_one.1 keys group.key
  · cases (part group).symm.trans written
    have sublist := Setting.sublist_chosenEntries chosen group.settings
    rw [group.map_key_settings] at sublist
    exact ⟨_, rfl, fun key _ =>
      Nat.le_trans (sublist.count_le key) (List.nodup_iff_count_le_one.1 group.nodup_keys key)⟩
  · have member : setting ∈ setting.group.settings := by cases setting <;> decide
    rw [Setting.part?, part, Option.bind_some]
    refine Setting.find?_chosenEntries chosen ?_ member
    rw [SettingGroup.map_key_settings]
    exact setting.group.nodup_keys

end

/-! ### Empty sections -/

/-- A section without any values: an empty table, an empty list, or a date or a time. -/
def Tree.IsEmptySection (tree : Tree) : Prop :=
  tree = .table [] ∨ tree = .list [] ∨ ∃ text, tree = .moment text

theorem SettingGroup.ofTree_empty (group : SettingGroup) (dialect : Dialect) {part : Tree}
    (empty : part.IsEmptySection) : group.shape.ofTree dialect part = .ok (group.get {}) := by
  rcases empty with rfl | rfl | ⟨text, rfl⟩ <;> cases group <;> rfl

theorem SettingGroup.set_get (group : SettingGroup) (settings : Settings) :
    group.set (group.get settings) settings = settings := by
  cases group <;> rfl

/-- An empty section can be left out. -/
theorem Settings.ofTree_empty (dialect : Dialect) (group : SettingGroup) {part : Tree}
    (empty : part.IsEmptySection) {before after : List (String × Tree)}
    (apart : ∀ entry ∈ before ++ after, entry.1 ≠ group.key) :
    shape.ofTree dialect (.table (before ++ (group.key, part) :: after)) =
      shape.ofTree dialect (.table (before ++ after)) := by
  have taken : group.field.shape.ofTree dialect part = .ok (group.set (group.get {})) := by
    show (group.shape.map group.set).ofTree dialect part = _
    simp only [Shape.map, group.ofTree_empty dialect empty]
  have idle (settings : Settings) (default : group.get settings = group.get {}) :
      group.set (group.get {}) settings = settings := by
    rw [← default, group.set_get]
  exact Shape.takeEntries_idle SettingGroup.distinct_keys optional_fields group.field_mem
    group.spares taken idle apart List.not_mem_nil rfl

/-! ### Overlays -/

namespace Settings

/-- Entries that lie over the defaults are read as such, and there are such for every choice.
Nothing is read if a section or a setting is written by something of another kind. Empty sections
are as good as none. -/
theorem documents_overlay (dialect : Dialect) :
    (∀ chosen : (setting : Setting) → Option setting.Value,
      (∃ entries, Overlays chosen entries) ∧
      ∀ entries, Overlays chosen entries → shape.ofTree dialect (.table entries) =
        .ok (.of fun setting => (chosen setting).getD (setting.get {}))) ∧
    (∀ entries : List (String × Tree),
      (∃ group : SettingGroup, ∃ part ∈ group.part? (.table entries), part.isPlain = true) ∨
        (∃ setting : Setting, ∃ part ∈ setting.part? (.table entries),
          (∀ value, part ≠ setting.toTree value) ∧
            (setting = .logFormat → ∀ own, part ≠ .table own)) →
      ∃ misplaced, shape.ofTree dialect (.table entries) = .error misplaced) ∧
    ∀ (group : SettingGroup) (part : Tree) (before after : List (String × Tree)),
      part.IsEmptySection → (∀ entry ∈ before ++ after, entry.1 ≠ group.key) →
      shape.ofTree dialect (.table (before ++ (group.key, part) :: after)) =
        shape.ofTree dialect (.table (before ++ after)) := by
  refine ⟨fun chosen => ⟨⟨_, Overlays.of_chosen chosen⟩, fun entries overlays =>
    overlays.ofTree_eq dialect⟩, fun entries wrong => ?_, fun group part before after empty apart =>
    ofTree_empty dialect group empty apart⟩
  cases taken : shape.ofTree dialect (.table entries) with
  | error misplaced => exact ⟨misplaced, rfl⟩
  | ok settings =>
    have whole : (shape.ofTree dialect (.table entries)).isOk = true := by
      rw [taken]
      rfl
    exfalso
    rcases wrong with ⟨group, part, written, plain⟩ | ⟨setting, part, written, other, untabled⟩
    · have own_taken := isOk_section whole written
      rw [group.shape_eq] at own_taken
      exact Bool.false_ne_true ((Shape.record_isOk own_taken).symm.trans plain)
    · rcases Setting.exists_of_isOk (setting.isOk_of_shape whole written) with
        ⟨value, same⟩ | ⟨format, own, same⟩
      · exact other value same
      · exact untabled format own same

/-- The number of rounds alone, behind an empty section and among unknown keys. -/
theorem documents_overlay_rounds :
    let sections : List (String × Tree) :=
      [ ("extra", .boolean true),
        ("service", .table [("colour", .null), ("burn_iterations", .integer 5)]) ]
    shape.ofTree .toml (.table (("timeouts", .table []) :: sections)) =
        .ok { operation := { burnIterations := 5 } } ∧
      ∃ misplaced, shape.ofTree .json (.table
        [("service", .table [("burn_iterations", .integer (-5))])]) = .error misplaced := by
  intro sections
  let chosen : (setting : Setting) → Option setting.Value
    | .burnIterations => some (5 : UInt64)
    | .bindAddress | .environment | .outboundUrl | .outboundSeconds | .requestSeconds | .logLevel
    | .logFormat | .metricsEnabled | .metricsAddress => none
  have lies : Overlays chosen sections := by
    refine ⟨fun group => by cases group <;> decide, fun group part written => ?_,
      fun setting => by cases setting <;> rfl⟩
    cases group with
    | service =>
      cases written
      exact ⟨_, rfl, by decide⟩
    | listener | outbound | timeouts | observability => cases written
  obtain ⟨overlay, -, idle⟩ := documents_overlay .toml
  obtain ⟨-, refused, -⟩ := documents_overlay .json
  constructor
  · have left_out := idle .timeouts (.table []) [] sections (.inl rfl) (by decide)
    exact left_out.trans ((overlay chosen).2 sections lies)
  · refine refused _ (.inr ⟨.burnIterations, .integer (-5), rfl, fun value same => ?_,
      fun format => by cases format⟩)
    have negative : (-5 : Int) = UInt64.toNat value := Tree.integer.inj same
    omega

/-- A date is a scalar, and still a document that has it in the place of a section is read. -/
theorem date_read_as_section :
    (Toml.parse (Octets.ofText "listener = 1979-05-27\n")).map Toml.Node.toTree =
        some (.table [("listener", .moment "1979-05-27")]) ∧
      shape.ofTree .toml (.table [("listener", .moment "1979-05-27")]) = .ok {} ∧
      Toml.decode shape (Octets.ofText "listener = 1979-05-27\n") = .ok {} :=
  ⟨rfl, rfl, rfl⟩

end Settings

end LatencyService
