/-
The settings that the service starts with, one by one. A setting has up to four
layers: the command line, the environment, the file and the default. The first
of them that has a value decides it, and the others do not count, not even if
they are invalid: whether settings are valid is asked of what the layers come to
and of nothing else. Only the file has to be right as a whole, whatever stands
above it.
-/

import LatencyService.CommandLine.Launch
import LatencyService.Proofs.Records

namespace LatencyService

/-! ### Settings one by one -/

/-- The settings come in groups, each of which has a section of its own in a file. -/
inductive SettingGroup where
  | listener
  | service
  | outbound
  | timeouts
  | observability
  deriving DecidableEq, Repr

/-- One of the settings. -/
inductive Setting where
  | bindAddress
  | environment
  | burnIterations
  | outboundUrl
  | outboundSeconds
  | requestSeconds
  | logLevel
  | logFormat
  | metricsEnabled
  | metricsAddress
  deriving DecidableEq, Repr

namespace SettingGroup

/-- All groups, in their order. -/
def all : List SettingGroup := [listener, service, outbound, timeouts, observability]

/-- The key of the section. -/
def key : SettingGroup → String
  | listener => "listener"
  | service => "service"
  | outbound => "outbound"
  | timeouts => "timeouts"
  | observability => "observability"

/-- The keys in the section, in their order. -/
def keys : SettingGroup → List String
  | listener => ["bind_address"]
  | service => ["env", "burn_iterations"]
  | outbound => ["url", "timeout_secs"]
  | timeouts => ["request_secs"]
  | observability => ["log_level", "log_format", "metrics_enabled", "metrics_address"]

/-- The type of the group. -/
abbrev Value : SettingGroup → Type
  | listener => ListenerSettings
  | service => OperationSettings
  | outbound => OutboundSettings
  | timeouts => TimeoutSettings
  | observability => ObservabilitySettings

/-- How the section is read. -/
def shape : (group : SettingGroup) → Shape group.Value
  | listener => ListenerSettings.shape
  | service => OperationSettings.shape
  | outbound => OutboundSettings.shape
  | timeouts => TimeoutSettings.shape
  | observability => ObservabilitySettings.shape

/-- The group in the settings. -/
def get (settings : Settings) : (group : SettingGroup) → group.Value
  | listener => settings.listener
  | service => settings.operation
  | outbound => settings.outbound
  | timeouts => settings.timeouts
  | observability => settings.observability

/-- The settings with another group. -/
def set : (group : SettingGroup) → group.Value → Settings → Settings
  | listener => fun value settings => { settings with listener := value }
  | service => fun value settings => { settings with operation := value }
  | outbound => fun value settings => { settings with outbound := value }
  | timeouts => fun value settings => { settings with timeouts := value }
  | observability => fun value settings => { settings with observability := value }

/-- The field of the section. -/
def field (group : SettingGroup) : Field Settings :=
  .of group.key .anywhere group.shape group.set

/-- The section of the group in a document, if it has one. -/
def part? (group : SettingGroup) (tree : Tree) : Option Tree :=
  tree.part? (all.map key) group.key

end SettingGroup

namespace Setting

/-- The group of the setting. -/
def group : Setting → SettingGroup
  | bindAddress => .listener
  | environment | burnIterations => .service
  | outboundUrl | outboundSeconds => .outbound
  | requestSeconds => .timeouts
  | logLevel | logFormat | metricsEnabled | metricsAddress => .observability

/-- The key of the setting in the section of its group. -/
def key : Setting → String
  | bindAddress => "bind_address"
  | environment => "env"
  | burnIterations => "burn_iterations"
  | outboundUrl => "url"
  | outboundSeconds => "timeout_secs"
  | requestSeconds => "request_secs"
  | logLevel => "log_level"
  | logFormat => "log_format"
  | metricsEnabled => "metrics_enabled"
  | metricsAddress => "metrics_address"

/-- The type of the setting. -/
abbrev Value : Setting → Type
  | burnIterations => UInt64
  | outboundSeconds | requestSeconds => Option UInt64
  | logFormat => LogFormat
  | metricsEnabled => Bool
  | bindAddress | environment | outboundUrl | logLevel | metricsAddress => String

/-- How the setting is read. -/
def shape : (setting : Setting) → Shape setting.Value
  | burnIterations => .natural64
  | outboundSeconds | requestSeconds => Shape.natural64.optional
  | logFormat => .choice LogFormat.variants
  | metricsEnabled => .boolean
  | bindAddress | environment | outboundUrl | logLevel | metricsAddress => .text

/-- The setting in its group. -/
def look : (setting : Setting) → setting.group.Value → setting.Value
  | bindAddress => ListenerSettings.bindAddress
  | environment => OperationSettings.environment
  | burnIterations => OperationSettings.burnIterations
  | outboundUrl => OutboundSettings.url
  | outboundSeconds => OutboundSettings.timeoutSeconds
  | requestSeconds => TimeoutSettings.requestSeconds
  | logLevel => ObservabilitySettings.logLevel
  | logFormat => ObservabilitySettings.logFormat
  | metricsEnabled => ObservabilitySettings.metricsEnabled
  | metricsAddress => ObservabilitySettings.metricsAddress

/-- The group with another value for the setting. -/
def set : (setting : Setting) → setting.Value → setting.group.Value → setting.group.Value
  | bindAddress => fun value (own : ListenerSettings) => { own with bindAddress := value }
  | environment => fun value (own : OperationSettings) => { own with environment := value }
  | burnIterations => fun value (own : OperationSettings) => { own with burnIterations := value }
  | outboundUrl => fun value (own : OutboundSettings) => { own with url := value }
  | outboundSeconds => fun value (own : OutboundSettings) => { own with timeoutSeconds := value }
  | requestSeconds => fun value (own : TimeoutSettings) => { own with requestSeconds := value }
  | logLevel => fun value (own : ObservabilitySettings) => { own with logLevel := value }
  | logFormat => fun value (own : ObservabilitySettings) => { own with logFormat := value }
  | metricsEnabled => fun value (own : ObservabilitySettings) => { own with metricsEnabled := value }
  | metricsAddress => fun value (own : ObservabilitySettings) => { own with metricsAddress := value }

/-- The field of the setting. -/
def field (setting : Setting) : Field setting.group.Value :=
  .of setting.key .anywhere setting.shape setting.set

/-- The setting in the settings. -/
def get (settings : Settings) (setting : Setting) : setting.Value :=
  setting.look (setting.group.get settings)

/-- What a document writes for the setting, if it writes anything. -/
def part? (setting : Setting) (tree : Tree) : Option Tree :=
  (setting.group.part? tree).bind (·.part? setting.group.keys setting.key)

/-- The value that a document has for the setting. -/
def written? (setting : Setting) (tree : Tree) : Option setting.Value :=
  setting.shape.taken? .toml (setting.part? tree)

/-- The value that a command line has for the setting. -/
def given? (given : CommandLine.Arguments) : (setting : Setting) → Option setting.Value
  | bindAddress => given.bindAddress
  | environment => given.environment
  | burnIterations | outboundUrl | outboundSeconds | requestSeconds | logLevel | logFormat
  | metricsEnabled | metricsAddress => none

/-- The value that the environment has for the setting. -/
def exported? (lookup : String → Option String) : (setting : Setting) → Option setting.Value
  | bindAddress => lookup "DEMO_BIND_ADDRESS"
  | environment => lookup "DEMO_ENV"
  | outboundUrl => lookup "DEMO_OUTBOUND_URL"
  | burnIterations | outboundSeconds | requestSeconds | logLevel | logFormat | metricsEnabled
  | metricsAddress => none

end Setting

namespace Settings

/-- The settings that have certain values. -/
def of (values : (setting : Setting) → setting.Value) : Settings where
  listener := ⟨values .bindAddress⟩
  operation := ⟨values .environment, values .burnIterations⟩
  outbound := ⟨values .outboundUrl, values .outboundSeconds⟩
  timeouts := ⟨values .requestSeconds⟩
  observability :=
    ⟨values .logLevel, values .logFormat, values .metricsEnabled, values .metricsAddress⟩

@[simp] theorem get_of (values : (setting : Setting) → setting.Value) (setting : Setting) :
    setting.get (of values) = values setting := by
  cases setting <;> rfl

/-- There is no more to settings than their values. -/
theorem of_get (settings : Settings) : of (Setting.get settings) = settings := rfl

end Settings

/-! ### Sections and their fields -/

namespace SettingGroup

/-- What messages call the type of the group. -/
def typeName : SettingGroup → String
  | listener => "ListenerConfig"
  | service => "DemoConfig"
  | outbound => "OutboundConfig"
  | timeouts => "TimeoutConfig"
  | observability => "ObservabilityConfig"

/-- The fields of the section. -/
def fields : (group : SettingGroup) → List (Field group.Value)
  | listener => [Setting.bindAddress.field]
  | service => [Setting.environment.field, Setting.burnIterations.field]
  | outbound => [Setting.outboundUrl.field, Setting.outboundSeconds.field]
  | timeouts => [Setting.requestSeconds.field]
  | observability => [Setting.logLevel.field, Setting.logFormat.field, Setting.metricsEnabled.field,
      Setting.metricsAddress.field]

theorem shape_eq (group : SettingGroup) :
    group.shape = .record group.typeName group.fields (group.get {}) := by
  cases group <;> rfl

theorem keys_fields (group : SettingGroup) : group.fields.map Field.key = group.keys := by
  cases group <;> rfl

theorem distinct_fields (group : SettingGroup) : (group.fields.map Field.key).Nodup := by
  rw [keys_fields]
  cases group <;> decide

/-- Every field of a section is that of a setting. -/
theorem forall_fields (claim : (group : SettingGroup) → Field group.Value → Prop)
    (each : ∀ setting : Setting, claim setting.group setting.field) (group : SettingGroup) :
    ∀ field ∈ group.fields, claim group field := by
  have last (group : SettingGroup) : ∀ field ∈ ([] : List (Field group.Value)), claim group field :=
    List.forall_mem_nil _
  have next (group : SettingGroup) {first : Field group.Value} {later : List (Field group.Value)}
      (front : claim group first) (behind : ∀ field ∈ later, claim group field) :
      ∀ field ∈ first :: later, claim group field := List.forall_mem_cons.2 ⟨front, behind⟩
  cases group with
  | listener => exact next _ (each .bindAddress) (last _)
  | service => exact next _ (each .environment) (next _ (each .burnIterations) (last _))
  | outbound => exact next _ (each .outboundUrl) (next _ (each .outboundSeconds) (last _))
  | timeouts => exact next _ (each .requestSeconds) (last _)
  | observability =>
    exact next _ (each .logLevel) (next _ (each .logFormat) (next _ (each .metricsEnabled)
      (next _ (each .metricsAddress) (last _))))

theorem optional_fields (group : SettingGroup) :
    ∀ field ∈ group.fields, field.absence = .anywhere :=
  forall_fields (fun _ field => field.absence = .anywhere) (fun _ => rfl) group

end SettingGroup

theorem Setting.field_mem (setting : Setting) : setting.field ∈ setting.group.fields := by
  cases setting <;> repeat (first | exact List.mem_cons_self | apply List.mem_cons_of_mem)

/-- What a section shows of a setting is for the other fields to leave alone. -/
theorem Setting.spares (setting : Setting) :
    ∀ other ∈ setting.group.fields, other.key ≠ setting.field.key → other.Spares setting.look := by
  cases setting <;>
    repeat (first
      | exact List.forall_mem_nil _
      | refine List.forall_mem_cons.2 ⟨?_, ?_⟩
      | exact fun apart => absurd rfl apart
      | exact fun _ => Field.spares_of fun _ _ => rfl)

theorem Setting.sets (setting : Setting) : setting.field.Sets setting.shape setting.look := by
  cases setting <;> exact Field.sets_of fun _ _ => rfl

/-- What a section that is read shows of a setting is what is written for it, or the default. -/
theorem Setting.look_of_shape {dialect : Dialect} {setting : Setting} {tree : Tree}
    {part : setting.group.Value} (taken : setting.group.shape.ofTree dialect tree = .ok part) :
    setting.look part =
      (setting.shape.taken? dialect (tree.part? setting.group.keys setting.key)).getD
        (setting.get {}) := by
  rw [setting.group.shape_eq] at taken
  have shown := Shape.look_of_record setting.group.distinct_fields setting.field_mem setting.sets
    setting.spares taken
  rwa [setting.group.keys_fields] at shown

/-! ### Documents and their sections -/

namespace SettingGroup

theorem distinct_keys : ((all.map field).map Field.key).Nodup := by decide

theorem field_mem (group : SettingGroup) : group.field ∈ all.map field :=
  List.mem_map_of_mem (by cases group <;> decide)

theorem sets (group : SettingGroup) : group.field.Sets group.shape (get · group) := by
  cases group <;> exact Field.sets_of fun _ _ => rfl

/-- What settings show of a section is for the other sections to leave alone. -/
theorem spares (group : SettingGroup) :
    ∀ other ∈ all.map field, other.key ≠ group.field.key → other.Spares (get · group) := by
  cases group <;>
    repeat (first
      | exact List.forall_mem_nil _
      | refine List.forall_mem_cons.2 ⟨?_, ?_⟩
      | exact fun apart => absurd rfl apart
      | exact fun _ => Field.spares_of fun _ _ => rfl)

end SettingGroup

namespace Settings

theorem shape_eq : shape = .record "ServiceConfig" (SettingGroup.all.map SettingGroup.field) {} :=
  rfl

theorem optional_fields :
    ∀ field ∈ SettingGroup.all.map SettingGroup.field, field.absence = .anywhere :=
  List.forall_mem_map.2 fun _ _ => rfl

variable {dialect : Dialect} {tree : Tree} {settings : Settings}

/-- A section of settings that are read is what is written for it, or has its defaults. -/
theorem get_of_shape (taken : shape.ofTree dialect tree = .ok settings) (group : SettingGroup) :
    group.get settings = (group.shape.taken? dialect (group.part? tree)).getD (group.get {}) :=
  Shape.look_of_record SettingGroup.distinct_keys group.field_mem group.sets group.spares taken

/-- Where settings are read, so is every section that is written. -/
theorem isOk_section (taken : (shape.ofTree dialect tree).isOk = true) {group : SettingGroup}
    {part : Tree} (written : group.part? tree = some part) :
    (group.shape.ofTree dialect part).isOk = true :=
  (Shape.isOk_map _ _).symm.trans
    (Shape.isOk_of_record SettingGroup.distinct_keys optional_fields taken group.field_mem written)

end Settings

/-! ### Documents that write settings -/

/-- A document writes settings if it can be taken for a record as a whole, its sections too, and if
each setting takes what is written for it. -/
structure Settings.Fits (tree : Tree) : Prop where
  whole : tree.WritesRecord (SettingGroup.all.map SettingGroup.key)
  sections (group : SettingGroup) (part : Tree) :
    group.part? tree = some part → part.WritesRecord group.keys
  values (setting : Setting) (part : Tree) :
    setting.part? tree = some part → (setting.shape.ofTree .toml part).isOk = true

/-- A section is read if it can be taken for a record and its settings take what is written for
them. -/
theorem SettingGroup.isOk_shape {group : SettingGroup} {tree : Tree} :
    (group.shape.ofTree .toml tree).isOk = true ↔
      tree.WritesRecord group.keys ∧
        ∀ setting : Setting, setting.group = group →
          ∀ part, tree.part? group.keys setting.key = some part →
            (setting.shape.ofTree .toml part).isOk = true := by
  rw [group.shape_eq, Shape.isOk_record group.distinct_fields group.optional_fields,
    group.keys_fields]
  refine and_congr_right fun _ => ⟨?_, fun fits field member => ?_⟩
  · rintro fits setting rfl part written
    exact (Shape.isOk_map _ _).symm.trans (fits setting.field setting.field_mem part written)
  · refine forall_fields
      (fun other field => other = group → ∀ part, tree.part? group.keys field.key = some part →
        (field.shape.ofTree .toml part).isOk = true) ?_ group field member rfl
    exact fun setting own part written =>
      (Shape.isOk_map _ _).trans (fits setting own part written)

namespace Settings

theorem Fits.isOk_section {tree part : Tree} (fits : Fits tree) {group : SettingGroup}
    (written : group.part? tree = some part) : (group.shape.ofTree .toml part).isOk = true := by
  refine SettingGroup.isOk_shape.2 ⟨fits.sections group part written, ?_⟩
  rintro setting rfl value value_written
  exact fits.values setting value (Option.bind_eq_some_iff.2 ⟨part, written, value_written⟩)

/-- Settings are read from the documents that write them. -/
theorem isOk_shape {tree : Tree} : (shape.ofTree .toml tree).isOk = true ↔ Fits tree := by
  rw [shape_eq, Shape.isOk_record SettingGroup.distinct_keys optional_fields, List.forall_mem_map]
  refine ⟨?_, fun fits => ⟨fits.whole, fun group _ part written => ?_⟩⟩
  · rintro ⟨whole, taken⟩
    have section_taken (group : SettingGroup) (part : Tree)
        (written : group.part? tree = some part) : (group.shape.ofTree .toml part).isOk = true :=
      (Shape.isOk_map _ _).symm.trans
        (taken group (by cases group <;> decide) part written)
    refine ⟨whole, fun group part written => ?_, fun setting value written => ?_⟩
    · exact (SettingGroup.isOk_shape.1 (section_taken group part written)).1
    · obtain ⟨part, section_written, value_written⟩ := Option.bind_eq_some_iff.1 written
      exact (SettingGroup.isOk_shape.1 (section_taken _ part section_written)).2 setting rfl value
        value_written
  · exact (Shape.isOk_map _ _).trans (fits.isOk_section written)

end Settings

/-- A setting that is read is what is written for it, or the default. -/
theorem Setting.get_of_shape {dialect : Dialect} {tree : Tree} {settings : Settings}
    (taken : Settings.shape.ofTree dialect tree = .ok settings) (setting : Setting) :
    setting.get settings =
      (setting.shape.taken? dialect (setting.part? tree)).getD (setting.get {}) := by
  rw [get, part?, Settings.get_of_shape taken]
  cases written : setting.group.part? tree with
  | none => rfl
  | some own =>
    have own_taken := Settings.isOk_section (by rw [taken]; rfl) written
    cases part_taken : setting.group.shape.ofTree dialect own with
    | error misplaced =>
      rw [part_taken] at own_taken
      cases own_taken
    | ok part =>
      rw [Shape.taken?_of_ok part_taken]
      exact look_of_shape part_taken

/-! ### Layers -/

section

variable (given : CommandLine.Arguments) (lookup : String → Option String) (document? : Option Tree)

/-- A setting as the layers have it: the command line before the environment, the environment before
the document, and the default behind them all. -/
def Setting.decided (setting : Setting) : setting.Value :=
  (((setting.given? given).or (setting.exported? lookup)).or
    (document?.bind setting.written?)).getD (setting.get {})

/-- The settings as the layers have them. -/
def Settings.layered : Settings := .of (Setting.decided given lookup document?)

end

namespace Settings

variable {given : CommandLine.Arguments} {lookup : String → Option String} {first second : Settings}

/-- Settings are the same if each of them is. -/
theorem ext_get (same : ∀ setting : Setting, setting.get first = setting.get second) :
    first = second := by
  rw [← of_get first, ← of_get second, funext same]

/-- What is written for a setting does not matter if a layer above has a value for it, not even for
whether the settings are valid. -/
theorem layered_congr {document other : Tree}
    (same : ∀ setting : Setting, setting.given? given = none → setting.exported? lookup = none →
      setting.written? document = setting.written? other) :
    layered given lookup (some document) = layered given lookup (some other) := by
  refine ext_get fun setting => ?_
  simp only [layered, get_of, Setting.decided, Option.bind_some]
  cases by_line : setting.given? given with
  | some value => rfl
  | none =>
    cases by_variable : setting.exported? lookup with
    | some value => rfl
    | none => rw [same setting by_line by_variable]

end Settings

namespace CommandLine

variable {arguments : List String} {given : Arguments} {lookup : String → Option String}
  {files : String → FoundFile} {settings : Settings}

/-- The values of the command line. -/
def Arguments.overrides (given : Arguments) : Overrides where
  environment := given.environment
  bindAddress := given.bindAddress

/-- A value of the command line comes before one of the environment, and both before that of the
settings. -/
theorem get_overridden (given : Arguments) (lookup : String → Option String) (settings : Settings)
    (setting : Setting) :
    setting.get (given.overrides.apply ((Overrides.ofVariables lookup).apply settings)) =
      ((setting.given? given).or (setting.exported? lookup)).getD (setting.get settings) := by
  cases setting with
  | bindAddress | environment => exact (Option.getD_or ..).symm
  | outboundUrl | burnIterations | outboundSeconds | requestSeconds | logLevel | logFormat
  | metricsEnabled | metricsAddress => rfl

/-- Replacing values layer by layer comes to the choice among all layers. -/
theorem overridden_eq_layered {document? : Option Tree}
    (written : ∀ setting : Setting,
      setting.get settings = (document?.bind setting.written?).getD (setting.get {})) :
    given.overrides.apply ((Overrides.ofVariables lookup).apply settings) =
      .layered given lookup document? := by
  refine Settings.ext_get fun setting => ?_
  rw [get_overridden, written, ← Option.getD_or, Settings.layered, Settings.get_of]
  rfl

/-! ### Loading -/

theorem settingsOf_default (unnamed : given.config = none) :
    settingsOf given lookup files = .ok (.layered given lookup none) := by
  have layers : given.overrides.apply ((Overrides.ofVariables lookup).apply {}) =
      .layered given lookup none := overridden_eq_layered fun _ => rfl
  rw [settingsOf, unnamed, ← layers]
  rfl

theorem settingsOf_file {path : String} (named : given.config = some path) {base : Settings}
    (read : Settings.ofFile (files path) = .ok base) :
    settingsOf given lookup files =
      .ok (given.overrides.apply ((Overrides.ofVariables lookup).apply base)) := by
  rw [settingsOf, named, Option.map_some, Settings.load, read]
  rfl

/-- What is wrong with a file does not depend on the layers above it. -/
theorem settingsOf_fault {path : String} (named : given.config = some path) {fault : LoadFault}
    (failed : Settings.ofFile (files path) = .error fault) :
    settingsOf given lookup files = .error fault := by
  rw [settingsOf, named, Option.map_some, Settings.load, failed]
  rfl

end CommandLine

namespace Settings

variable {file : FoundFile} {text : Octets} {node : Toml.Node}

theorem ofFile_unreadable {problem : FileProblem} (unreadable : textOf file = .error problem) :
    ofFile file = .error (.unreadable problem) := by
  rw [ofFile, unreadable]

theorem ofFile_malformed (readable : textOf file = .ok text) (malformed : Toml.parse text = none) :
    ofFile file = .error (.unparsable text .malformed) := by
  simp only [ofFile, readable, Toml.decode, malformed]

theorem ofFile_misfit (readable : textOf file = .ok text) (parsed : Toml.parse text = some node)
    (misfits : ¬ Fits node.toTree) :
    ∃ misfit extent, ofFile file = .error (.unparsable text (.misfit misfit extent)) := by
  cases taken : shape.ofTree .toml node.toTree with
  | error misplaced =>
    refine ⟨misplaced.misfit, node.locate none misplaced.path, ?_⟩
    simp only [ofFile, readable, Toml.decode, parsed, taken]
  | ok settings => exact absurd (isOk_shape.1 (by rw [taken]; rfl)) misfits

theorem ofFile_fits (readable : textOf file = .ok text) (parsed : Toml.parse text = some node)
    (fits : Fits node.toTree) :
    ∃ settings, ofFile file = .ok settings ∧
      ∀ setting : Setting,
        setting.get settings = (setting.written? node.toTree).getD (setting.get {}) := by
  have fitting := isOk_shape.2 fits
  cases taken : shape.ofTree .toml node.toTree with
  | error misplaced =>
    rw [taken] at fitting
    cases fitting
  | ok settings =>
    refine ⟨settings, ?_, fun setting => setting.get_of_shape taken⟩
    simp only [ofFile, readable, Toml.decode, parsed, taken]

end Settings

namespace CommandLine

variable {arguments : List String} {given : Arguments} {lookup : String → Option String}
  {files : String → FoundFile} {settings : Settings}

/-! ### Starting -/

/-- What a start comes to once it has its settings: whether it goes on is for the objections to
decide. -/
def Launch.validated (settings : Settings) : Launch :=
  if settings.objections = [] then .ofSettings settings
  else .refused (.validation settings.objections)

/-- A start gets so far as to log if there are no objections to its settings, and then it has these
settings. -/
theorem Launch.logged?_validated (settings : Settings) :
    (validated settings).logged?.map Prod.fst =
      if settings.objections = [] then some settings else none := by
  rw [validated]
  split
  · -- the start goes on to log, whether the address can then be listened at or not
    unfold ofSettings
    extract_lets
    split <;> rfl
  · rfl

theorem run_of_settings (accepted : Arguments.parse arguments = .ok given)
    (loaded : settingsOf given lookup files = .ok settings) :
    Launch.run arguments lookup files = .validated settings := by
  simp only [Launch.run, accepted, validSettings, loaded, Launch.validated]
  cases settings.objections with
  | nil => rfl
  | cons first rest => rfl

theorem run_of_fault (accepted : Arguments.parse arguments = .ok given) {fault : LoadFault}
    (failed : settingsOf given lookup files = .error fault) :
    Launch.run arguments lookup files = .refused (.load fault) := by
  simp only [Launch.run, accepted, validSettings, failed]

/-- The settings that a start validates are decided one by one, each by the first layer that has a
value for it: the command line, the environment, the file, or the default. If there are no objections
to them, the start goes on with these settings, and else it does not go on. So what a file has for a
setting does not matter where a layer above has a value. A file that cannot be read or does not write
settings ends the start, whatever the layers above it say. -/
theorem configuration_layered (accepted : Arguments.parse arguments = .ok given)
    (lookup : String → Option String) (files : String → FoundFile) :
    (given.config = none →
      Launch.run arguments lookup files = .validated (.layered given lookup none)) ∧
    (∀ path, given.config = some path →
      (∀ problem, Settings.textOf (files path) = .error problem →
        Launch.run arguments lookup files = .refused (.load (.unreadable problem))) ∧
      ∀ text, Settings.textOf (files path) = .ok text →
        (Toml.parse text = none →
          Launch.run arguments lookup files = .refused (.load (.unparsable text .malformed))) ∧
        ∀ node, Toml.parse text = some node →
          (Settings.Fits node.toTree →
            Launch.run arguments lookup files =
              .validated (.layered given lookup (some node.toTree))) ∧
          (¬ Settings.Fits node.toTree → ∃ misfit extent,
            Launch.run arguments lookup files =
              .refused (.load (.unparsable text (.misfit misfit extent))))) ∧
    (∀ settings, (Launch.validated settings).logged?.map Prod.fst =
      if settings.objections = [] then some settings else none) ∧
    ∀ document other : Tree,
      (∀ setting : Setting, setting.given? given = none → setting.exported? lookup = none →
        setting.written? document = setting.written? other) →
      Settings.layered given lookup (some document) =
        .layered given lookup (some other) := by
  have fails {path : String} (named : given.config = some path) {fault : LoadFault}
      (failed : Settings.ofFile (files path) = .error fault) :
      Launch.run arguments lookup files = .refused (.load fault) :=
    run_of_fault accepted (settingsOf_fault named failed)
  refine ⟨fun unnamed => run_of_settings accepted (settingsOf_default unnamed),
    fun path named => ⟨fun problem unreadable => ?_, fun text readable => ⟨fun malformed => ?_,
      fun node parsed => ⟨fun fits => ?_, fun misfits => ?_⟩⟩⟩, Launch.logged?_validated,
    fun document other => Settings.layered_congr⟩
  · exact fails named (Settings.ofFile_unreadable unreadable)
  · exact fails named (Settings.ofFile_malformed readable malformed)
  · obtain ⟨base, read, written⟩ := Settings.ofFile_fits readable parsed fits
    have layers : given.overrides.apply ((Overrides.ofVariables lookup).apply base) =
        .layered given lookup (some node.toTree) := overridden_eq_layered written
    rw [run_of_settings accepted (settingsOf_file named read), layers]
  · obtain ⟨misfit, extent, failed⟩ := Settings.ofFile_misfit readable parsed misfits
    exact ⟨misfit, extent, fails named failed⟩

/-- A document whose address and name of the environment are not valid. -/
def spoilt : Octets := Octets.ofText
  "[listener]\nbind_address = \"nowhere\"\n[service]\nenv = \" \"\nburn_iterations = 5\n"

/-- An environment with two addresses and an empty name of the environment. -/
def halfSpoilt (name : String) : Option String :=
  [("DEMO_ENV", ""), ("DEMO_BIND_ADDRESS", "127.0.0.1:0"),
    ("DEMO_OUTBOUND_URL", "http://[::1]:9000/god")].lookup name

/-- Settings that take from the document no more than a number. -/
def repaired : Settings where
  listener := ⟨"127.0.0.1:0"⟩
  operation := ⟨"prod", 5⟩
  outbound := ⟨"http://[::1]:9000/god", none⟩

/-- Values that are not valid do no harm below others. -/
theorem configuration_layered_over_spoilt :
    let launch := Launch.run ["--env=prod", "-c", "demo.toml"] halfSpoilt fun _ => .octets spoilt
    launch = .ofSettings repaired ∧ launch.logged?.map Prod.fst = some repaired := by
  have accepted : Arguments.parse ["--env=prod", "-c", "demo.toml"] =
      .ok { config := some "demo.toml", environment := some "prod" } := by decide +kernel
  have readable : Settings.textOf (.octets spoilt) = .ok spoilt := by decide +kernel
  have parsable : (Toml.parse spoilt).isSome = true := by decide +kernel
  have fitting : (Toml.parse spoilt).any
      (fun node => (Settings.shape.ofTree .toml node.toTree).isOk) = true := by decide +kernel
  have layers : (Toml.parse spoilt).map (fun node => Settings.layered
        { config := some "demo.toml", environment := some "prod" } halfSpoilt (some node.toTree)) =
      some repaired := by decide +kernel
  have valid : repaired.objections = [] := by decide +kernel
  obtain ⟨node, parsed⟩ := Option.isSome_iff_exists.1 parsable
  rw [parsed, Option.any_some] at fitting
  rw [parsed, Option.map_some, Option.some_inj] at layers
  obtain ⟨-, named, goes, -⟩ := configuration_layered accepted halfSpoilt fun _ => .octets spoilt
  have started : Launch.run ["--env=prod", "-c", "demo.toml"] halfSpoilt (fun _ => .octets spoilt) =
      .validated repaired := by
    rw [((named "demo.toml" rfl).2 spoilt readable |>.2 node parsed).1
      (Settings.isOk_shape.1 fitting), layers]
  refine ⟨?_, ?_⟩
  · rw [started, Launch.validated, if_pos valid]
  · rw [started, goes, if_pos valid]

end CommandLine

end LatencyService
