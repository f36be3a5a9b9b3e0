/-
What is demanded of settings, apart from how it is checked: eight demands, most
of them on one setting alone, in the order of the fields. Settings are valid if
they meet all of them; otherwise every demand that is not met is reported once,
in that order, and no other. A report shows the value that does not meet the
demand as it is configured, unless the report says it all by itself.

No demand has a part in what is reported of another. So settings that differ in
one place differ in what is reported of that place at most.
-/

import LatencyService.Proofs.Addresses
import LatencyService.Proofs.Layers
import Mathlib.Data.List.DropRight

namespace LatencyService

/-! ### Trimmed texts -/

namespace Blank

/-- A text without the white space at both of its ends. -/
def Trims (text trimmed : String) : Prop :=
  ∃ before after, text.toList = before ++ trimmed.toList ++ after ∧
    (∀ char ∈ before, char.toNat ∈ whiteSpace) ∧ (∀ char ∈ after, char.toNat ∈ whiteSpace) ∧
    (∀ char ∈ trimmed.toList.head?, char.toNat ∉ whiteSpace) ∧
    ∀ char ∈ trimmed.toList.getLast?, char.toNat ∉ whiteSpace

variable {text trimmed : String}

/-- The first of the characters that are left behind the blanks at the front is none. -/
theorem not_mem_of_head? {chars : List Char} {first : Char}
    (there : first ∈ (chars.dropWhile isBlankChar).head?) : first.toNat ∉ whiteSpace := by
  have stopped := List.head?_dropWhile_not isBlankChar chars
  rw [there] at stopped
  rw [← isBlankChar_iff, stopped]
  exact Bool.false_ne_true

theorem trims_trim (text : String) : Trims text (trim text) := by
  have ends := List.rdropWhile_append_rtakeWhile (p := isBlankChar)
    (l := text.toList.dropWhile isBlankChar)
  have kept : (trim text).toList = (text.toList.dropWhile isBlankChar).rdropWhile isBlankChar :=
    String.toList_ofList
  refine ⟨text.toList.takeWhile isBlankChar,
    (text.toList.dropWhile isBlankChar).rtakeWhile isBlankChar, ?_, fun char member => ?_,
    fun char member => ?_, fun char first => ?_, fun char last => ?_⟩
  · rw [kept, List.append_assoc, ends, List.takeWhile_append_dropWhile]
  · exact isBlankChar_iff.1 (List.mem_takeWhile_imp member)
  · exact isBlankChar_iff.1 (List.mem_rtakeWhile_imp member)
  · rw [kept] at first
    refine @not_mem_of_head? text.toList char ?_
    rw [← ends, List.head?_append, first]
    rfl
  · rw [kept, ← List.head?_reverse, List.rdropWhile, List.reverse_reverse] at last
    exact not_mem_of_head? last

/-- A text is trimmed in one way only. -/
theorem trims_iff : Trims text trimmed ↔ trimmed = trim text := by
  refine ⟨?_, fun same => same ▸ trims_trim text⟩
  rintro ⟨before, after, parts, blank_before, blank_after, first, last⟩
  have blank {chars : List Char} (all : ∀ char ∈ chars, char.toNat ∈ whiteSpace) :
      ∀ char ∈ chars, isBlankChar char = true := fun char member =>
    isBlankChar_iff.2 (all char member)
  have solid {char : Char} (other : char.toNat ∉ whiteSpace) : ¬ isBlankChar char = true :=
    fun blank => other (isBlankChar_iff.1 blank)
  rw [trim, parts, trimChars, List.append_assoc, List.dropWhile_append_of_pos (blank blank_before)]
  cases kept : trimmed.toList with
  | nil =>
    rw [List.nil_append, List.dropWhile_eq_nil_iff.2 (blank blank_after)]
    exact String.toList_inj.1 kept
  | cons char rest =>
    rw [kept] at first last
    rw [List.cons_append, List.dropWhile_cons_of_neg (solid (first char rfl)), ← List.cons_append,
      List.reverse_append,
      List.dropWhile_append_of_pos (blank fun char member =>
        blank_after char (List.mem_reverse.1 member))]
    cases turned : (char :: rest).reverse with
    | nil => simp at turned
    | cons final others =>
      have ending : final ∈ (char :: rest).getLast? := by
        rw [← List.head?_reverse, turned]
        rfl
      rw [List.dropWhile_cons_of_neg (solid (last final ending)), ← turned, List.reverse_reverse,
        ← kept, String.ofList_toList]

end Blank

/-! ### URLs and levels -/

namespace Settings

variable {value : String}

/-- What speaks against a URL, by what was read of it. -/
def judgeUrl : Except UrlFault Url → Option UrlObjection
  | .error fault => some (.malformed fault)
  | .ok url =>
    if url.scheme = "http" ∨ url.scheme = "https" then none
    else some (.unsupportedScheme url.scheme)

theorem checkUrl_eq (value : String) :
    checkUrl value = judgeUrl (Url.parse (Blank.trim value)) := by
  rw [checkUrl]
  generalize Url.parse (Blank.trim value) = parsed
  cases parsed with
  | error fault => rfl
  | ok url => simp only [judgeUrl, Bool.or_eq_true, beq_iff_eq]

/-- A URL is in order if the trimmed text is one of HTTP. -/
theorem urlObjections_eq_nil_iff :
    urlObjections value = [] ↔ ∃ trimmed url, Blank.Trims value trimmed ∧
      Url.parse trimmed = .ok url ∧ (url.scheme = "http" ∨ url.scheme = "https") := by
  have trimmed : (∃ trimmed url, Blank.Trims value trimmed ∧ Url.parse trimmed = .ok url ∧
      (url.scheme = "http" ∨ url.scheme = "https")) ↔
      ∃ url, Url.parse (Blank.trim value) = .ok url ∧
        (url.scheme = "http" ∨ url.scheme = "https") := by
    simp only [Blank.trims_iff, exists_and_left, exists_eq_left]
  rw [trimmed, urlObjections, checkUrl_eq]
  generalize Url.parse (Blank.trim value) = parsed
  cases parsed with
  | error fault => simp [judgeUrl]
  | ok url => by_cases web : url.scheme = "http" ∨ url.scheme = "https" <;> simp [judgeUrl, web]

theorem mem_urlObjections {objection : Objection} (objected : objection ∈ urlObjections value) :
    urlObjections value = [objection] ∧ ∃ reason, objection = .badUrl value reason ∧
      ∀ trimmed, Blank.Trims value trimmed → judgeUrl (Url.parse trimmed) = some reason := by
  simp only [Blank.trims_iff, forall_eq, ← checkUrl_eq]
  rw [urlObjections] at objected ⊢
  cases judged : checkUrl value with
  | none =>
    rw [judged] at objected
    cases objected
  | some reason =>
    rw [judged] at objected
    cases List.mem_singleton.1 objected
    exact ⟨rfl, reason, rfl, rfl⟩

end Settings

theorem LogLevel.isSome_ofName?_iff {text : String} :
    (ofName? text).isSome = true ↔
      Ascii.lower text ∈ ["trace", "debug", "info", "warn", "error"] := by
  have names : ["trace", "debug", "info", "warn", "error"] = all.map name := rfl
  have every (level : LogLevel) : level ∈ all := by cases level <;> decide
  rw [Option.isSome_iff_exists, names, List.mem_map]
  simp only [ofName?_eq_some_iff, every, true_and]
  exact exists_congr fun level => eq_comm

/-! ### Demands -/

/-- What is demanded of settings. -/
inductive Demand where
  | bindAddress
  | environment
  | burnIterations
  | outboundUrl
  | outboundSeconds
  | requestSeconds
  | logLevel
  | metricsAddress
  deriving DecidableEq, Repr

/-- The setting that an objection is to. -/
def Objection.demand : Objection → Demand
  | badAddress .bindAddress _ => .bindAddress
  | blankEnvironment => .environment
  | zero .burnIterations => .burnIterations
  | badUrl _ _ => .outboundUrl
  | zero .outboundTimeout => .outboundSeconds
  | zero .requestTimeout => .requestSeconds
  | unknownLevel _ => .logLevel
  | badAddress .metricsAddress _ => .metricsAddress

/-- The demand that a setting has a part in, if it has in any. -/
def Setting.demand? : Setting → Option Demand
  | bindAddress => some .bindAddress
  | environment => some .environment
  | burnIterations => some .burnIterations
  | outboundUrl => some .outboundUrl
  | outboundSeconds => some .outboundSeconds
  | requestSeconds => some .requestSeconds
  | logLevel => some .logLevel
  | logFormat => none
  | metricsEnabled | metricsAddress => some .metricsAddress

namespace Demand

/-- All demands, in the order of the fields. -/
def all : List Demand :=
  [bindAddress, environment, burnIterations, outboundUrl, outboundSeconds, requestSeconds, logLevel,
    metricsAddress]

/-- What the demands are. -/
def Met (settings : Settings) : Demand → Prop
  | bindAddress => ListenAddress.Writes settings.listener.bindAddress
  | environment =>
    ∃ char ∈ settings.operation.environment.toList, char.toNat ∉ whiteSpace
  | burnIterations => 0 < settings.operation.burnIterations
  | outboundUrl => ∃ trimmed url, Blank.Trims settings.outbound.url trimmed ∧
    Url.parse trimmed = .ok url ∧ (url.scheme = "http" ∨ url.scheme = "https")
  | outboundSeconds => settings.outbound.timeoutSeconds ≠ some 0
  | requestSeconds => settings.timeouts.requestSeconds ≠ some 0
  | logLevel => Ascii.lower settings.observability.logLevel ∈
    ["trace", "debug", "info", "warn", "error"]
  | metricsAddress => settings.observability.metricsEnabled = false ∨
    ∃ address, SocketAddress.parse? settings.observability.metricsAddress = some address

/-- What is reported of a demand that is not met. -/
def Reports (settings : Settings) : Demand → Objection → Prop
  | bindAddress, objection =>
    objection = .badAddress .bindAddress settings.listener.bindAddress
  | environment, objection => objection = .blankEnvironment
  | burnIterations, objection => objection = .zero .burnIterations
  | outboundUrl, objection => ∃ reason, objection = .badUrl settings.outbound.url reason ∧
    ∀ trimmed, Blank.Trims settings.outbound.url trimmed →
      Settings.judgeUrl (Url.parse trimmed) = some reason
  | outboundSeconds, objection => objection = .zero .outboundTimeout
  | requestSeconds, objection => objection = .zero .requestTimeout
  | logLevel, objection => objection = .unknownLevel settings.observability.logLevel
  | metricsAddress, objection =>
    objection = .badAddress .metricsAddress settings.observability.metricsAddress

/-- The objections that a demand makes. -/
def objections (settings : Settings) : Demand → List Objection
  | bindAddress =>
    Settings.require (ListenAddress.isListenAddress settings.listener.bindAddress)
      (.badAddress .bindAddress settings.listener.bindAddress)
  | environment =>
    Settings.require (!Blank.isBlank settings.operation.environment) .blankEnvironment
  | burnIterations =>
    Settings.require (settings.operation.burnIterations != 0) (.zero .burnIterations)
  | outboundUrl => Settings.urlObjections settings.outbound.url
  | outboundSeconds =>
    Settings.require (settings.outbound.timeoutSeconds != some 0) (.zero .outboundTimeout)
  | requestSeconds =>
    Settings.require (settings.timeouts.requestSeconds != some 0) (.zero .requestTimeout)
  | logLevel =>
    Settings.require (LogLevel.ofName? settings.observability.logLevel).isSome
      (.unknownLevel settings.observability.logLevel)
  | metricsAddress => Settings.metricsObjections settings.observability

theorem mem_all (demand : Demand) : demand ∈ all := by
  cases demand <;> decide

end Demand

/-- The objections to settings are those of the demands one after the other. -/
theorem Settings.objections_eq_flatMap (settings : Settings) :
    settings.objections = Demand.all.flatMap (Demand.objections settings) := by
  simp only [Demand.all, List.flatMap_cons, List.flatMap_nil, List.append_nil, Demand.objections,
    objections, List.append_assoc]

namespace Demand

variable {settings first second : Settings} {demand : Demand} {objection : Objection}

/-- A demand that is met makes no objection, and one that is not makes some. -/
theorem objections_eq_nil_iff : demand.objections settings = [] ↔ demand.Met settings := by
  cases demand with
  | outboundUrl =>
    simp only [objections, Met]
    exact Settings.urlObjections_eq_nil_iff
  | bindAddress =>
    simp only [objections, Met, Settings.require_eq_nil, ListenAddress.isListenAddress_iff]
  | environment =>
    simp only [objections, Met, Settings.require_eq_nil, Bool.not_eq_true',
      Blank.isBlank_eq_false_iff]
  | burnIterations =>
    simp only [objections, Met, Settings.require_eq_nil, bne_iff_ne, UInt64.pos_iff_ne_zero]
  | outboundSeconds | requestSeconds =>
    simp only [objections, Met, Settings.require_eq_nil, bne_iff_ne]
  | logLevel =>
    simp only [objections, Met, Settings.require_eq_nil, LogLevel.isSome_ofName?_iff]
  | metricsAddress =>
    simp only [objections, Met, Settings.metricsObjections, Settings.require_eq_nil,
      Bool.or_eq_true, Bool.not_eq_true', Option.isSome_iff_exists]

instance (settings : Settings) : DecidablePred (Met settings) := fun _ =>
  decidable_of_iff _ objections_eq_nil_iff

/-- A demand makes one objection at most, and that is what is reported of it. -/
theorem reports_of_mem (objected : objection ∈ demand.objections settings) :
    demand.objections settings = [objection] ∧ demand.Reports settings objection := by
  cases demand with
  | outboundUrl =>
    simp only [objections, Reports] at objected ⊢
    exact Settings.mem_urlObjections objected
  | bindAddress | environment | burnIterations | outboundSeconds | requestSeconds | logLevel
  | metricsAddress =>
    simp only [objections, Settings.metricsObjections, Reports] at objected ⊢
    exact Settings.require_of_mem objected

/-- What is reported of a demand is an objection to that. -/
theorem Reports.demand_eq (reports : demand.Reports settings objection) :
    objection.demand = demand := by
  cases demand with
  | outboundUrl =>
    obtain ⟨reason, rfl, -⟩ := reports
    rfl
  | bindAddress | environment | burnIterations | outboundSeconds | requestSeconds | logLevel
  | metricsAddress =>
    cases reports
    rfl

/-- Of some demands after each other, those that are not met are reported, each once. -/
theorem forall₂_reports (settings : Settings) (demands : List Demand) :
    List.Forall₂ (Reports settings) (demands.filter fun demand => ¬ demand.Met settings)
      (demands.flatMap (objections settings)) := by
  induction demands with
  | nil => exact .nil
  | cons demand rest inductionHypothesis =>
    rw [List.flatMap_cons]
    cases own : demand.objections settings with
    | nil =>
      rw [List.filter_cons_of_neg (by simpa using objections_eq_nil_iff.1 own)]
      exact inductionHypothesis
    | cons objection others =>
      obtain ⟨single, reports⟩ := reports_of_mem (own ▸ List.mem_cons_self)
      have unmet : ¬ demand.Met settings := fun met => by
        rw [objections_eq_nil_iff.2 met] at single
        cases single
      rw [List.filter_cons_of_pos (by simpa using unmet), ← own, single]
      exact .cons reports inductionHypothesis

/-- The objections that a demand makes depend on the settings that have a part in it. -/
theorem objections_congr (same : ∀ setting : Setting, setting.demand? = some demand →
      setting.get first = setting.get second) :
    demand.objections first = demand.objections second := by
  cases demand with
  | bindAddress =>
    have own : first.listener.bindAddress = second.listener.bindAddress := same .bindAddress rfl
    simp only [objections, own]
  | environment =>
    have own : first.operation.environment = second.operation.environment :=
      same .environment rfl
    simp only [objections, own]
  | burnIterations =>
    have own : first.operation.burnIterations = second.operation.burnIterations :=
      same .burnIterations rfl
    simp only [objections, own]
  | outboundUrl =>
    have own : first.outbound.url = second.outbound.url := same .outboundUrl rfl
    simp only [objections, own]
  | outboundSeconds =>
    have own : first.outbound.timeoutSeconds = second.outbound.timeoutSeconds :=
      same .outboundSeconds rfl
    simp only [objections, own]
  | requestSeconds =>
    have own : first.timeouts.requestSeconds = second.timeouts.requestSeconds :=
      same .requestSeconds rfl
    simp only [objections, own]
  | logLevel =>
    have own : first.observability.logLevel = second.observability.logLevel :=
      same .logLevel rfl
    simp only [objections, own]
  | metricsAddress =>
    have enabled : first.observability.metricsEnabled = second.observability.metricsEnabled :=
      same .metricsEnabled rfl
    have own : first.observability.metricsAddress = second.observability.metricsAddress :=
      same .metricsAddress rfl
    simp only [objections, Settings.metricsObjections, enabled, own]

/-- Without those to one setting, the objections are those of demands in which it has no part. -/
theorem filter_objections {setting : Setting}
    (same : ∀ other, other ≠ setting → other.get first = other.get second) (demand : Demand) :
    (demand.objections first).filter (fun objection => some objection.demand ≠ setting.demand?) =
      (demand.objections second).filter fun objection =>
        some objection.demand ≠ setting.demand? := by
  by_cases own : some demand = setting.demand?
  · have none (settings : Settings) : (demand.objections settings).filter
        (fun objection => some objection.demand ≠ setting.demand?) = [] := by
      refine List.filter_eq_nil_iff.2 fun objection member => ?_
      simp [(reports_of_mem member).2.demand_eq, own]
    rw [none, none]
  · rw [objections_congr fun other part => same other ?_]
    rintro rfl
    exact own part.symm

end Demand

namespace Settings

variable {settings : Settings}

/-- Settings are valid if they meet all demands. -/
theorem objections_eq_nil_iff :
    settings.objections = [] ↔ ∀ demand : Demand, demand.Met settings := by
  rw [objections_eq_flatMap, List.flatMap_eq_nil_iff]
  simp only [Demand.mem_all, forall_const, Demand.objections_eq_nil_iff]

/-- Every objection is made by the demand that it is to. -/
theorem mem_objections {objection : Objection} :
    objection ∈ settings.objections ↔ objection ∈ objection.demand.objections settings := by
  rw [objections_eq_flatMap, List.mem_flatMap]
  refine ⟨fun ⟨demand, _, made⟩ => ?_, fun made => ⟨_, Demand.mem_all _, made⟩⟩
  rwa [(Demand.reports_of_mem made).2.demand_eq]

/-- Settings are valid if they meet all demands, and otherwise the demands that they do not meet are
reported, each once and in their order. A setting has a part in what is reported of its own demand
and of no other. -/
theorem demands_reported (settings : Settings) :
    (settings.objections = [] ↔ ∀ demand : Demand, demand.Met settings) ∧
      List.Forall₂ (Demand.Reports settings)
        (Demand.all.filter fun demand => ¬ demand.Met settings) settings.objections ∧
      ∀ (other : Settings) (setting : Setting),
        (∀ kept, kept ≠ setting → kept.get other = kept.get settings) →
          other.objections.filter (fun objection => some objection.demand ≠ setting.demand?) =
            settings.objections.filter fun objection =>
              some objection.demand ≠ setting.demand? := by
  refine ⟨objections_eq_nil_iff, ?_, fun other setting same => ?_⟩
  · rw [objections_eq_flatMap]
    exact Demand.forall₂_reports settings Demand.all
  · rw [objections_eq_flatMap, objections_eq_flatMap, List.filter_flatMap, List.filter_flatMap]
    exact List.flatMap_congr fun demand _ => Demand.filter_objections same demand

/-- Without the metrics, nothing is reported of their address any more, and all the rest is. -/
theorem demands_reported_without_metrics :
    let settings : Settings :=
      { operation := { environment := "\t" }, outbound := { url := " ftp://[::1]/" },
        observability := { logLevel := "Loud ", metricsEnabled := true, metricsAddress := "nope" } }
    let other : Settings :=
      { settings with
          observability := { settings.observability with metricsEnabled := false } }
    settings.objections =
        [.blankEnvironment, .badUrl " ftp://[::1]/" (.unsupportedScheme "ftp"),
          .unknownLevel "Loud ", .badAddress .metricsAddress "nope"] ∧
      ¬ Demand.logLevel.Met settings ∧
      other.objections.filter (fun objection =>
          some objection.demand ≠ Setting.metricsEnabled.demand?) =
        [.blankEnvironment, .badUrl " ftp://[::1]/" (.unsupportedScheme "ftp"),
          .unknownLevel "Loud "] := by
  intro settings other
  have found : settings.objections =
      [.blankEnvironment, .badUrl " ftp://[::1]/" (.unsupportedScheme "ftp"),
        .unknownLevel "Loud ", .badAddress .metricsAddress "nope"] := by
    decide +kernel
  obtain ⟨-, -, apart⟩ := demands_reported settings
  have kept (setting : Setting) (different : setting ≠ .metricsEnabled) :
      setting.get other = setting.get settings := by
    cases setting <;> first | rfl | exact absurd rfl different
  refine ⟨found, by decide +kernel, ?_⟩
  rw [apart other .metricsEnabled kept, found]
  rfl

/-- What is reported of a blank environment does not tell which blanks it is made of, and so the
value that is configured is not in it. -/
theorem blanks_reported_alike :
    let blank (environment : String) : Settings :=
      { operation := { environment }, outbound := { url := "http://[::1]/" } }
    (blank " ").objections = [.blankEnvironment] ∧ (blank "\t").objections = [.blankEnvironment] ∧
      ¬ ∃ value : Objection → String, ∀ settings : Settings, ∀ objection ∈ settings.objections,
        objection.demand = .environment → value objection = settings.operation.environment := by
  intro blank
  have first : (blank " ").objections = [.blankEnvironment] := by decide +kernel
  have second : (blank "\t").objections = [.blankEnvironment] := by decide +kernel
  refine ⟨first, second, fun ⟨value, carried⟩ => ?_⟩
  have space := carried (blank " ") .blankEnvironment (by rw [first]; exact List.mem_cons_self) rfl
  have tab := carried (blank "\t") .blankEnvironment (by rw [second]; exact List.mem_cons_self) rfl
  exact absurd (space.symm.trans tab) (by decide)

end Settings

end LatencyService
