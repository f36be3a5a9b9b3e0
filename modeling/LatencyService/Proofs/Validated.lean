/-
What valid settings are good for. Four parts of the service use settings later on,
each in a way of its own: the metrics read their address again, the relayed call
trims its URL again, the limits on time become points in time, and the filter of
the log folds the name of its level once more. None of them meets anything there
that the validation has not seen, and so none of them fails.

The filter is as strict as the validation: it has one of its five standard texts
for the names of levels alone, whatever else is configured as a level.
-/

import LatencyService.Proofs.Beginning
import LatencyService.Proofs.Demands

namespace LatencyService

/-! ### Metrics -/

namespace CommandLine

/-- The metrics of valid settings have an address that can be read. -/
theorem MetricsStart.readable {settings : Settings} (valid : Demand.metricsAddress.Met settings) :
    ofSettings settings.observability ≠ unreadable := by
  intro unread
  rw [ofSettings] at unread
  split at unread
  · rename_i enabled
    split at unread
    · split at unread <;> cases unread
    · rename_i unparsed
      rcases valid with disabled | ⟨address, parsed⟩
      · rw [disabled] at enabled
        cases enabled
      · rw [parsed] at unparsed
        cases unparsed
  · cases unread

namespace Launch

variable {settings logged : Settings} {events : List Event}

/-- The metrics alone complain about their address. -/
theorem unreadable_of_mem {address : String}
    (there : .metricsUnreadable address ∈ eventsOf settings) :
    MetricsStart.ofSettings settings.observability = .unreadable := by
  rw [eventsOf] at there
  cases start : MetricsStart.ofSettings settings.observability with
  | unreadable => rfl
  | off | notLocal | listening => simp [start, MetricsStart.events] at there

/-- Once the settings are valid, the log begins with what the start has to say, and only the
listening comes behind that. -/
theorem logged_ofSettings (known : (ofSettings settings).logged? = some (logged, events)) :
    logged = settings ∧ ∃ later, events = eventsOf settings ++ later ∧
      ∀ address, .metricsUnreadable address ∉ later := by
  unfold ofSettings at known
  dsimp only at known
  split at known
  · cases known
    exact ⟨rfl, [], (List.append_nil _).symm, fun _ => List.not_mem_nil⟩
  · cases known
    exact ⟨rfl, _, rfl, fun _ => by simp⟩

/-- A start that gets so far as to log has valid settings. -/
theorem valid_of_logged {arguments : List String} {lookup : String → Option String}
    {files : String → FoundFile}
    (known : (run arguments lookup files).logged? = some (logged, events)) :
    logged.objections = [] ∧ (ofSettings logged).logged? = some (logged, events) := by
  cases accepted : Arguments.parse arguments with
  | error usage =>
    rw [run, accepted] at known
    cases usage <;> cases known
  | ok given =>
    cases loaded : settingsOf given lookup files with
    | error fault =>
      rw [run_of_fault accepted loaded] at known
      cases known
    | ok settings =>
      rw [run_of_settings accepted loaded, validated] at known
      split at known
      · rename_i valid
        obtain ⟨rfl, -⟩ := logged_ofSettings known
        exact ⟨valid, known⟩
      · cases known

end Launch

end CommandLine

/-! ### Limits on time -/

namespace Service

variable {deployment : Deployment} {service : Service} {exchange : Exchange} {header : Header}
  {task : Task}

/-- A request is given up later than it comes. -/
theorem deadlineOf_later_of_met (met : Demand.requestSeconds.Met deployment.settings) :
    ∀ deadline ∈ service.deadlineOf deployment, service.now < deadline := by
  intro deadline there
  obtain ⟨seconds, configured, rfl⟩ := Option.map_eq_some_iff.1 there
  have positive := positive_of_limit met seconds configured
  omega

/-- A relayed call that goes on is given up when so many seconds have passed as are configured, if
any are. -/
theorem stage_of_relayBirth
    (begins : service.relayBirth deployment exchange header = .begins task) :
    ∃ url, task.stage = .relaying url (deployment.settings.outbound.timeoutSeconds.map
      fun seconds => service.now + 1000 * seconds.toNat) := by
  rw [relayBirth] at begins
  extract_lets settings at begins
  split at begins
  · cases begins
  · cases begins
  · cases begins
    exact ⟨_, rfl⟩

/-- A relayed call is given up later than it begins. -/
theorem giveUp_later_of_met (met : Demand.outboundSeconds.Met deployment.settings) {url : Url}
    {giveUp : Nat} (begins : service.relayBirth deployment exchange header = .begins task)
    (relays : task.stage = .relaying url (some giveUp)) : service.now < giveUp := by
  obtain ⟨_, stage⟩ := stage_of_relayBirth begins
  obtain ⟨seconds, configured, rfl⟩ :=
    Option.map_eq_some_iff.1 (Stage.relaying.inj (stage.symm.trans relays)).2
  have positive := positive_of_limit met seconds configured
  omega

end Service

/-! ### The filter of the log -/

/-- The standard filter of a level. -/
def LogLevel.directives : LogLevel → String
  | trace => "demo_service=trace,tower_http=trace"
  | debug => "demo_service=debug,tower_http=debug"
  | info => "demo_service=info,tower_http=info"
  | warn => "demo_service=warn,tower_http=warn"
  | error => "demo_service=error,tower_http=error"

namespace LogFilter

theorem toList_standardText (level : String) :
    (standardText level).toList =
      "demo_service=".toList ++ ((Ascii.lower level).toList ++
        (",tower_http=".toList ++ (Ascii.lower level).toList)) := by
  have joined : standardText level =
      "demo_service=" ++ Ascii.lower level ++ "," ++ ("tower_http=" ++ Ascii.lower level) := rfl
  rw [joined]
  simp only [String.toList_append, List.append_assoc]
  rfl

/-- The standard filter shows the level it is for in small letters. -/
theorem standardText_inj {first second : String} (same : standardText first = standardText second) :
    Ascii.lower first = Ascii.lower second := by
  have written := congrArg String.toList same
  rw [toList_standardText, toList_standardText, List.append_cancel_left_eq] at written
  -- the level stands there twice, so that the whole has the length of both if they do
  have lengths := congrArg List.length written
  simp only [List.length_append] at lengths
  exact String.toList_inj.1 (List.append_inj written (by omega)).1

/-- The standard filter of a text is that of a level if the text is its name. -/
theorem standardText_eq_iff {text : String} {level : LogLevel} :
    standardText text = level.directives ↔ Ascii.lower text = level.name := by
  have named : standardText level.name = level.directives := by cases level <;> rfl
  have small : Ascii.lower level.name = level.name := by cases level <;> rfl
  constructor
  · intro same
    rw [standardText_inj (same.trans named.symm), small]
  · intro same
    rw [← named, standardText, standardText, same, small]

end LogFilter

/-! ### Valid settings -/

namespace Settings

/-- The settings that a start gets so far as to log with are valid, and whoever uses valid settings
can: the address of the metrics is one, so that the log does not complain of it; the URL of the
relayed call, which is the very text that was validated, is one of HTTP; each time limit that is
configured ends when so many seconds have passed, which is later than it begins; and the filter of
the log is the standard one of a level. No other text that is configured as a level has such a
filter. -/
theorem valid_settings_usable :
    (∀ (arguments : List String) (lookup : String → Option String) (files : String → FoundFile)
        (settings : Settings) (events : List Event),
      (CommandLine.Launch.run arguments lookup files).logged? = some (settings, events) →
      settings.objections = [] ∧ ∀ address, .metricsUnreadable address ∉ events) ∧
    (∀ settings : Settings, settings.objections = [] →
      (settings.observability.metricsEnabled = true → ∃ address,
        SocketAddress.parse? settings.observability.metricsAddress = some address) ∧
      CommandLine.MetricsStart.ofSettings settings.observability ≠ .unreadable ∧
      (∃ url, Url.parse (Relay.target settings.outbound) = .ok url ∧
        (url.scheme = "http" ∨ url.scheme = "https")) ∧
      (∀ (deployment : Deployment) (service : Service), deployment.settings = settings →
        (∀ deadline ∈ service.deadlineOf deployment, service.now < deadline) ∧
        (∀ exchange header task url giveUp,
          service.relayBirth deployment exchange header = .begins task →
          task.stage = .relaying url (some giveUp) → service.now < giveUp) ∧
        (∀ seconds ∈ settings.timeouts.requestSeconds, 0 < seconds.toNat ∧
          service.deadlineOf deployment = some (service.now + 1000 * seconds.toNat)) ∧
        ∀ seconds ∈ settings.outbound.timeoutSeconds, 0 < seconds.toNat ∧
          ∀ exchange header task, service.relayBirth deployment exchange header = .begins task →
            ∃ url, task.stage = .relaying url (some (service.now + 1000 * seconds.toNat))) ∧
      ∃ level : LogLevel, level.name = Ascii.lower settings.observability.logLevel ∧
        LogFilter.standardText settings.observability.logLevel = level.directives) ∧
    (∀ outbound : OutboundSettings,
      checkUrl outbound.url = judgeUrl (Url.parse (Relay.target outbound))) ∧
    ∀ (settings : Settings) (level : LogLevel),
      LogFilter.standardText settings.observability.logLevel = level.directives →
      ∀ value, .unknownLevel value ∉ settings.objections := by
  refine ⟨fun arguments lookup files settings events known => ?_, fun settings valid => ?_,
    fun outbound => checkUrl_eq outbound.url, fun settings level same value objected => ?_⟩
  · obtain ⟨valid, starts⟩ := CommandLine.Launch.valid_of_logged known
    obtain ⟨-, later, rfl, silent⟩ := CommandLine.Launch.logged_ofSettings starts
    refine ⟨valid, fun address there => ?_⟩
    rcases List.mem_append.1 there with early | late
    · exact CommandLine.MetricsStart.readable (objections_eq_nil_iff.1 valid .metricsAddress)
        (CommandLine.Launch.unreadable_of_mem early)
    · exact silent address late
  · have met := objections_eq_nil_iff.1 valid
    refine ⟨fun enabled => ?_, CommandLine.MetricsStart.readable (met .metricsAddress), ?_, ?_, ?_⟩
    · exact (met .metricsAddress).resolve_left (by simp [enabled])
    · obtain ⟨trimmed, url, trims, parsed, web⟩ := met .outboundUrl
      rw [Blank.trims_iff.1 trims] at parsed
      exact ⟨url, parsed, web⟩
    · rintro deployment service rfl
      refine ⟨Service.deadlineOf_later_of_met (met .requestSeconds),
        fun exchange header task url giveUp => Service.giveUp_later_of_met (met .outboundSeconds),
        fun seconds configured => ⟨positive_of_limit (met .requestSeconds) seconds configured,
          Service.deadlineOf_eq configured⟩,
        fun seconds configured => ⟨positive_of_limit (met .outboundSeconds) seconds configured,
          fun exchange header task begins => ?_⟩⟩
      obtain ⟨url, stage⟩ := Service.stage_of_relayBirth begins
      rw [Option.mem_def.1 configured] at stage
      exact ⟨url, stage⟩
    · obtain ⟨level, found⟩ := Option.isSome_iff_exists.1
        (LogLevel.isSome_ofName?_iff.2 (met .logLevel))
      have named := LogLevel.ofName?_eq_some_iff.1 found
      exact ⟨level, named.symm, LogFilter.standardText_eq_iff.2 named⟩
  · have found := LogLevel.ofName?_eq_some_iff.2 (LogFilter.standardText_eq_iff.1 same)
    have met : Demand.logLevel.Met settings := LogLevel.isSome_ofName?_iff.1 (by rw [found]; rfl)
    have made := mem_objections.1 objected
    rw [Objection.demand, Demand.objections_eq_nil_iff.2 met] at made
    cases made

/-- Settings with blanks around their URL, zeros in front of a port and a capital in their level. -/
def spaced : Settings where
  outbound := { url := "\u3000http://[::1]/in\t", timeoutSeconds := some 1 }
  timeouts := { requestSeconds := some 2 }
  observability :=
    { logLevel := "Warn", metricsEnabled := true, metricsAddress := "127.0.0.1:0090" }

/-- A service whose calls are never answered. -/
def unanswered : Service where
  backend :=
    { address := some (.version6 [0, 0, 0, 0, 0, 0, 0, 1], 80), replies := [.silent] }
  now := 7

/-- Settings are used just as they were validated. -/
theorem valid_settings_usable_spaced :
    let deployment : Deployment := ⟨spaced, fun _ => ""⟩
    let exchange : Exchange :=
      { route := .relay, identifier := [], isHead := false, deadline := none }
    (∃ settings events, (CommandLine.Launch.run ["-b", "localhost:0"]
        (fun name => [("DEMO_OUTBOUND_URL", "http://[::1]/")].lookup name)
        fun _ => .missing).logged? = some (settings, events) ∧ settings.objections = []) ∧
      spaced.objections = [] ∧
      (∃ address, SocketAddress.parse? "127.0.0.1:0090" = some address) ∧
      (∃ url, Url.parse (Relay.target spaced.outbound) = .ok url ∧
        (url.scheme = "http" ∨ url.scheme = "https")) ∧
      (∀ deadline ∈ unanswered.deadlineOf deployment, 7 < deadline) ∧
      unanswered.deadlineOf deployment = some 2007 ∧
      (∃ task url, unanswered.relayBirth deployment exchange {} = .begins task ∧
        task.stage = .relaying url (some 1007) ∧ 7 < 1007) ∧
      (∃ level : LogLevel, level.name = "warn" ∧
        LogFilter.standardText "Warn" = level.directives) ∧
      ∀ value, .unknownLevel value ∉ spaced.objections := by
  intro deployment exchange
  obtain ⟨logging, usable, -, strict⟩ := valid_settings_usable
  have valid : spaced.objections = [] := by decide +kernel
  obtain ⟨metrics, -, url, times, level⟩ := usable spaced valid
  have logs : (CommandLine.Launch.run ["-b", "localhost:0"]
      (fun name => [("DEMO_OUTBOUND_URL", "http://[::1]/")].lookup name)
      fun _ => .missing).logged?.isSome = true := by decide +kernel
  obtain ⟨⟨settings, events⟩, known⟩ := Option.isSome_iff_exists.1 logs
  obtain ⟨later, laterCall, due, dueCall⟩ := times deployment unanswered rfl
  refine ⟨⟨settings, events, known, (logging _ _ _ _ _ known).1⟩, valid, metrics rfl, url, later,
    (due 2 rfl).2, ?_, level, strict spaced .warn rfl⟩
  have hangs : (match (Relay.run spaced.outbound unanswered.backend).1 with
      | .pending _ => true
      | .relayed _ | .failed _ => false) = true := by decide +kernel
  cases outcome : (Relay.run spaced.outbound unanswered.backend).1 with
  | pending url =>
    have begins : unanswered.relayBirth deployment exchange {} =
        .begins
          { serial := 0, purpose := .relay exchange {}, started := 7,
            stage := .relaying url (some 1007) } := by
      simp only [Service.relayBirth, deployment, outcome]
      rfl
    obtain ⟨url, stage⟩ := (dueCall 1 rfl).2 _ _ _ begins
    exact ⟨_, url, begins, stage, laterCall _ _ _ url _ begins stage⟩
  | relayed | failed =>
    rw [outcome] at hangs
    cases hangs

end Settings

end LatencyService
