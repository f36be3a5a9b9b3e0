/-
What settings have to fulfil before the service runs with them. Each field is
checked on its own, and the objections come in the order of the fields, at
most one for each.
-/

import LatencyService.Address.Listen
import LatencyService.Config.Settings
import LatencyService.Observability.Level
import LatencyService.Url.Reader

namespace LatencyService

/-- Why a text is no address of an HTTP service. -/
inductive UrlObjection where
  | malformed (fault : UrlFault)
  | unsupportedScheme (scheme : String)
  deriving DecidableEq, Repr

/-- The reason in words. -/
def UrlObjection.message : UrlObjection → String
  | malformed fault => fault.message
  | unsupportedScheme scheme => "unsupported scheme '" ++ scheme ++ "'"

/-- A field that holds an address. -/
inductive AddressField where
  | bindAddress
  | metricsAddress
  deriving DecidableEq, Repr

/-- The name of the field. -/
def AddressField.name : AddressField → String
  | bindAddress => "listener.bind_address"
  | metricsAddress => "observability.metrics_address"

/-- A field whose number has to be positive. -/
inductive PositiveField where
  | burnIterations
  | outboundTimeout
  | requestTimeout
  deriving DecidableEq, Repr

/-- The name of the field. -/
def PositiveField.name : PositiveField → String
  | burnIterations => "service.burn_iterations"
  | outboundTimeout => "outbound.timeout_secs"
  | requestTimeout => "timeouts.request_secs"

/-- What is wrong with a field, and the value as it is configured. -/
inductive Objection where
  | badAddress (field : AddressField) (value : String)
  | badUrl (value : String) (reason : UrlObjection)
  | zero (field : PositiveField)
  | blankEnvironment
  | unknownLevel (value : String)
  deriving DecidableEq, Repr

/-- The objection in words. -/
def Objection.message : Objection → String
  | badAddress field value => field.name ++ ": invalid socket address '" ++ value ++ "'"
  | badUrl value reason => "outbound.url: invalid URL '" ++ value ++ "': " ++ reason.message
  | zero field => field.name ++ ": must be greater than zero"
  | blankEnvironment => "service.env: must not be blank"
  | unknownLevel value => "observability.log_level: unknown level '" ++ value ++ "'"

/-- Objections in one line. -/
def Objection.summary (objections : List Objection) : String :=
  "Validation failed: " ++ String.intercalate ", " (objections.map message)

namespace Settings

/-! ### The checks -/

/-- An objection unless the condition holds. -/
def require (condition : Bool) (objection : Objection) : List Objection :=
  if condition then [] else [objection]

/-- There is no objection where the condition holds, and nowhere else. -/
theorem require_eq_nil {condition : Bool} {objection : Objection} :
    require condition objection = [] ↔ condition = true := by
  cases condition <;> simp [require]

/-- Where an objection is made, it is the given one and nothing else. -/
theorem require_of_mem {condition : Bool} {objection made : Objection}
    (member : made ∈ require condition objection) :
    require condition objection = [made] ∧ made = objection := by
  cases condition with
  | true => cases member
  | false =>
    cases List.mem_singleton.1 member
    exact ⟨rfl, rfl⟩

/-- What speaks against a URL: it has to be one with the scheme `http` or `https`, blanks around
it aside. -/
def checkUrl (value : String) : Option UrlObjection :=
  match Url.parse (Blank.trim value) with
  | .error fault => some (.malformed fault)
  | .ok url =>
    if url.scheme == "http" || url.scheme == "https" then none
    else some (.unsupportedScheme url.scheme)

/-- The objections to the URL of relayed calls. -/
def urlObjections (value : String) : List Objection :=
  match checkUrl value with
  | none => []
  | some reason => [.badUrl value reason]

/-- The objections to the address of the metrics, which matters only when there are metrics. -/
def metricsObjections (observability : ObservabilitySettings) : List Objection :=
  require (!observability.metricsEnabled ||
      (SocketAddress.parse? observability.metricsAddress).isSome)
    (.badAddress .metricsAddress observability.metricsAddress)

/-- All objections to the settings. -/
def objections (settings : Settings) : List Objection :=
  require (ListenAddress.isListenAddress settings.listener.bindAddress)
      (.badAddress .bindAddress settings.listener.bindAddress) ++
    require (!Blank.isBlank settings.operation.environment) .blankEnvironment ++
    require (settings.operation.burnIterations != 0) (.zero .burnIterations) ++
    urlObjections settings.outbound.url ++
    require (settings.outbound.timeoutSeconds != some 0) (.zero .outboundTimeout) ++
    require (settings.timeouts.requestSeconds != some 0) (.zero .requestTimeout) ++
    require (LogLevel.ofName? settings.observability.logLevel).isSome
      (.unknownLevel settings.observability.logLevel) ++
    metricsObjections settings.observability

end Settings

end LatencyService
