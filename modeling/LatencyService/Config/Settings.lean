/-
The settings of the service and their defaults. In a document the settings
form a table of sections, and each section a table of values; whatever is
missing, a section or a value, keeps its default.
-/

import LatencyService.Json.Printer
import LatencyService.Schema.Record

namespace LatencyService

/-- How log lines are written. -/
inductive LogFormat where
  | pretty
  | json
  deriving DecidableEq, Repr, Inhabited

/-- Where the service listens. -/
structure ListenerSettings where
  bindAddress : String := "0.0.0.0:8080"
  deriving DecidableEq, Repr, Inhabited

/-- The delayed operation. -/
structure OperationSettings where
  /-- The environment that answers name. -/
  environment : String := "local"
  /-- Matches in one round of the busy loop. -/
  burnIterations : UInt64 := 10000001
  deriving DecidableEq, Repr, Inhabited

/-- The relayed call. -/
structure OutboundSettings where
  url : String := "http://dgt-svc-cteam.midlxdgt02:8080/cteam-native/middleware/god"
  /-- Seconds until a relayed call is given up; without a value it is never. -/
  timeoutSeconds : Option UInt64 := none
  deriving DecidableEq, Repr, Inhabited

/-- Limits on the time that requests take. -/
structure TimeoutSettings where
  /-- Seconds until a request is answered without its result; without a value it is never. -/
  requestSeconds : Option UInt64 := none
  deriving DecidableEq, Repr, Inhabited

/-- Log and metrics. -/
structure ObservabilitySettings where
  logLevel : String := "info"
  logFormat : LogFormat := .pretty
  metricsEnabled : Bool := false
  metricsAddress : String := "0.0.0.0:9090"
  deriving DecidableEq, Repr, Inhabited

/-- The settings of the service. -/
structure Settings where
  listener : ListenerSettings := {}
  operation : OperationSettings := {}
  outbound : OutboundSettings := {}
  timeouts : TimeoutSettings := {}
  observability : ObservabilitySettings := {}
  deriving DecidableEq, Repr, Inhabited

/-! ### Reading -/

namespace LogFormat

/-- The names of the formats. -/
def variants : List (String × LogFormat) := [("pretty", .pretty), ("json", .json)]

/-- The name of a format. -/
def name : LogFormat → String
  | pretty => "pretty"
  | json => "json"

end LogFormat

/-- How the section is read. -/
def ListenerSettings.shape : Shape ListenerSettings :=
  Shape.record "ListenerConfig"
    [.of "bind_address" .anywhere Shape.text fun value part =>
      { part with bindAddress := value }] {}

/-- How the section is read. -/
def OperationSettings.shape : Shape OperationSettings :=
  Shape.record "DemoConfig"
    [ .of "env" .anywhere Shape.text fun value part =>
        { part with environment := value },
      .of "burn_iterations" .anywhere Shape.natural64 fun value part =>
        { part with burnIterations := value } ] {}

/-- How the section is read. -/
def OutboundSettings.shape : Shape OutboundSettings :=
  Shape.record "OutboundConfig"
    [ .of "url" .anywhere Shape.text fun value part => { part with url := value },
      .of "timeout_secs" .anywhere Shape.natural64.optional fun value part =>
        { part with timeoutSeconds := value } ] {}

/-- How the section is read. -/
def TimeoutSettings.shape : Shape TimeoutSettings :=
  Shape.record "TimeoutConfig"
    [.of "request_secs" .anywhere Shape.natural64.optional fun value part =>
      { part with requestSeconds := value }] {}

/-- How the section is read. -/
def ObservabilitySettings.shape : Shape ObservabilitySettings :=
  Shape.record "ObservabilityConfig"
    [ .of "log_level" .anywhere Shape.text fun value part =>
        { part with logLevel := value },
      .of "log_format" .anywhere (Shape.choice LogFormat.variants) fun value part =>
        { part with logFormat := value },
      .of "metrics_enabled" .anywhere Shape.boolean fun value part =>
        { part with metricsEnabled := value },
      .of "metrics_address" .anywhere Shape.text fun value part =>
        { part with metricsAddress := value } ] {}

namespace Settings

/-- How settings are read. -/
def shape : Shape Settings :=
  Shape.record "ServiceConfig"
    [ .of "listener" .anywhere ListenerSettings.shape fun value settings =>
        { settings with listener := value },
      .of "service" .anywhere OperationSettings.shape fun value settings =>
        { settings with operation := value },
      .of "outbound" .anywhere OutboundSettings.shape fun value settings =>
        { settings with outbound := value },
      .of "timeouts" .anywhere TimeoutSettings.shape fun value settings =>
        { settings with timeouts := value },
      .of "observability" .anywhere ObservabilitySettings.shape fun value settings =>
        { settings with observability := value } ] {}

/-! ### Writing -/

/-- An optional number as JSON text. -/
def renderNumber? (value : Option UInt64) : String :=
  match value with
  | some number => toString number.toNat
  | none => "null"

/-- Settings as JSON text, every value written out. -/
def render (settings : Settings) : String :=
  Json.object
    [ ("listener", Json.object [("bind_address", Json.quote settings.listener.bindAddress)]),
      ("service", Json.object
        [ ("env", Json.quote settings.operation.environment),
          ("burn_iterations", toString settings.operation.burnIterations.toNat) ]),
      ("outbound", Json.object
        [ ("url", Json.quote settings.outbound.url),
          ("timeout_secs", renderNumber? settings.outbound.timeoutSeconds) ]),
      ("timeouts", Json.object
        [("request_secs", renderNumber? settings.timeouts.requestSeconds)]),
      ("observability", Json.object
        [ ("log_level", Json.quote settings.observability.logLevel),
          ("log_format", Json.quote settings.observability.logFormat.name),
          ("metrics_enabled", if settings.observability.metricsEnabled then "true" else "false"),
          ("metrics_address", Json.quote settings.observability.metricsAddress) ]) ]

end Settings

end LatencyService
