/-
What the service writes to its log. Each event has a level, a source, a text
and fields; a request opens a span of its own, which has fields alone.
-/

import LatencyService.Observability.Filter
import LatencyService.Tree

namespace LatencyService

/-- Something the service logs. -/
inductive Event where
  | starting (version : String)
  | configurationLoaded (bindAddress environment : String) (requestTimeout : Option UInt64)
  | metricsListening (address : String)
  | metricsFailed (reason : String)
  | metricsUnreadable (address : String)
  | listening (address : String)
  | serverInitialized (environment outboundUrl : String)
  | serverStarting (address : String)
  | demoRequest (messageId sequence : String) (delay rounds : Int32)
  | busyLoopFinished (rounds matched : UInt64)
  | operationComplete (delaySeconds rounds : UInt64) (elapsedMilliseconds : Nat)
  | delayInterrupted (delaySeconds : UInt64)
  | serviceFailed (reason : String)
  | requestFailed (reason : String) (status : Nat)
  | requestRejected (reason : String) (status : Nat)
  | routingStub (messageId : String)
  | restRequest (url method : String)
  | sendRequest (body : String)
  | outboundFailed (url reason : String)
  | restResponse (status : Nat) (reason : String)
  | gotResponse (body : String)
  | relayFinished (status : Nat)
  | healthCheck
  | signalReceived
  | serverStopped
  | shutdownComplete
  deriving DecidableEq, Repr

namespace Event

/-- How serious an event is. -/
def level : Event → LogLevel
  | demoRequest .. | starting .. | configurationLoaded .. | metricsListening .. | listening ..
  | serverInitialized .. | serverStarting .. | operationComplete .. | restRequest ..
  | restResponse .. | relayFinished .. | signalReceived | serverStopped | shutdownComplete => .info
  | busyLoopFinished .. | routingStub .. | sendRequest .. | gotResponse .. | healthCheck => .debug
  | delayInterrupted .. | requestRejected .. => .warn
  | metricsFailed .. | metricsUnreadable .. | serviceFailed .. | requestFailed ..
  | outboundFailed .. => .error

/-- The part of the service that an event comes from. -/
def source : Event → String
  | starting .. | configurationLoaded .. | metricsFailed .. | metricsUnreadable .. | listening ..
  | shutdownComplete => "demo_service"
  | metricsListening .. => "demo_service::observability::metrics"
  | serverInitialized .. | serverStarting .. | serverStopped => "demo_service::http::server"
  | signalReceived => "demo_service::lifecycle::signals"
  | demoRequest .. | routingStub .. | relayFinished .. | healthCheck =>
    "demo_service::http::handlers"
  | requestFailed .. | requestRejected .. => "demo_service::http::response"
  | busyLoopFinished .. | operationComplete .. | delayInterrupted .. =>
    "demo_service::demo::operation"
  | serviceFailed .. => "demo_service::demo::service"
  | restRequest .. | sendRequest .. | outboundFailed .. | restResponse .. | gotResponse .. =>
    "demo_service::outbound::client"

/-- The text of an event. -/
def text : Event → String
  | starting version => "demo-service v" ++ version ++ " starting"
  | configurationLoaded .. => "Configuration loaded"
  | metricsListening .. => "Metrics exporter listening"
  | metricsFailed .. => "Failed to start metrics exporter"
  | metricsUnreadable .. => "Failed to parse metrics address"
  | listening .. => "Listening for connections"
  | serverInitialized .. => "HTTP server initialized"
  | serverStarting .. => "HTTP server starting"
  | demoRequest .. => "Demo request"
  | busyLoopFinished .. => "Busy loop finished"
  | operationComplete .. => "Demo operation complete"
  | delayInterrupted .. => "Delay interrupted by shutdown"
  | serviceFailed .. => "Demo service failed; returning default response"
  | requestFailed .. => "Request failed"
  | requestRejected .. => "Request rejected"
  | routingStub .. => "Routing stub invoked"
  | restRequest .. => "Rest request"
  | sendRequest .. => "Send request"
  | outboundFailed .. => "Outbound call failed"
  | restResponse .. => "Rest response"
  | gotResponse .. => "Get response"
  | relayFinished .. => "Relay finished"
  | healthCheck => "Health check"
  | signalReceived => "Shutdown signal received"
  | serverStopped => "HTTP server stopped"
  | shutdownComplete => "Shutdown complete"

/-- The fields of an event. -/
def fields : Event → List (String × Tree)
  | starting _ | healthCheck | signalReceived | serverStopped | shutdownComplete => []
  | configurationLoaded bindAddress environment requestTimeout =>
    [ ("bind_address", .text bindAddress), ("env", .text environment),
      ("request_timeout_secs", .text (match requestTimeout with
        | some seconds => "Some(" ++ toString seconds.toNat ++ ")"
        | none => "None")) ]
  | metricsListening address | listening address | serverStarting address =>
    [("address", .text address)]
  | metricsFailed reason => [("error", .text reason)]
  | metricsUnreadable address => [("metrics_address", .text address)]
  | serverInitialized environment outboundUrl =>
    [("env", .text environment), ("outbound_url", .text outboundUrl)]
  | demoRequest messageId sequence delay rounds =>
    [ ("msg_id", .text messageId), ("txn_seq", .text sequence), ("delay", .integer delay.toInt),
      ("for_count", .integer rounds.toInt) ]
  | busyLoopFinished rounds matched =>
    [("repeat_count", .integer rounds.toNat), ("matched", .integer matched.toNat)]
  | operationComplete delaySeconds rounds elapsed =>
    [ ("delay_secs", .integer delaySeconds.toNat), ("repeat_count", .integer rounds.toNat),
      ("elapsed_ms", .integer elapsed) ]
  | delayInterrupted delaySeconds => [("delay_secs", .integer delaySeconds.toNat)]
  | serviceFailed reason => [("error", .text reason)]
  | requestFailed reason status | requestRejected reason status =>
    [("error", .text reason), ("status", .integer status)]
  | routingStub messageId => [("msg_id", .text messageId)]
  | restRequest url method => [("uri", .text url), ("method", .text method)]
  | sendRequest body => [("body", .text body)]
  | outboundFailed url reason => [("uri", .text url), ("error", .text reason)]
  | restResponse status reason =>
    [("status_code", .integer status), ("status_text", .text reason)]
  | gotResponse body => [("body", .text body)]
  | relayFinished status => [("status_code", .integer status)]

end Event

/-- A line of the log. -/
inductive LogEntry where
  | event (event : Event)
  /-- A request begins; `identifier` is what the log calls it. -/
  | span (method path identifier : String)
  deriving DecidableEq, Repr

/-- The event that a line shows. -/
def LogEntry.event? : LogEntry → Option Event
  | .event logged => some logged
  | .span .. => none

end LatencyService
