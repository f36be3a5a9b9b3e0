/-
Why a request gets no result, and the response that says so: a status, and a
JSON object with a code, a text and, for violated constraints, a list of them.
-/

import LatencyService.Http.Message
import LatencyService.Json.Printer
import LatencyService.Observability.Event

namespace LatencyService.Http

/-- Why a request gets no result. A client for relayed calls that cannot be built is no such reason:
it is built when the service starts, which otherwise takes no request at all. -/
inductive Problem where
  /-- Constraints are violated. -/
  | invalid (details : List String)
  /-- The body cannot be read as what it has to be. -/
  | malformed (status : Nat) (reason : String)
  /-- The service is shutting down. -/
  | aborted
  /-- The busy loop did not come to its end. -/
  | workerFailed (reason : String)
  /-- The relayed call brought no response. -/
  | relayFailed (url reason : String)
  deriving DecidableEq, Repr

namespace Problem

/-- The status of the response. -/
def status : Problem → Nat
  | invalid _ => 400
  | malformed status _ => status
  | aborted => 503
  | workerFailed _ => 500
  | relayFailed .. => 502

/-- The code of the problem. -/
def code : Problem → String
  | invalid _ => "validation_failed"
  | malformed .. => "malformed_body"
  | aborted => "operation_aborted"
  | workerFailed _ => "internal_error"
  | relayFailed .. => "outbound_call_failed"

/-- The problem in words. -/
def message : Problem → String
  | invalid details => "validation failed: " ++ String.intercalate ", " details
  | malformed _ reason => "malformed request body: " ++ reason
  | aborted => "operation aborted: delay interrupted by shutdown"
  | workerFailed reason => "busy loop task failed: " ++ reason
  | relayFailed url reason => "request to " ++ url ++ " failed: " ++ reason

/-- The list of violated constraints. -/
def details : Problem → List String
  | invalid details => details
  | _ => []

/-- The body of the response. -/
def document (problem : Problem) : String :=
  Json.object
    ([("error", Json.quote problem.code), ("message", Json.quote problem.message)] ++
      if problem.details.isEmpty then []
      else [("details", Json.array (problem.details.map Json.quote))])

/-- The response. -/
def response (problem : Problem) : Response := .json problem.status problem.document

/-- What is logged: a failure is the fault of the service, anything else that of the request. -/
def event (problem : Problem) : Event :=
  if 500 ≤ problem.status && problem.status < 600 then
    .requestFailed problem.message problem.status
  else .requestRejected problem.message problem.status

end Problem

end LatencyService.Http
