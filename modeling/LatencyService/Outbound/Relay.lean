/-
The relayed call: a POST without a body to the configured URL. What it sends
depends on nothing but that URL and the replies it meets.
-/

import LatencyService.Config.Settings
import LatencyService.Http.Problem
import LatencyService.Http.Status
import LatencyService.Observability.Metrics
import LatencyService.Outbound.Call
import LatencyService.Text.Blank

namespace LatencyService.Relay

/-- What a relayed call brought. -/
structure Relayed where
  status : Nat
  body : String
  deriving DecidableEq, Repr

/-- What becomes of a relayed call. -/
inductive Outcome where
  | relayed (relayed : Relayed)
  | failed (failure : CallFailure)
  /-- No response comes; the call goes on until it is given up. -/
  | pending (url : Url)
  deriving Repr

/-- The URL that is called, as a text: blanks around the configured one are dropped. -/
def target (settings : OutboundSettings) : String := Blank.trim settings.url

/-- The text of the body of a response, whose type is declared among its headers. -/
def textOf (charsets : Charsets) (headers : List (String × Octets)) (body : Octets) : String :=
  charsets.textOf ((Http.header? headers "content-type").bind Http.visible?) body

/-- Make the call. -/
def run (settings : OutboundSettings) (backend : Backend) : Outcome × Backend :=
  match Call.urlOf (target settings) with
  | .error failure => (.failed failure, backend)
  | .ok url =>
    match (Call.post url).run backend (Call.redirectLimit + 1) with
    | (.response _ status headers body, left) =>
      (.relayed ⟨status, textOf backend.charsets headers body⟩, left)
    | (.failed failure, left) => (.failed failure, left)
    | (.hanging url, left) => (.pending url, left)

/-! ### Log and problem -/

/-- What is logged before the call. -/
def eventsBefore (settings : OutboundSettings) : List Event :=
  [.restRequest (target settings) "POST", .sendRequest ""]

/-- What is logged after a response. -/
def eventsAfter (relayed : Relayed) : List Event :=
  [ .restResponse relayed.status ((Http.reason? relayed.status).getD ""),
    .gotResponse relayed.body, .relayFinished relayed.status ]

/-- The problem that a failure is. -/
def problemOf (settings : OutboundSettings) (failure : CallFailure) : Http.Problem :=
  .relayFailed (target settings) failure.message

/-- What is logged after a failure, before the problem itself. -/
def eventAfterFailure (settings : OutboundSettings) (failure : CallFailure) : Event :=
  .outboundFailed (target settings) failure.message

end LatencyService.Relay
