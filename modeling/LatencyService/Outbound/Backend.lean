/-
What a call over the network meets: at most one service that listens, and how
it treats one connection after the other. What arrives there is kept. The
library that reads the bodies which come from there belongs to it.
-/

import LatencyService.Http.Message
import LatencyService.Outbound.Charset
import LatencyService.Url.Basic

namespace LatencyService

/-- A request as it arrives at the service that is called. -/
structure Transmission where
  /-- The request line. -/
  line : String
  headers : List (String × String)
  body : Octets
  deriving DecidableEq, Repr

/-- How a connection is treated once its request has arrived. -/
inductive BackendReply where
  /-- A response; when it is cut off, the body ends before its length is reached. -/
  | response (status : Nat) (headers : List (String × Octets)) (body : Octets) (isCutOff : Bool)
  /-- Octets that are no response, or none. -/
  | broken
  /-- Nothing happens. -/
  | silent
  deriving DecidableEq, Repr

/-- What a call can meet. -/
structure Backend where
  /-- The host and the port of the service that listens, if there is one. -/
  address : Option (Host × Nat) := none
  /-- What is left of the replies; the last one is used again and again. -/
  replies : List BackendReply := []
  /-- What has arrived, latest first. -/
  received : List Transmission := []
  /-- What reads the bodies of the responses. -/
  charsets : Charsets := .utf8Only
  deriving Inhabited

namespace Backend

/-- A network where nobody listens. -/
def unreachable : Backend := {}

/-- The host and the port that a URL leads to. -/
def addressOf (url : Url) : Option (Host × Nat) := do
  let host ← url.host
  let port ← url.port.or (Url.schemePort? url.scheme)
  return (host, port)

/-- A connection for a URL is accepted. -/
def accepts (backend : Backend) (url : Url) : Bool :=
  url.scheme == "http" && backend.address.isSome && backend.address == addressOf url

/-- The reply to the next connection: without any replies connections break. -/
def nextReply (backend : Backend) : BackendReply := backend.replies.head?.getD .broken

/-- One connection later. -/
def afterConnection (backend : Backend) (transmission : Transmission) : Backend :=
  { backend with
    replies := if backend.replies.length ≤ 1 then backend.replies else backend.replies.drop 1
    received := transmission :: backend.received }

end Backend

end LatencyService
