/-
What a request asks of the service: an answer that is ready at once, or a
delayed operation or a relayed call that has to come first. A path without an
endpoint and a method that its endpoint does not answer need no body; in every
other request for work the envelope is read before anything is done.
-/

import LatencyService.Envelope.Reply
import LatencyService.Http.Extraction
import LatencyService.Http.Route

namespace LatencyService.Http

/-- What a request asks for. -/
inductive Dispatch where
  /-- No endpoint has the path. -/
  | unmatched (response : Response)
  /-- The answer of an endpoint, and what is logged with it. -/
  | answered (route : Route) (response : Response) (events : List Event)
  /-- A delayed operation whose result is the answer. -/
  | demo (header : Header) (order : Order)
  /-- A delayed operation whose result nobody sees. -/
  | demoService (order : Order)
  /-- A relayed call. -/
  | relay (header : Header)

namespace Dispatch

/-- The text of the answer about health. -/
def healthText : String := "health is good"

/-- There is nothing at a path; for what is no path at all the answer says that it is empty. -/
def nothingAt (path : String) : Response :=
  if path.toList.head? == some '/' then { status := 404 } else .empty 404 []

/-- An endpoint does not answer the method. -/
def wrongMethod (route : Route) : Response :=
  .empty 405 [("allow", Octets.ofText route.allowed)]

/-- The answer that a problem is. -/
def refused (route : Route) (problem : Problem) : Dispatch :=
  .answered route problem.response [problem.event]

/-- What a request asks of an endpoint whose method it uses. -/
def ofRoute (route : Route) (request : Request) : Dispatch :=
  match route with
  | .demo =>
    match extract PayloadKind.order request with
    | .error problem => refused route problem
    | .ok accepted => .demo accepted.header accepted.payload
  | .demoService =>
    match extract PayloadKind.order request with
    | .error problem => refused route problem
    | .ok accepted => .demoService accepted.payload
  | .camel =>
    match extract PayloadKind.free request with
    | .error problem => refused route problem
    | .ok accepted =>
      .answered route (.json 200 (Reply.headerOnly accepted.header).render)
        [.routingStub accepted.header.messageId]
  | .relay =>
    match extract PayloadKind.free request with
    | .error problem => refused route problem
    | .ok accepted => .relay accepted.header
  | .health =>
    .answered route (.json 200 (Reply.reportOnly (.ofData healthText)).render) [.healthCheck]

/-- What a request asks for. -/
def ofRequest (request : Request) : Dispatch :=
  match Route.ofPath? request.path with
  | none => .unmatched (nothingAt request.path)
  | some route =>
    if route.methods.contains request.method then ofRoute route request
    else .answered route (wrongMethod route) []

end Dispatch

end LatencyService.Http
