/-
The client of the service: which request each of its calls makes, and what it
makes of the response. A call gives an answer only when the status tells of
success and the body is one; otherwise it tells why not.
-/

import LatencyService.Client.Wire
import LatencyService.Http.Status
import LatencyService.Outbound.Call

namespace LatencyService.Client

/-- What a client can ask for. -/
inductive Question where
  | demo (header : Header) (order : Order)
  | demoService (header : Header) (delay : Int32)
  | camel (header : Header)
  | relay (header : Header)
  | health
  /-- A document of the caller's own to a path. -/
  | document (path : String) (content : Tree)
  deriving Repr

/-- Why a call gives no answer. -/
inductive Failure where
  | call (failure : CallFailure)
  | refused (status : Nat) (body : String)
  | answer (body : Octets) (fault : Json.Fault)

/-- The failure in words. -/
def Failure.message : Failure → String
  | call failure => failure.message
  | refused status body =>
    "Service returned error status " ++ Http.statusText status ++ ": " ++ body
  | answer body fault => fault.message body

namespace Question

/-- The path that a question goes to. -/
def path : Question → String
  | demo .. => "/demo"
  | demoService .. => "/demo/service"
  | camel _ => "/camel"
  | relay _ => "/httpclient"
  | health => "/health"
  | document path _ => path

/-- The method of the request. -/
def method : Question → String
  | health => "GET"
  | _ => "POST"

/-- The body of the request, if there is one. -/
def body? : Question → Option String
  | demo header order => some (body header order)
  | demoService header delay => some (body header { delay })
  | camel header | relay header => some (body header {})
  | health => none
  | document _ content => some (Json.render content)

/-- The request as the service gets it. -/
def request (question : Question) : Http.Request where
  method := question.method
  target := question.path
  headers :=
    if question.body?.isSome then [("content-type", Octets.ofText "application/json")] else []
  body := Octets.ofText (question.body?.getD "")

end Question

/-- The base of all URLs of a client: slashes at its end are dropped. -/
def base (text : String) : String :=
  String.ofList ((text.toList.reverse.dropWhile (· == '/')).reverse)

/-- The URL of a question, as a text. -/
def urlText (baseText : String) (question : Question) : String := base baseText ++ question.path

/-- The failure of a question that nobody answers. -/
def unanswered (baseText : String) (question : Question) : CallFailure :=
  match Call.urlOf (urlText baseText question) with
  | .error failure => failure
  | .ok url => .unanswered (Call.bare url)

/-- What a client makes of a response. -/
def interpret (response : Http.Response) : Except Failure Answer :=
  if Http.isSuccess response.status then
    match Answer.shape.ofText response.body with
    | .ok answer => .ok answer
    | .error fault => .error (.answer response.body fault)
  else .error (.refused response.status (Octets.toTextLossy response.body))

end LatencyService.Client
