/-
The envelope in the body of a request. Four things have to be right, in this
order: the type of the content, the size of the body, the document in it and
the constraints on its fields. The first that is not decides the response.
-/

import LatencyService.Envelope.Inbound
import LatencyService.Http.MediaType
import LatencyService.Http.Problem

namespace LatencyService.Http

/-- The greatest length of a body. -/
def bodyLimit : Nat := 2097152

namespace Problem

/-- The body is not declared as JSON. -/
def notJson : Problem :=
  .malformed 415 "Expected request with \x60Content-Type: application/json\x60"

/-- The body is too long. -/
def tooLong : Problem :=
  .malformed 413 "Failed to buffer the request body: length limit exceeded"

/-- The document is no JSON, or is not of the form that is asked for. -/
def ofFault (body : Octets) (fault : Json.Fault) : Problem :=
  let path := match Step.describe fault.path with
    | some path => path ++ ": "
    | none => ""
  if fault.cause.isSyntax then
    .malformed 400 ("Failed to parse the request body as JSON: " ++ path ++ fault.message body)
  else
    .malformed 422 ("Failed to deserialize the JSON body into the target type: " ++ path ++
      fault.message body)

end Problem

/-- The envelope that a request carries. -/
def extract {Payload : Type} (kind : PayloadKind Payload) (request : Request) :
    Except Problem (Accepted Payload) :=
  if !MediaType.isJson request.headers then .error .notJson
  else if request.body.length > bodyLimit then .error .tooLong
  else
    match (Inbound.shape kind).ofText request.body with
    | .error fault => .error (.ofFault request.body fault)
    | .ok inbound =>
      match inbound.accept kind with
      | .error violations => .error (.invalid (violations.map Violation.message))
      | .ok accepted => .ok accepted

end LatencyService.Http
