/-
Requests and responses of HTTP, as far as the service looks at them. The
values of headers are octets, since nothing forces them to be text.
-/

import LatencyService.Text.Ascii
import LatencyService.Text.Octets

namespace LatencyService.Http

/-- A request. -/
structure Request where
  method : String := "POST"
  /-- What is asked for, as the request line gives it. -/
  target : String
  headers : List (String × Octets) := []
  body : Octets := []
  deriving Repr, Inhabited

/-- A response. -/
structure Response where
  status : Nat
  headers : List (String × Octets) := []
  body : Octets := []
  deriving DecidableEq, Repr, Inhabited

/-- The first value of a header, whose name is given in small letters. -/
def header? (headers : List (String × Octets)) (name : String) : Option Octets :=
  (headers.find? fun entry => Ascii.lower entry.1 == name).map (·.2)

/-- The value of a header as a text, unless it holds anything but printable ASCII and tabs. -/
def visible? (value : Octets) : Option String :=
  if value.all Octet.isVisible then Octets.toText? value else none

namespace Request

/-- The part of a target from its path on: what precedes it in a target with a scheme is dropped,
and such a target has a path even when it writes none. -/
def fromPath (target : List Char) : List Char :=
  match target.dropWhile fun char => Ascii.isLetter char || Ascii.isDigit char ||
      char == '+' || char == '-' || char == '.' with
  | ':' :: '/' :: '/' :: rest =>
    let path := rest.dropWhile fun char => !(char == '/' || char == '?' || char == '#')
    if path.head? == some '/' then path else '/' :: path
  | _ => target

/-- The path that a request asks for, without the query. -/
def path (request : Request) : String :=
  String.ofList ((fromPath request.target.toList).takeWhile fun char =>
    !(char == '?' || char == '#'))

end Request

namespace Response

/-- The length of a body as the value of a header. -/
def lengthOf (body : Octets) : Octets := Octets.ofText (toString body.length)

/-- A response without a body. -/
def empty (status : Nat) (headers : List (String × Octets)) : Response :=
  { status, headers := headers ++ [("content-length", lengthOf [])] }

/-- A response in JSON. -/
def json (status : Nat) (document : String) : Response :=
  let body := Octets.ofText document
  { status
    headers :=
      [("content-type", Octets.ofText "application/json"), ("content-length", lengthOf body)]
    body }

/-- The response with one more header. -/
def withHeader (response : Response) (name : String) (value : Octets) : Response :=
  { response with headers := response.headers ++ [(name, value)] }

/-- The response without its body, as a request for the head alone gets it; the headers still tell
the length. -/
def headOnly (response : Response) : Response := { response with body := [] }

end Response

end LatencyService.Http
