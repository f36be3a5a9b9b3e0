/-
Calls over HTTP from here to another service. A call fails before anything is
sent when its URL cannot be called. Redirects are followed, at most ten, and
the call brings the response that is none, or that says nothing usable about
where to go.
-/

import LatencyService.Outbound.Backend
import LatencyService.Text.Base64
import LatencyService.Url.Reader

namespace LatencyService

/-- Why a call brings no response. -/
inductive CallFailure where
  /-- The URL cannot be called; it is given unless it cannot even be read. -/
  | unusableUrl (url : Option Url)
  | unanswered (url : Url)
  | redirectedTooOften (url : Url)
  /-- The body ends before its length is reached. -/
  | cutOff (url : Url)
  deriving DecidableEq, Repr

/-- The failure in words. -/
def CallFailure.message (failure : CallFailure) : String :=
  let about := fun (url : Url) => " for url (" ++ url.render ++ ")"
  match failure with
  | unusableUrl none => "builder error"
  | unusableUrl (some url) => "builder error" ++ about url
  | unanswered url => "error sending request" ++ about url
  | redirectedTooOften url => "error following redirect" ++ about url
  | cutOff url => "error decoding response body" ++ about url

/-- A call. -/
structure Call where
  method : String
  url : Url
  /-- Who calls, as the service may want to know. -/
  authorization : Option String := none
  /-- Where a redirect came from. -/
  referrer : Option Url := none
  hasContentType : Bool := true
  deriving Repr

/-- What becomes of a call. -/
inductive CallResult where
  | response (url : Url) (status : Nat) (headers : List (String × Octets)) (body : Octets)
  | failed (failure : CallFailure)
  /-- No response comes, ever. -/
  | hanging (url : Url)
  deriving Repr

namespace Call

/-! ### URLs that can be called -/

/-- The longest URL that is called. -/
def longestUrl : Nat := 65534

/-- A character that a host can hold but no request. -/
def isUnsendable (char : Char) : Bool := ['"', '\x60', '\x7b', '\x7d'].contains char

/-- The URL can be called: it is one of HTTP, and a request can hold it. -/
def isCallable (url : Url) : Bool :=
  (url.scheme == "http" || url.scheme == "https") &&
    url.host.any (fun host => !host.render.toList.any isUnsendable) &&
    url.render.utf8ByteSize ≤ longestUrl

/-! ### Who calls -/

/-- The user and the password that a URL names, read as texts. -/
def credentials? (url : Url) : Option (String × Option String) := do
  let plain := fun (text : String) => Octets.toText? (Percent.decode (Octets.ofText text))
  let user ← plain url.user
  let password := if url.password.isEmpty then none else plain url.password
  if user.isEmpty && password.isNone then none else return (user, password)

/-- The URL that is called: credentials that can be read leave it. -/
def bare (url : Url) : Url :=
  if (credentials? url).isSome then url.withoutCredentials else url

/-- A call without a body to a URL, whose credentials tell who calls. -/
def post (url : Url) : Call where
  method := "POST"
  url := bare url
  authorization := (credentials? url).map fun (user, password) =>
    "Basic " ++ Base64.encode (Octets.ofText (user ++ ":" ++ password.getD ""))

/-- The URL of a text, if it can be called. -/
def urlOf (text : String) : Except CallFailure Url :=
  match Url.parse text with
  | .error _ => .error (.unusableUrl none)
  | .ok url =>
    if isCallable (bare url) then .ok url else .error (.unusableUrl (some (bare url)))

/-! ### What is sent -/

/-- The host as a request names it. -/
def hostHeader (url : Url) : String :=
  let host := (url.host.map Host.render).getD ""
  match url.port with
  | some port => host ++ ":" ++ toString port
  | none => host

/-- The path and the query as a request line names them. -/
def requestTarget (url : Url) : String :=
  let path := url.renderPath
  (if path.isEmpty then "/" else path) ++
    match url.query with
    | some query => "?" ++ query
    | none => ""

/-- The request of a call, which never has a body. Headers are sorted by their names. -/
def transmission (call : Call) : Transmission where
  line := call.method ++ " " ++ requestTarget call.url ++ " HTTP/1.1"
  headers :=
    [("accept", "*/*")] ++
      (call.authorization.map ("authorization", ·)).toList ++
      (if call.method == "GET" then [] else [("content-length", "0")]) ++
      (if call.hasContentType then [("content-type", "application/json")] else []) ++
      [("host", hostHeader call.url)] ++
      match call.referrer with
      | some url => [("referer", { url.withoutCredentials with fragment := none }.render)]
      | none => []
  body := []

/-! ### Redirects -/

/-- Statuses that send a call elsewhere. -/
def isRedirect (status : Nat) : Bool := [301, 302, 303, 307, 308].contains status

/-- Where a response sends the call, if it does. -/
def location? (call : Call) (status : Nat) (headers : List (String × Octets)) : Option Url := do
  guard (isRedirect status)
  let value ← Http.header? headers "location"
  let text ← Octets.toText? value
  (Url.resolve (some call.url) text).toOption

/-- The call that a redirect asks for. Unless the status keeps the method, it asks for a GET. Who
calls is told to the same host alone. -/
def redirected (call : Call) (status : Nat) (url : Url) : Call :=
  let keeps := status == 307 || status == 308
  { method := if keeps then call.method else "GET"
    url := if url.fragment.isSome then url else { url with fragment := call.url.fragment }
    authorization :=
      if Backend.addressOf url == Backend.addressOf call.url then call.authorization else none
    referrer := if call.url.scheme == "https" && url.scheme == "http" then none else some call.url
    hasContentType := keeps && call.hasContentType }

/-- How many redirects are followed. -/
def redirectLimit : Nat := 10

/-- Carry a call out, with so many redirects still to follow. -/
def run (backend : Backend) (call : Call) : Nat → CallResult × Backend
  | 0 => (.failed (.redirectedTooOften call.url), backend)
  | redirects + 1 =>
    if !isCallable call.url then (.failed (.unusableUrl (some call.url)), backend)
    else if !backend.accepts call.url then (.failed (.unanswered call.url), backend)
    else
      let reply := backend.nextReply
      let backend := backend.afterConnection call.transmission
      match reply with
      | .broken => (.failed (.unanswered call.url), backend)
      | .silent => (.hanging call.url, backend)
      | .response status headers body isCutOff =>
        match location? call status headers with
        | some url => run backend (redirected call status url) redirects
        | none =>
          if isCutOff then (.failed (.cutOff call.url), backend)
          else (.response call.url status headers body, backend)

end Call

end LatencyService
