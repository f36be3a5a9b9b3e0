/-
URLs in their parts. The parts hold what is written, in its one form: hosts
are lower case, paths have no dot segments, and what has to be
percent-encoded is.
-/

import LatencyService.Url.Host

namespace LatencyService

/-- The path of a URL. -/
inductive UrlPath where
  /-- Segments, each behind a slash. -/
  | segments (names : List String)
  /-- A text without structure. -/
  | free (text : String)
  deriving DecidableEq, Repr

/-- A URL. -/
structure Url where
  /-- The scheme in small letters. -/
  scheme : String
  user : String := ""
  password : String := ""
  host : Option Host := none
  /-- The port, unless it is the one of the scheme. -/
  port : Option Nat := none
  path : UrlPath := .segments []
  query : Option String := none
  fragment : Option String := none
  deriving DecidableEq, Repr

namespace Url

/-! ### Schemes -/

/-- The port of a scheme that knows domain names. -/
def schemePort? : String → Option Nat
  | "http" | "ws" => some 80
  | "https" | "wss" => some 443
  | "ftp" => some 21
  | _ => none

/-- Whether URLs of the scheme have a host that is a domain name or an address. -/
def isSpecial (scheme : String) : Bool := scheme == "file" || (schemePort? scheme).isSome

/-! ### Writing -/

/-- The path as it stands in the URL. -/
def renderPath (url : Url) : String :=
  match url.path with
  | .free text => text
  | .segments names =>
    let text := String.join (names.map ("/" ++ ·))
    if url.host.isNone && url.scheme != "file" && names.length > 1 && names.head? == some "" then
      "/." ++ text
    else text

/-- The user, the host and the port behind two slashes. -/
def renderAuthority (url : Url) : String :=
  match url.host with
  | none => if url.scheme == "file" then "//" else ""
  | some host =>
    let password := if url.password.isEmpty then "" else ":" ++ url.password
    let user := if url.user.isEmpty && url.password.isEmpty then "" else url.user ++ password ++ "@"
    let port := match url.port with
      | some number => ":" ++ toString number
      | none => ""
    "//" ++ user ++ host.render ++ port

/-- The URL as a text. -/
def render (url : Url) : String :=
  let behind := fun (mark : String) (part : Option String) =>
    match part with
    | some text => mark ++ text
    | none => ""
  url.scheme ++ ":" ++ url.renderAuthority ++ url.renderPath ++ behind "?" url.query ++
    behind "#" url.fragment

/-- The URL without the user and the password. -/
def withoutCredentials (url : Url) : Url := { url with user := "", password := "" }

end Url

end LatencyService
