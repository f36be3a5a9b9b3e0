/-
Media types, as far as it has to be known whether a body is JSON: the type is
`application`, and the subtype is `json` or has it before or behind its last
plus sign. Parameters may follow and have to be well formed.
-/

import LatencyService.Http.Message

namespace LatencyService.Http.MediaType

/-- A character of a token. -/
def isToken (char : Char) : Bool :=
  Ascii.isLetter char || Ascii.isDigit char || "!#$%&'*+-.^_`|~".toList.contains char

/-- A character within quotes. -/
def isQuotable (char : Char) : Bool := char.toNat > 31 && char.toNat != 127

/-- Where the reading of parameters stands. -/
inductive Position where
  /-- Before a parameter. -/
  | gap
  | name
  /-- At the first character of a value. -/
  | opening
  | value
  /-- At the first character within quotes, which is never the closing quote. -/
  | quoteOpening
  | quoted
  /-- Behind a closing quote. -/
  | closed
  deriving DecidableEq, Repr

/-- The parameters behind a semicolon are well formed. The last one may be missing, and so may the
value of the last one. -/
def areParameters : Position → List Char → Bool
  | .gap, [] | .opening, [] | .value, [] | .closed, [] => true
  | .name, [] | .quoteOpening, [] | .quoted, [] => false
  | .gap, char :: rest =>
    if char == ' ' then areParameters .gap rest
    else isToken char && areParameters .name rest
  | .name, char :: rest =>
    if char == '=' then areParameters .opening rest
    else isToken char && areParameters .name rest
  | .opening, char :: rest =>
    if char == '"' then areParameters .quoteOpening rest
    else isToken char && areParameters .value rest
  | .value, char :: rest =>
    if char == ';' then areParameters .gap rest
    else isToken char && areParameters .value rest
  | .quoteOpening, char :: rest => isQuotable char && areParameters .quoted rest
  | .quoted, char :: rest =>
    if char == '"' then areParameters .closed rest
    else isQuotable char && areParameters .quoted rest
  | .closed, char :: rest =>
    if char == ';' then areParameters .gap rest
    else char == ' ' && areParameters .closed rest

/-- What precedes and what follows the last plus sign that is not at the front. -/
def splitSuffix (subtype : List Char) : List Char × Option (List Char) :=
  let suffix := (subtype.reverse.takeWhile (· != '+')).reverse
  let before := subtype.length - suffix.length
  if before ≤ 1 then (subtype, none) else (subtype.take (before - 1), some suffix)

/-- The value of a header names JSON. -/
def isJsonText (text : String) : Bool :=
  let chars := (Ascii.lower text).toList
  let type := chars.takeWhile isToken
  match chars.drop type.length with
  | '/' :: rest =>
    let subtype := rest.takeWhile isToken
    let after := rest.drop subtype.length
    let (name, suffix) := splitSuffix subtype
    let json := "json".toList
    type == "application".toList && (name == json || suffix == some json) &&
      match after with
      | [] => true
      | ';' :: parameters => areParameters .gap parameters
      | _ => false
  | _ => false

/-- The headers say that the body is JSON. -/
def isJson (headers : List (String × Octets)) : Bool :=
  ((header? headers "content-type").bind visible?).any isJsonText

end LatencyService.Http.MediaType
