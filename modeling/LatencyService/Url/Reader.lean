/-
URLs read from texts. Blanks and controls around the text are dropped, and so
are tabs and line ends within it. Where a scheme knows domain names, any
number of slashes of either direction may stand before the host, and a
backslash counts as a slash; segments of one or two dots are resolved as they
are met. A reference without a scheme is read relative to another URL.
-/

import LatencyService.Url.Basic

namespace LatencyService.Url

/-! ### Pieces -/

/-- The text without controls and spaces at both ends and without tabs and line ends. -/
def clean (text : String) : List Char :=
  let isEdge := fun (char : Char) => decide (char.toNat ≤ 0x20)
  let trimmed := ((text.toList.dropWhile isEdge).reverse.dropWhile isEdge).reverse
  trimmed.filter fun char => !(char == '\t' || char == '\n' || char == '\r')

/-- A scheme in small letters, and what follows its colon. -/
def readScheme? (chars : List Char) : Option (String × List Char) :=
  let isPart := fun char =>
    Ascii.isLetter char || Ascii.isDigit char || char == '+' || char == '-' || char == '.'
  match chars with
  | first :: _ =>
    if Ascii.isLetter first then
      match chars.dropWhile isPart with
      | ':' :: rest =>
        some (String.ofList ((chars.takeWhile isPart).map Ascii.lowerChar), rest)
      | _ => none
    else none
  | [] => none

/-- A slash, or a backslash where that counts as one. -/
def isSlash (special : Bool) (char : Char) : Bool := char == '/' || (special && char == '\\')

/-- A character that ends the host. -/
def endsAuthority (special : Bool) (char : Char) : Bool :=
  isSlash special char || char == '?' || char == '#'

/-- What precedes and what follows the last `@`. -/
def splitCredentials? (authority : List Char) : Option (List Char × List Char) :=
  match authority.reverse.dropWhile (· != '@') with
  | _ :: before => some (before.reverse, (authority.reverse.takeWhile (· != '@')).reverse)
  | [] => none

/-- The user and the password, which a colon parts. -/
def readCredentials (chars : List Char) : String × String :=
  let user := chars.takeWhile (· != ':')
  (Percent.encode Percent.credentialsSet user,
    Percent.encode Percent.credentialsSet (chars.drop (user.length + 1)))

/-- The host at the front, up to a colon outside brackets or the end of the authority. -/
def spanHost (special : Bool) : Bool → List Char → List Char × List Char
  | _, [] => ([], [])
  | isBracketed, char :: rest =>
    if endsAuthority special char || (char == ':' && !isBracketed) then ([], char :: rest)
    else
      let isBracketed := if char == '[' then true else if char == ']' then false else isBracketed
      let (host, rest) := spanHost special isBracketed rest
      (char :: host, rest)

/-- The port behind a colon; no digits are no port. -/
def readPort (scheme : String) (chars : List Char) : Except UrlFault (Option Nat × List Char) :=
  match chars with
  | ':' :: rest =>
    let digits := rest.takeWhile Ascii.isDigit
    let rest := rest.drop digits.length
    let port := Ascii.valueOf 10 digits
    if port > 65535 then .error .badPort
    else if !rest.head?.all (endsAuthority true) then .error .badPort
    else if digits.isEmpty || schemePort? scheme == some port then .ok (none, rest)
    else .ok (some port, rest)
  | _ => .ok (none, chars)

/-! ### Paths -/

/-- The ways to write a segment of one dot. -/
def isDot (segment : String) : Bool := segment == "." || Ascii.lower segment == "%2e"

/-- The ways to write a segment of two dots. -/
def isDotDot (segment : String) : Bool :=
  ["..", ".%2e", "%2e.", "%2e%2e"].contains (Ascii.lower segment)

/-- A letter before a colon or a bar: the drive that a path of files may begin with. -/
def isDrive (segment : List Char) : Bool :=
  match segment with
  | [letter, mark] => Ascii.isLetter letter && (mark == ':' || mark == '|')
  | _ => false

/-- The path without its last segment, where both are in reverse; a drive stays. -/
def shorten (scheme : String) (names : List String) : List String :=
  match names with
  | [drive] => if scheme == "file" && isDrive drive.toList then names else []
  | names => names.drop 1

/-- The path, in reverse, after one more segment. -/
def pushSegment (scheme : String) (isLast : Bool) (names : List String) (raw : List Char) :
    List String :=
  let segment := Percent.encode Percent.pathSet raw
  if isDotDot segment then
    let shorter := shorten scheme names
    if isLast then "" :: shorter else shorter
  else if isDot segment then (if isLast then "" :: names else names)
  else if scheme == "file" && names.isEmpty && isDrive raw then
    String.ofList (raw.take 1 ++ [':']) :: names
  else segment :: names

/-- The path, in reverse, after the segments between the slashes of a text. -/
def pushSegments (scheme : String) (names : List String) : List (List Char) → List String
  | [] => names
  | [last] => pushSegment scheme true names last
  | raw :: rest => pushSegments scheme (pushSegment scheme false names raw) rest

/-- Segments from the characters up to the query or the fragment, behind the given ones in
reverse. A path of files does not begin with empty segments. -/
def readSegments (scheme : String) (before : List String) (chars : List Char) :
    UrlPath × List Char :=
  let written := chars.takeWhile fun char => !(char == '?' || char == '#')
  let slashed := written.map fun char => if isSlash (isSpecial scheme) char then '/' else char
  let names := (pushSegments scheme before (Pieces.splitAt '/' slashed)).reverse
  let names :=
    if scheme == "file" then
      match names.dropWhile (· == "") with
      | [] => [""]
      | kept => kept
    else names
  (.segments names, chars.drop written.length)

/-- The path behind a host: in a scheme that knows domain names there always is one. -/
def readPath (scheme : String) (chars : List Char) : UrlPath × List Char :=
  match chars with
  | [] => (.segments (if isSpecial scheme then [""] else []), [])
  | char :: rest =>
    if isSlash (isSpecial scheme) char then readSegments scheme [] rest
    else if !isSpecial scheme && (char == '?' || char == '#') then (.segments [], chars)
    else readSegments scheme [] chars

/-- The query and the fragment, at the front of which stand their marks. -/
def readTail (scheme : String) (chars : List Char) : Option String × Option String :=
  let fragmentOf := fun (chars : List Char) =>
    match chars with
    | '#' :: rest => some (Percent.encode Percent.fragmentSet rest)
    | _ => none
  match chars with
  | '?' :: rest =>
    let set := if isSpecial scheme then Percent.specialQuerySet else Percent.querySet
    let query := rest.takeWhile (· != '#')
    (some (Percent.encode set query), fragmentOf (rest.drop query.length))
  | _ => (none, fragmentOf chars)

/-- The URL with the path, the query and the fragment that a text writes behind a host. -/
def withPathAndTail (url : Url) (path : UrlPath × List Char) : Url :=
  let (query, fragment) := readTail url.scheme path.2
  { url with path := path.1, query, fragment }

/-! ### Hosts -/

/-- The URL from behind the credentials, if there are any. -/
def readHostAndPort (scheme user password : String) (chars : List Char) : Except UrlFault Url := do
  let special := isSpecial scheme
  let (written, rest) := spanHost special false chars
  if special && written.isEmpty then throw .emptyHost
  let host ← if special then Host.ofDomain written else Host.ofText written
  let isEmpty := host == .name ""
  if isEmpty && rest.head? == some ':' then throw .emptyHost
  let (port, rest) ← readPort scheme rest
  if isEmpty && !(user.isEmpty && password.isEmpty) then throw .emptyHost
  let url : Url := { scheme, user, password, host := some host, port }
  return url.withPathAndTail (readPath scheme rest)

/-- The URL from behind the two slashes. -/
def readAuthority (scheme : String) (chars : List Char) : Except UrlFault Url :=
  let authority := chars.takeWhile (!endsAuthority (isSpecial scheme) ·)
  let after := chars.drop authority.length
  match splitCredentials? authority with
  | some (credentials, rest) =>
    if credentials.isEmpty && rest.isEmpty && !after.isEmpty then .error .emptyHost
    else
      let (user, password) := readCredentials credentials
      readHostAndPort scheme user password (rest ++ after)
  | none => readHostAndPort scheme "" "" chars

/-- The URL of a file from behind the colon: perhaps two slashes and a host, which `localhost`
and a drive are not. -/
def readFile (chars : List Char) : Except UrlFault Url := do
  let isEither := isSlash true
  let plain : Url := { scheme := "file" }
  match chars with
  | first :: second :: rest =>
    if isEither first && isEither second then
      let written := rest.takeWhile (!endsAuthority true ·)
      if isDrive written then return plain.withPathAndTail (readSegments "file" [] rest)
      let host ← if written.isEmpty then pure none else some <$> Host.ofDomain written
      let host := if host == some (.name "localhost") then none else host
      let url : Url := { plain with host }
      return url.withPathAndTail (readPath "file" (rest.drop written.length))
    else if isEither first then
      return plain.withPathAndTail (readSegments "file" [] (second :: rest))
    else return plain.withPathAndTail (readSegments "file" [] chars)
  | _ =>
    return plain.withPathAndTail (readSegments "file" [] (chars.dropWhile isEither))

/-- The URL of a scheme that knows no domain names, from behind the colon. -/
def readOther (scheme : String) (chars : List Char) : Except UrlFault Url :=
  let url : Url := { scheme }
  match chars with
  | '/' :: '/' :: rest => readAuthority scheme rest
  | '/' :: rest => .ok (url.withPathAndTail (readSegments scheme [] rest))
  | _ =>
    let written := chars.takeWhile fun char => !(char == '?' || char == '#')
    .ok (url.withPathAndTail
      (.free (Percent.encode [] written), chars.drop written.length))

/-! ### References -/

/-- The URL that a reference without a scheme names, as seen from another URL. -/
def readRelative (base : Url) (chars : List Char) : Except UrlFault Url :=
  let special := isSpecial base.scheme
  match base.path, chars with
  | .free _, '#' :: _ => .ok { base with fragment := (readTail base.scheme chars).2 }
  | .free _, _ => .error .opaqueBase
  | .segments _, [] => .ok { base with fragment := none }
  | .segments _, '#' :: _ => .ok { base with fragment := (readTail base.scheme chars).2 }
  | .segments _, '?' :: _ => .ok (base.withPathAndTail (base.path, chars))
  | .segments names, first :: rest =>
    if isSlash special first then
      match rest with
      | second :: after =>
        if isSlash special second then
          readAuthority base.scheme (if special then after.dropWhile (isSlash true) else after)
        else .ok (base.withPathAndTail (readSegments base.scheme [] rest))
      | [] => .ok (base.withPathAndTail (readSegments base.scheme [] rest))
    else
      .ok (base.withPathAndTail
        (readSegments base.scheme (shorten base.scheme names.reverse) (first :: rest)))

/-- The URL that a text names; `base` is what it may be relative to. -/
def resolve (base : Option Url) (text : String) : Except UrlFault Url :=
  let chars := clean text
  match readScheme? chars with
  | some (scheme, rest) =>
    if scheme == "file" then readFile rest
    else if isSpecial scheme then
      let slashes := (rest.takeWhile (isSlash true)).length
      match base with
      | some base =>
        if slashes < 2 && base.scheme == scheme then readRelative base rest
        else readAuthority scheme (rest.drop slashes)
      | none => readAuthority scheme (rest.drop slashes)
    else readOther scheme rest
  | none =>
    match base with
    | some base => readRelative base chars
    | none => .error .noScheme

/-- The URL that a text writes in full. -/
def parse (text : String) : Except UrlFault Url := resolve none text

end LatencyService.Url
