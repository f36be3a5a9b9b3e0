/-
Hosts of URLs. A host between brackets is an address of eight groups. In the
schemes that know domain names a host is a domain name, written in ASCII, or,
when its last label is a number, an address of four octets; elsewhere it is
any text without the characters that end a host.
-/

import LatencyService.Address.Socket
import LatencyService.Idna.Domain
import LatencyService.Url.Percent

namespace LatencyService

/-- Why a text is not a URL. -/
inductive UrlFault where
  | noScheme
  | emptyHost
  | badPort
  | badVersion4
  | badVersion6
  | badDomainName
  | badHostCharacter
  /-- A relative reference has nothing to be relative to where a scheme has no paths. -/
  | opaqueBase
  deriving DecidableEq, Repr

/-- The reason in words. -/
def UrlFault.message : UrlFault → String
  | noScheme => "relative URL without a base"
  | emptyHost => "empty host"
  | badPort => "invalid port number"
  | badVersion4 => "invalid IPv4 address"
  | badVersion6 => "invalid IPv6 address"
  | badDomainName => "invalid international domain name"
  | badHostCharacter => "invalid domain character"
  | opaqueBase => "relative URL with a cannot-be-a-base base"

/-- A host. -/
inductive Host where
  | name (text : String)
  | version4 (address : Nat)
  | version6 (groups : List Nat)
  deriving DecidableEq, Repr

namespace Host

/-! ### Addresses of four octets -/

/-- A number in decimal digits, in octal ones behind a zero, or in hexadecimal ones behind `0x`;
nothing behind those is zero. -/
def number? (chars : List Char) : Option Nat :=
  let isOctalDigit := fun char => '0' ≤ char && char ≤ '7'
  match chars with
  | [] => none
  | ['0'] => some 0
  | '0' :: 'x' :: digits | '0' :: 'X' :: digits =>
    if digits.all Ascii.isHexDigit then some (Ascii.valueOf 16 digits) else none
  | '0' :: digits => if digits.all isOctalDigit then some (Ascii.valueOf 8 digits) else none
  | digits => Ascii.decimal? digits

/-- The labels of a name, without the empty one behind a last dot. -/
def labelsOf (chars : List Char) : List (List Char) :=
  let labels := Pieces.splitAt '.' chars
  if labels.length > 1 && labels.getLast? == some [] then labels.dropLast else labels

/-- The last label is a number, or at least looks like one in decimal digits. -/
def endsInNumber (chars : List Char) : Bool :=
  match (labelsOf chars).getLast? with
  | none => false
  | some label => !label.isEmpty && (label.all Ascii.isDigit || (number? label).isSome)

/-- The address that at most four numbers write: all but the last are octets, and the last fills
what they leave. -/
def version4? (chars : List Char) : Option Nat := do
  let numbers ← (labelsOf chars).mapM number?
  let last ← numbers.getLast?
  let leading := numbers.dropLast
  if leading.length > 3 || leading.any (· > 255) ||
      last ≥ Nat.pow 256 (4 - leading.length) then none
  else
    return leading.zipIdx.foldl
      (fun address entry => address + entry.1 * Nat.pow 256 (3 - entry.2)) last

/-! ### Reading -/

/-- The host between brackets, given with both. -/
def version6? (chars : List Char) : Except UrlFault Host :=
  let inner := chars.drop 1
  if inner.getLast? != some ']' then .error .badVersion6
  else
    match SocketAddress.readAddress6 inner.dropLast with
    | some (groups, []) => .ok (version6 groups)
    | _ => .error .badVersion6

/-- A host in a scheme that knows domain names. -/
def ofDomain (chars : List Char) : Except UrlFault Host :=
  if chars.head? == some '[' then version6? chars
  else
    match Octets.toText? (Percent.decode (Octets.ofText (String.ofList chars))) with
    | none => .error .badDomainName
    | some text =>
      match Idna.toAscii? text.toList with
      | none => .error .badDomainName
      | some [] => .error .emptyHost
      | some ascii =>
        if endsInNumber ascii then
          match version4? ascii with
          | some address => .ok (version4 address)
          | none => .error .badVersion4
        else .ok (name (String.ofList ascii))

/-- A character that no host holds. -/
def isForbidden (char : Char) : Bool :=
  ['\x00', '\t', '\n', '\r', ' ', '#', '/', ':', '<', '>', '?', '@', '[', '\\', ']', '^',
    '|'].contains char

/-- A host in any other scheme. -/
def ofText (chars : List Char) : Except UrlFault Host :=
  if chars.head? == some '[' then version6? chars
  else if chars.any isForbidden then .error .badHostCharacter
  else .ok (name (Percent.encode [] chars))

/-! ### Writing -/

/-- The longest run of zero groups, as its first index and its length: the first of the longest
ones, and none shorter than two. -/
def longestZeros (groups : List Nat) : Nat × Nat :=
  let step := fun (state : (Nat × Nat) × (Nat × Nat)) (entry : Nat × Nat) =>
    let (best, current) := state
    let current := if entry.1 = 0 then
        (if current.2 = 0 then entry.2 else current.1, current.2 + 1)
      else (0, 0)
    (if current.2 > best.2 then current else best, current)
  let best := (groups.zipIdx.foldl step ((0, 0), (0, 0))).1
  if best.2 < 2 then (0, 0) else best

/-- Groups with colons between them. -/
def writeGroups (groups : List Nat) : String := String.intercalate ":" (groups.map Ascii.hex)

/-- The host as it stands in a URL. -/
def render : Host → String
  | name text => text
  | version4 address =>
    String.intercalate "."
      ([3, 2, 1, 0].map fun place => toString (address / Nat.pow 256 place % 256))
  | version6 groups =>
    let (start, length) := longestZeros groups
    if length = 0 then "[" ++ writeGroups groups ++ "]"
    else "[" ++ writeGroups (groups.take start) ++ "::" ++
      writeGroups (groups.drop (start + length)) ++ "]"

end Host

end LatencyService
