/-
Addresses to listen at: a socket address, or a host and a port with a colon
between them. The port is what follows the last colon, and the host anything
before it that is not empty and holds no blank; whether the host has an
address is found out only when the service listens.
-/

import LatencyService.Address.Socket
import LatencyService.Text.Blank

namespace LatencyService.ListenAddress

/-- A port: digits, perhaps after a plus sign, of a number below 65536. -/
def isPort (chars : List Char) : Bool :=
  let digits := match chars with
    | '+' :: rest => rest
    | _ => chars
  match Ascii.decimal? digits with
  | some port => port ≤ 65535
  | none => false

/-- What precedes and what follows the last colon. -/
def splitLast? (chars : List Char) : Option (List Char × List Char) :=
  let reversed := chars.reverse
  match reversed.dropWhile (· != ':') with
  | _ :: before => some (before.reverse, (reversed.takeWhile (· != ':')).reverse)
  | [] => none

/-- A host and a port. -/
def isHostAndPort (text : String) : Bool :=
  match splitLast? text.toList with
  | some (host, port) => !host.isEmpty && !host.any isBlankChar && isPort port
  | none => false

/-- The text is an address to listen at. -/
def isListenAddress (text : String) : Bool :=
  (SocketAddress.parse? text).isSome || isHostAndPort text

end LatencyService.ListenAddress
