/-
Socket addresses in their numeric forms: four octets and a port, or eight
groups between brackets, perhaps with the number of a scope, and a port. Octets
have no zeros in front and groups at most four digits; ports and scopes may
have zeros in front.
-/

import LatencyService.Text.Ascii

namespace LatencyService

/-- The address of a socket. -/
inductive SocketAddress where
  | version4 (octets : List Nat) (port : Nat)
  | version6 (groups : List Nat) (scope : Nat) (port : Nat)
  deriving DecidableEq, Repr

namespace SocketAddress

/-! ### Pieces of an address -/

/-- What a reader took from the front of the characters, and the rest; `none` when it does not
apply. -/
abbrev Reader (Value : Type) := List Char → Option (Value × List Char)

/-- One given character. -/
def readChar (expected : Char) : Reader Unit
  | char :: rest => if char == expected then some ((), rest) else none
  | [] => none

/-- All digits at the front, at least one, whose number does not exceed `limit`. -/
def readNumber (limit : Nat) : Reader Nat := fun chars =>
  let (digits, rest) := chars.span Ascii.isDigit
  if digits.isEmpty || Ascii.valueOf 10 digits > limit then none
  else some (Ascii.valueOf 10 digits, rest)

/-- An octet: one to three digits, without a zero in front of another digit. -/
def readOctet : Reader Nat := fun chars =>
  let (digits, rest) := chars.span Ascii.isDigit
  if digits.isEmpty || digits.length > 3 || (digits.length > 1 && digits.head? == some '0') ||
      Ascii.valueOf 10 digits > 255 then none
  else some (Ascii.valueOf 10 digits, rest)

/-- A group: one to four hexadecimal digits. -/
def readGroup : Reader Nat := fun chars =>
  let (digits, rest) := chars.span Ascii.isHexDigit
  if digits.isEmpty || digits.length > 4 then none
  else some (Ascii.valueOf 16 digits, rest)

/-- One reader after the other. -/
def andThen {First Second : Type} (first : Reader First) (second : First → Reader Second) :
    Reader Second := fun chars =>
  match first chars with
  | some (value, rest) => second value rest
  | none => none

/-- Four octets with dots between them. -/
def readOctets : Reader (List Nat) :=
  andThen readOctet fun first =>
  andThen (readChar '.') fun _ =>
  andThen readOctet fun second =>
  andThen (readChar '.') fun _ =>
  andThen readOctet fun third =>
  andThen (readChar '.') fun _ =>
  andThen readOctet fun fourth rest => some ([first, second, third, fourth], rest)

/-- A reader behind a colon, unless it is the first. -/
def behindColon {Value : Type} (isFirst : Bool) (reader : Reader Value) : Reader Value :=
  if isFirst then reader else andThen (readChar ':') fun _ => reader

/-- At most `limit` groups with colons between them, where four octets may stand for the last two;
whether they do is told as well. -/
def readGroups : Nat → Bool → List Char → List Nat × Bool × List Char
  | 0, _, chars => ([], false, chars)
  | limit + 1, isFirst, chars =>
    let embedded := if limit = 0 then none else behindColon isFirst readOctets chars
    match embedded with
    | some ([first, second, third, fourth], rest) =>
      ([first * 256 + second, third * 256 + fourth], true, rest)
    | _ =>
      match behindColon isFirst readGroup chars with
      | none => ([], false, chars)
      | some (group, rest) =>
        let (groups, isEmbedded, rest) := readGroups limit false rest
        (group :: groups, isEmbedded, rest)

/-- Eight groups, of which one run of zeros may be left out between two colons. -/
def readAddress6 : Reader (List Nat) := fun chars =>
  let (head, isEmbedded, rest) := readGroups 8 true chars
  if head.length = 8 then some (head, rest)
  else if isEmbedded then none
  else
    match rest with
    | ':' :: ':' :: rest =>
      let (tail, _, rest) := readGroups (7 - head.length) true rest
      some (head ++ List.replicate (8 - head.length - tail.length) 0 ++ tail, rest)
    | _ => none

/-- The number of a scope after a percent sign; zero when there is none. -/
def readScope : Reader Nat
  | '%' :: rest => readNumber 0xFFFFFFFF rest
  | chars => some (0, chars)

/-- A colon and a port. -/
def readPort : Reader Nat := andThen (readChar ':') fun _ => readNumber 65535

/-! ### Whole addresses -/

/-- Four octets and a port. -/
def read4 : Reader SocketAddress :=
  andThen readOctets fun octets =>
  andThen readPort fun port rest => some (version4 octets port, rest)

/-- Groups between brackets, and a port. -/
def read6 : Reader SocketAddress :=
  andThen (readChar '[') fun _ =>
  andThen readAddress6 fun groups =>
  andThen readScope fun scope =>
  andThen (readChar ']') fun _ =>
  andThen readPort fun port rest => some (version6 groups scope port, rest)

/-- The address that a whole text writes. -/
def parse? (text : String) : Option SocketAddress :=
  match read4 text.toList with
  | some (address, []) => some address
  | _ =>
    match read6 text.toList with
    | some (address, []) => some address
    | _ => none

end SocketAddress

end LatencyService
