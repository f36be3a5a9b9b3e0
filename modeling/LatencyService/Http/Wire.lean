/-
Requests and responses as they travel over a connection: a head of lines, an
empty line, and a body whose length the head tells, unless it comes in chunks
that tell their own. What has arrived may break off anywhere, and then more has
to come before anything is known.
-/

import LatencyService.Http.MediaType
import LatencyService.Http.Status
import LatencyService.Text.Pieces

namespace LatencyService.Http.Wire

/-- What the octets that have arrived begin with. -/
inductive Arrival (Value : Type) where
  /-- More has to come. -/
  | incomplete
  /-- Whatever comes, this is not what was expected. -/
  | malformed
  /-- A value, and what came behind it. -/
  | complete (value : Value) (rest : Octets)

/-- What is made of a value once it has arrived. -/
def Arrival.andThen {First Second : Type} (arrival : Arrival First)
    (next : First → Octets → Arrival Second) : Arrival Second :=
  match arrival with
  | incomplete => .incomplete
  | malformed => .malformed
  | complete value rest => next value rest

/-! ### Lines -/

/-- A line whose octets are given backwards, without the carriage return at its end. -/
def closeLine : Octets → Octets
  | Octet.carriageReturn :: line => line.reverse
  | line => line.reverse

/-- The lines up to the first empty one; `begun` is what has come of the first one, backwards. -/
def lines (begun : Octets) : Octets → Arrival (List Octets)
  | [] => .incomplete
  | Octet.lineFeed :: rest =>
    match closeLine begun with
    | [] => .complete [] rest
    | line => (lines [] rest).andThen fun others rest => .complete (line :: others) rest
  | octet :: rest => lines (octet :: begun) rest

/-- The first line. -/
def line (begun : Octets) : Octets → Arrival Octets
  | [] => .incomplete
  | Octet.lineFeed :: rest => .complete (closeLine begun) rest
  | octet :: rest => line (octet :: begun) rest

/-! ### Heads -/

/-- The head of a request. -/
structure Head where
  method : String
  target : String
  /-- The connection is kept unless a header says otherwise. -/
  isPersistent : Bool
  headers : List (String × Octets)

/-- The octets without blanks and tabs around them. -/
def trim (octets : Octets) : Octets :=
  let isBlank := fun (octet : UInt8) => octet == Octet.space || octet == Octet.tab
  ((octets.dropWhile isBlank).reverse.dropWhile isBlank).reverse

/-- The name and the value in a line of the head. -/
def headerOf? (line : Octets) : Option (String × Octets) := do
  let written := line.takeWhile (· != Octet.colon)
  let name ← Octets.toText? written
  guard (!name.isEmpty && name.toList.all MediaType.isToken && written.length < line.length)
  return (Ascii.lower name, trim (line.drop (written.length + 1)))

/-- The head that lines write: the request line, and headers behind it. -/
def headOf? : List Octets → Option Head
  | [] => none
  | first :: others => do
    let text ← Octets.toText? first
    let headers ← others.mapM headerOf?
    match (Pieces.splitAt ' ' text.toList).map String.ofList with
    | [method, target, "HTTP/1.1"] =>
      return { method, target, isPersistent := true, headers }
    | [method, target, "HTTP/1.0"] =>
      return { method, target, isPersistent := false, headers }
    | _ => none

/-- The value of a header as a text in small letters. -/
def word? (head : Head) (name : String) : Option String :=
  ((header? head.headers name).bind visible?).map Ascii.lower

/-- The connection ends with this request. -/
def isLast (head : Head) : Bool :=
  match word? head "connection" with
  | some "close" => true
  | some "keep-alive" => false
  | _ => !head.isPersistent

/-! ### Bodies -/

/-- A body of a known length. -/
def bodyOfLength (length : Nat) (octets : Octets) : Arrival Octets :=
  if octets.length < length then .incomplete
  else .complete (octets.take length) (octets.drop length)

/-- The length that the first line of a chunk writes in hexadecimal digits. -/
def chunkLength? (line : Octets) : Option Nat := do
  let digits := trim (line.takeWhile (· != Octet.semicolon))
  guard !digits.isEmpty
  let values ← digits.mapM Octet.hexValue?
  return values.foldl (fun length value => length * 16 + value) 0

/-- A body in chunks, up to one without any octets and the lines behind it. Every chunk takes at
least one octet, and so `fuel` may be the number of octets. -/
def bodyOfChunks (fuel : Nat) (octets : Octets) : Arrival Octets :=
  match fuel with
  | 0 => .incomplete
  | fuel + 1 =>
    (line [] octets).andThen fun first rest =>
      match chunkLength? first with
      | none => .malformed
      | some 0 => (lines [] rest).andThen fun _ rest => .complete [] rest
      | some length =>
        (bodyOfLength length rest).andThen fun chunk rest =>
          (line [] rest).andThen fun gap rest =>
            if !gap.isEmpty then .malformed
            else
              (bodyOfChunks fuel rest).andThen fun others rest =>
                .complete (chunk ++ others) rest

/-- The body that belongs to a head. -/
def bodyOf (head : Head) (octets : Octets) : Arrival Octets :=
  match word? head "transfer-encoding", word? head "content-length" with
  | some "chunked", _ => bodyOfChunks octets.length octets
  | some _, _ => .malformed
  | none, none => .complete [] octets
  | none, some length =>
    match Ascii.decimal? length.toList with
    | some length => bodyOfLength length octets
    | none => .malformed

/-! ### Messages -/

/-- A request, and whether the connection ends with it. -/
def request (octets : Octets) : Arrival (Request × Bool) :=
  (lines [] octets).andThen fun written rest =>
    match headOf? written with
    | none => .malformed
    | some head =>
      (bodyOf head rest).andThen fun body rest =>
        .complete
          ({ method := head.method, target := head.target, headers := head.headers, body },
            isLast head)
          rest

/-- The end of a line. -/
def lineEnd : Octets := [Octet.carriageReturn, Octet.lineFeed]

/-- A header in a line of its own. -/
def headerLine (header : String × Octets) : Octets :=
  Octets.ofText (header.1 ++ ": ") ++ header.2 ++ lineEnd

/-- The headers of a response as it is sent: they always tell the length of the body. -/
def sentHeaders (response : Response) (isLast : Bool) : List (String × Octets) :=
  response.headers ++
    (if (header? response.headers "content-length").isSome then []
      else [("content-length", Response.lengthOf response.body)]) ++
    if isLast then [("connection", Octets.ofText "close")] else []

/-- A response as it is sent. -/
def response (response : Response) (isLast : Bool) : Octets :=
  Octets.ofText ("HTTP/1.1 " ++ statusText response.status) ++ lineEnd ++
    (sentHeaders response isLast).flatMap headerLine ++ lineEnd ++ response.body

/-- The response to what is no request. -/
def refusal : Octets := response (.empty 400 []) true

end LatencyService.Http.Wire
