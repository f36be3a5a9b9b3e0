/-
The envelope of a call: a header and a payload, either of which may be absent
on the wire. An envelope is accepted when both are there and meet their
constraints; otherwise every constraint it does not meet is reported, the
header's before the payload's.
-/

import LatencyService.Envelope.Payload

namespace LatencyService

/-- An envelope as it arrives. -/
structure Inbound (Payload : Type) where
  header : Option Header := none
  payload : Option Payload := none
  deriving DecidableEq, Repr, Inhabited

/-- An envelope that met its constraints. -/
structure Accepted (Payload : Type) where
  header : Header
  payload : Payload
  deriving DecidableEq, Repr, Inhabited

namespace Inbound

variable {Payload : Type}

/-- The violations of an envelope, where an absent part stands for one. -/
def violations (kind : PayloadKind Payload) (inbound : Inbound Payload) : List Violation :=
  (match inbound.header with
    | some header => header.violations
    | none => [.headerMissing]) ++
    (match inbound.payload with
    | some payload => kind.violations payload
    | none => [.payloadMissing])

/-- The accepted envelope, or its violations. -/
def accept (kind : PayloadKind Payload) (inbound : Inbound Payload) :
    Except (List Violation) (Accepted Payload) :=
  match inbound.header, inbound.payload with
  | some header, some payload =>
    if (inbound.violations kind).isEmpty then .ok ⟨header, payload⟩
    else .error (inbound.violations kind)
  | _, _ => .error (inbound.violations kind)

/-- The fields of an envelope as they are read. -/
def fields (kind : PayloadKind Payload) : List (Field (Inbound Payload)) :=
  [ .of "MWHEADER" .fromTable Header.shape.optional fun value inbound =>
      { inbound with header := value },
    .of "TRANRQ" .fromTable kind.shape.optional fun value inbound =>
      { inbound with payload := value } ]

/-- How an envelope is read. -/
def shape (kind : PayloadKind Payload) : Shape (Inbound Payload) :=
  Shape.record "Envelope" (fields kind) {}

/-- An envelope as JSON text, absent parts as null. -/
def render (kind : PayloadKind Payload) (inbound : Inbound Payload) : String :=
  let part := fun (text : Option String) => text.getD "null"
  Json.object [("MWHEADER", part (inbound.header.map Header.render)),
    ("TRANRQ", part (inbound.payload.map kind.render))]

end Inbound

end LatencyService
