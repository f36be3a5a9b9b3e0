/-
The envelope of an answer: a header, a report, both, or neither. Absent parts
are not written, so the empty envelope is the empty table.
-/

import LatencyService.Envelope.Payload

namespace LatencyService

/-- The envelope of an answer. -/
structure Reply where
  header : Option Header := none
  report : Option Report := none
  deriving DecidableEq, Repr, Inhabited

namespace Reply

/-- An answer with both parts. -/
def full (header : Header) (report : Report) : Reply := ⟨some header, some report⟩

/-- An answer that echoes the header alone. -/
def headerOnly (header : Header) : Reply := ⟨some header, none⟩

/-- An answer that reports without a header. -/
def reportOnly (report : Report) : Reply := ⟨none, some report⟩

/-- The answer without parts. -/
def empty : Reply := ⟨none, none⟩

/-- The fields of an answer as they are read. -/
def fields : List (Field Reply) :=
  [ .of "MWHEADER" .fromTable Header.shape.optional fun value reply =>
      { reply with header := value },
    .of "TRANRS" .fromTable Report.shape.optional fun value reply =>
      { reply with report := value } ]

/-- How an answer is read. -/
def shape : Shape Reply := Shape.record "ResponseEnvelope" fields {}

/-- An answer as JSON text. -/
def render (reply : Reply) : String :=
  Json.object
    ((reply.header.map fun header => ("MWHEADER", header.render)).toList ++
      (reply.report.map fun report => ("TRANRS", report.render)).toList)

end Reply

end LatencyService
