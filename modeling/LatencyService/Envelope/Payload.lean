/-
What a call asks for and what its answer reports. A call of the delay routes
names seconds to sleep and rounds of the busy loop; both read as zero when
they are missing or null, and neither may be negative. Other calls carry any
value at all. An answer names the environment and holds a text, either of
which may be left out.
-/

import LatencyService.Envelope.Header

namespace LatencyService

/-- What a delayed operation is asked to do. -/
structure Order where
  /-- Seconds to sleep. -/
  delay : Int32 := 0
  /-- Rounds of the busy loop. -/
  rounds : Int32 := 0
  deriving DecidableEq, Repr, Inhabited

namespace Order

/-- The violations of an order, in the order of its fields. -/
def violations (order : Order) : List Violation :=
  (if order.delay < 0 then [.negative .delay] else []) ++
    (if order.rounds < 0 then [.negative .rounds] else [])

/-- The fields of an order as they are read. -/
def fields : List (Field Order) :=
  [ .of "delay" .anywhere (Shape.integer32.orElse 0) fun value order =>
      { order with delay := value },
    .of "forCount" .anywhere (Shape.integer32.orElse 0) fun value order =>
      { order with rounds := value } ]

/-- How an order is read. -/
def shape : Shape Order := Shape.record "DemoRequestPayload" fields {}

/-- An order as JSON text. -/
def render (order : Order) : String :=
  Json.object [("delay", toString order.delay.toInt), ("forCount", toString order.rounds.toInt)]

end Order

/-- What an answer reports. -/
structure Report where
  environment : Option String := none
  data : Option String := none
  deriving DecidableEq, Repr, Inhabited

namespace Report

/-- A report of a text alone. -/
def ofData (data : String) : Report := { data := some data }

/-- The fields of a report as they are read. -/
def fields : List (Field Report) :=
  [ .of "env" .anywhere Shape.text.optional fun value report =>
      { report with environment := value },
    .of "data" .anywhere Shape.text.optional fun value report => { report with data := value } ]

/-- How a report is read. -/
def shape : Shape Report := Shape.record "DemoResponsePayload" fields {}

/-- A report as JSON text. -/
def render (report : Report) : String :=
  Json.object
    (Header.optionalEntry "env" report.environment ++ Header.optionalEntry "data" report.data)

end Report

/-- What a payload has to tell of itself to travel in an envelope. -/
structure PayloadKind (Payload : Type) where
  /-- How it is read. -/
  shape : Shape Payload
  /-- How it is written. -/
  render : Payload → String
  /-- The constraints it does not meet. -/
  violations : Payload → List Violation

namespace PayloadKind

/-- Orders of the delay routes. -/
def order : PayloadKind Order := ⟨Order.shape, Order.render, Order.violations⟩

/-- Any value, without constraints. -/
def free : PayloadKind Tree := ⟨Shape.any, Json.render, fun _ => []⟩

end PayloadKind

end LatencyService
