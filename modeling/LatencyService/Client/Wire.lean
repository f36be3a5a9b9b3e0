/-
What the client of the service writes and reads. It shares the header with the
service but reads it strictly: in an answer the required fields have to be
there, as texts. Numbers are always written, also when they are zero.
-/

import LatencyService.Envelope.Payload

namespace LatencyService.Client

/-- A header as the client reads it. -/
def headerShape : Shape Header :=
  Shape.record "MwHeader"
    [ .of "MSGID" .refused Shape.text fun value header => { header with messageId := value },
      .of "SOURCECHANNEL" .refused Shape.text fun value header =>
        { header with sourceChannel := value },
      .of "TXNSEQ" .refused Shape.text fun value header => { header with transaction := value },
      .of "RETURNCODE" .fromTable Shape.text.optional fun value header =>
        { header with returnCode := value },
      .of "RETURNDESC" .fromTable Shape.text.optional fun value header =>
        { header with returnText := value },
      .of "O360SEQ" .fromTable Shape.text.optional fun value header =>
        { header with origin := value } ] {}

/-- A report as the client reads it. -/
def reportShape : Shape Report :=
  Shape.record "DemoTranRs"
    [ .of "env" .fromTable Shape.text.optional fun value report =>
        { report with environment := value },
      .of "data" .fromTable Shape.text.optional fun value report =>
        { report with data := value } ] {}

/-- An answer as the client understands it. -/
structure Answer where
  header : Option Header := none
  report : Option Report := none
  deriving DecidableEq, Repr, Inhabited

/-- How the client reads an answer. -/
def Answer.shape : Shape Answer :=
  Shape.record "DemoResponse"
    [ .of "MWHEADER" .fromTable headerShape.optional fun value answer =>
        { answer with header := value },
      .of "TRANRS" .fromTable reportShape.optional fun value answer =>
        { answer with report := value } ] {}

/-- The body of a typed call. -/
def body (header : Header) (order : Order) : String :=
  Json.object [("MWHEADER", header.render), ("TRANRQ", order.render)]

end LatencyService.Client
