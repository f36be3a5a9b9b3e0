/-
The two sides of a call write and read the same envelopes. What the client
writes is read by the service as the header and the order that were written,
and what the service writes is read by the client as the header and the report,
for all texts and numbers in them, and whichever optional parts are there.
-/

import LatencyService.Client.Wire
import LatencyService.Envelope.Inbound
import LatencyService.Envelope.Reply
import LatencyService.Proofs.Writing

namespace LatencyService

open Shape

/-! ### Headers -/

namespace Header

/-- The entries of a header, with what each makes of a header that is being read. -/
def written (header : Header) : List (Entry Header) :=
  [ ⟨"MSGID", Json.quote header.messageId,
      fun read => { read with messageId := header.messageId }⟩,
    ⟨"SOURCECHANNEL", Json.quote header.sourceChannel,
      fun read => { read with sourceChannel := header.sourceChannel }⟩,
    ⟨"TXNSEQ", Json.quote header.transaction,
      fun read => { read with transaction := header.transaction }⟩ ] ++
    (header.returnCode.map fun text => (⟨"RETURNCODE", Json.quote text,
      fun read => { read with returnCode := some text }⟩ : Entry Header)).toList ++
    (header.returnText.map fun text => (⟨"RETURNDESC", Json.quote text,
      fun read => { read with returnText := some text }⟩ : Entry Header)).toList ++
    (header.origin.map fun text => (⟨"O360SEQ", Json.quote text,
      fun read => { read with origin := some text }⟩ : Entry Header)).toList

theorem render_eq (header : Header) :
    header.render = Json.object (header.written.map Entry.pair) := by
  obtain ⟨messageId, sourceChannel, transaction, returnCode, returnText, origin⟩ := header
  cases returnCode <;> cases returnText <;> cases origin <;> rfl

theorem foldl_written (header : Header) :
    header.written.foldl (fun read entry => entry.change read) {} = header := by
  obtain ⟨messageId, sourceChannel, transaction, returnCode, returnText, origin⟩ := header
  cases returnCode <;> cases returnText <;> cases origin <;> rfl

/-- The keys of a header. -/
theorem keys_written (header : Header) :
    (header.written.map Entry.key).Sublist
        ["MSGID", "SOURCECHANNEL", "TXNSEQ", "RETURNCODE", "RETURNDESC", "O360SEQ"] ∧
      ["MSGID", "SOURCECHANNEL", "TXNSEQ"].Sublist (header.written.map Entry.key) := by
  obtain ⟨messageId, sourceChannel, transaction, returnCode, returnText, origin⟩ := header
  cases returnCode <;> cases returnText <;> cases origin <;>
    simp only [written, Option.map_none, Option.map_some, Option.toList_none, Option.toList_some,
      List.append_nil, List.map_cons, List.map_nil, List.cons_append,
      List.nil_append] <;>
    decide

/-- Whoever reads the fields of a header, each as a text, reads the header that was written. -/
theorem record_reads_render (name : String) {fields : List (Field Header)}
    (each : ∀ header : Header, ∀ entry ∈ header.written, ReadsEntry fields 0 entry)
    (refused : ∀ field ∈ fields, field.absence = .refused →
      field.key ∈ ["MSGID", "SOURCECHANNEL", "TXNSEQ"]) (header : Header) :
    (Shape.record name fields {}).Reads 1 header.render header := by
  have keys := header.keys_written
  have known : ["MSGID", "SOURCECHANNEL", "TXNSEQ", "RETURNCODE", "RETURNDESC",
    "O360SEQ"].Nodup := by decide
  have read := record_reads {} name (each header) (known.sublist keys.1)
    fun field member required => keys.2.subset (refused field member required)
  rwa [← render_eq, foldl_written] at read

/-- The entries of a header, one case each. -/
theorem forall_written {property : Entry Header → Prop}
    (messageId : ∀ text, property ⟨"MSGID", Json.quote text,
      fun read => { read with messageId := text }⟩)
    (sourceChannel : ∀ text, property ⟨"SOURCECHANNEL", Json.quote text,
      fun read => { read with sourceChannel := text }⟩)
    (transaction : ∀ text, property ⟨"TXNSEQ", Json.quote text,
      fun read => { read with transaction := text }⟩)
    (returnCode : ∀ text, property ⟨"RETURNCODE", Json.quote text,
      fun read => { read with returnCode := some text }⟩)
    (returnText : ∀ text, property ⟨"RETURNDESC", Json.quote text,
      fun read => { read with returnText := some text }⟩)
    (origin : ∀ text, property ⟨"O360SEQ", Json.quote text,
      fun read => { read with origin := some text }⟩)
    (header : Header) : ∀ entry ∈ header.written, property entry := by
  intro entry member
  simp only [written, List.mem_append, List.mem_cons, List.not_mem_nil, or_false,
    Option.mem_toList, Option.map_eq_some_iff] at member
  rcases member with ((((rfl | rfl | rfl) | ⟨text, -, rfl⟩) | ⟨text, -, rfl⟩) | ⟨text, -, rfl⟩)
  · exact messageId header.messageId
  · exact sourceChannel header.sourceChannel
  · exact transaction header.transaction
  · exact returnCode text
  · exact returnText text
  · exact origin text

/-- The service reads the header that was written. -/
theorem shape_reads (header : Header) : shape.Reads 1 header.render header := by
  have required (text : String) := (text_reads text).orElse (Json.begins_quote text) ""
  have free (text : String) := (text_reads text).optional (Json.begins_quote text)
  refine record_reads_render "MwHeader" (forall_written ?_ ?_ ?_ ?_ ?_ ?_) ?_ header
  · exact fun text => ⟨_, rfl, (required text).map _⟩
  · exact fun text => ⟨_, rfl, (required text).map _⟩
  · exact fun text => ⟨_, rfl, (required text).map _⟩
  · exact fun text => ⟨_, rfl, (free text).map _⟩
  · exact fun text => ⟨_, rfl, (free text).map _⟩
  · exact fun text => ⟨_, rfl, (free text).map _⟩
  · simp [fields, Field.of]

/-- So does the client. -/
theorem headerShape_reads (header : Header) :
    Client.headerShape.Reads 1 header.render header := by
  have required (text : String) := text_reads text
  have free (text : String) := (text_reads text).optional (Json.begins_quote text)
  refine record_reads_render "MwHeader" (forall_written ?_ ?_ ?_ ?_ ?_ ?_) ?_ header
  · exact fun text => ⟨_, rfl, (required text).map _⟩
  · exact fun text => ⟨_, rfl, (required text).map _⟩
  · exact fun text => ⟨_, rfl, (required text).map _⟩
  · exact fun text => ⟨_, rfl, (free text).map _⟩
  · exact fun text => ⟨_, rfl, (free text).map _⟩
  · exact fun text => ⟨_, rfl, (free text).map _⟩
  · simp [Field.of]

theorem begins_render (header : Header) : Json.Begins header.render := by
  rw [render]
  exact Json.begins_object _

end Header

/-! ### Orders -/

namespace Order

theorem begins_render (order : Order) : Json.Begins order.render := Json.begins_object _

/-- The service reads the order that was written. -/
theorem shape_reads (order : Order) : shape.Reads 1 order.render order := by
  have number (value : Int32) :=
    (integer32_reads value).orElse (Json.begins_integer value.toInt) 0
  let entries : List (Entry Order) :=
    [ ⟨"delay", toString order.delay.toInt, fun read => { read with delay := order.delay }⟩,
      ⟨"forCount", toString order.rounds.toInt,
        fun read => { read with rounds := order.rounds }⟩ ]
  have each : ∀ entry ∈ entries, ReadsEntry fields 0 entry := by
    intro entry member
    rcases List.mem_cons.1 member with rfl | last
    · exact ⟨_, rfl, (number order.delay).map _⟩
    · rw [List.mem_singleton.1 last]
      exact ⟨_, rfl, (number order.rounds).map _⟩
  have once : (entries.map Entry.key).Nodup := (by decide : ["delay", "forCount"].Nodup)
  have read := record_reads {} "DemoRequestPayload" each once (by simp [fields, Field.of])
  exact read

/-- What was written is the tree of two numbers. -/
theorem render_writes (order : Order) :
    Json.Writes 1 order.render
      (.table [("delay", .integer order.delay.toInt), ("forCount", .integer order.rounds.toInt)]) := by
  have number (value : Int32) : Json.Writes 0 (toString value.toInt) (.integer value.toInt) := by
    have low : -0x80000000 ≤ value.toInt := Int32.le_toInt value
    have high : value.toInt < 0x80000000 := Int32.toInt_lt value
    exact Json.integer_writes (by omega) (by omega)
  let entries : List Json.TreeEntry :=
    [⟨"delay", toString order.delay.toInt, .integer order.delay.toInt⟩,
      ⟨"forCount", toString order.rounds.toInt, .integer order.rounds.toInt⟩]
  have each : ∀ entry ∈ entries, Json.Writes 0 entry.written entry.tree := by
    intro entry member
    rcases List.mem_cons.1 member with rfl | last
    · exact number order.delay
    · rw [List.mem_singleton.1 last]
      exact number order.rounds
  have sorted : Json.insertAll [] entries =
      [("delay", .integer order.delay.toInt), ("forCount", .integer order.rounds.toInt)] := by
    have behind : ¬"forCount" < "delay" := by decide
    have apart : ("forCount" == "delay") = false := by decide
    simp only [entries, Json.insertAll, List.foldl_cons, List.foldl_nil, Tree.insertSorted, behind,
      apart, if_false, Bool.false_eq_true]
  have writes := Json.object_writes each
  rw [sorted] at writes
  exact writes

end Order

/-! ### Reports -/

namespace Report

/-- The entries of a report, with what each makes of a report that is being read. -/
def written (report : Report) : List (Entry Report) :=
  (report.environment.map fun text => (⟨"env", Json.quote text,
      fun read => { read with environment := some text }⟩ : Entry Report)).toList ++
    (report.data.map fun text => (⟨"data", Json.quote text,
      fun read => { read with data := some text }⟩ : Entry Report)).toList

theorem begins_render (report : Report) : Json.Begins report.render := Json.begins_object _

theorem render_eq (report : Report) :
    report.render = Json.object (report.written.map Entry.pair) := by
  obtain ⟨environment, data⟩ := report
  cases environment <;> cases data <;> rfl

theorem foldl_written (report : Report) :
    report.written.foldl (fun read entry => entry.change read) {} = report := by
  obtain ⟨environment, data⟩ := report
  cases environment <;> cases data <;> rfl

theorem keys_written (report : Report) :
    (report.written.map Entry.key).Sublist ["env", "data"] := by
  obtain ⟨environment, data⟩ := report
  cases environment <;> cases data <;>
    simp only [written, Option.map_none, Option.map_some, Option.toList_none, Option.toList_some,
      List.append_nil, List.map_cons, List.map_nil, List.cons_append, List.nil_append] <;>
    decide

/-- Whoever reads the fields of a report, each as a text, and does without either, reads the report
that was written. -/
theorem record_reads_render (name : String) {fields : List (Field Report)}
    (environment : ∀ text, ReadsEntry fields 0 ⟨"env", Json.quote text,
      fun read => { read with environment := some text }⟩)
    (data : ∀ text, ReadsEntry fields 0 ⟨"data", Json.quote text,
      fun read => { read with data := some text }⟩)
    (free : ∀ field ∈ fields, field.absence ≠ .refused) (report : Report) :
    (Shape.record name fields {}).Reads 1 report.render report := by
  have each : ∀ entry ∈ report.written, ReadsEntry fields 0 entry := by
    intro entry member
    simp only [written, List.mem_append, Option.mem_toList, Option.map_eq_some_iff] at member
    rcases member with ⟨text, -, rfl⟩ | ⟨text, -, rfl⟩
    · exact environment text
    · exact data text
  rw [render_eq]
  exact record_reads_of_foldl name each
    ((by decide : ["env", "data"].Nodup).sublist report.keys_written) free report.foldl_written

/-- The service reads the report that was written. -/
theorem shape_reads (report : Report) : shape.Reads 1 report.render report := by
  have part (text : String) := (text_reads text).optional (Json.begins_quote text)
  exact record_reads_render "DemoResponsePayload" (fun text => ⟨_, rfl, (part text).map _⟩)
    (fun text => ⟨_, rfl, (part text).map _⟩) (by simp [fields, Field.of]) report

/-- So does the client. -/
theorem reportShape_reads (report : Report) :
    Client.reportShape.Reads 1 report.render report := by
  have part (text : String) := (text_reads text).optional (Json.begins_quote text)
  exact record_reads_render "DemoTranRs" (fun text => ⟨_, rfl, (part text).map _⟩)
    (fun text => ⟨_, rfl, (part text).map _⟩) (by simp [Field.of]) report

end Report

/-! ### Envelopes -/

namespace Inbound

variable {Payload : Type} {kind : PayloadKind Payload}

/-- The service reads an envelope part by part, each of which may be missing. -/
theorem record_reads_parts {headerText payloadText : String} {header : Option Header}
    {payload : Option Payload} (headerReads : Header.shape.optional.Reads 1 headerText header)
    (payloadReads : kind.shape.optional.Reads 1 payloadText payload) :
    (shape kind).Reads 2 (Json.object [("MWHEADER", headerText), ("TRANRQ", payloadText)])
      ⟨header, payload⟩ := by
  let entries : List (Entry (Inbound Payload)) :=
    [ ⟨"MWHEADER", headerText, fun read => { read with header := header }⟩,
      ⟨"TRANRQ", payloadText, fun read => { read with payload := payload }⟩ ]
  have each : ∀ entry ∈ entries, ReadsEntry (fields kind) 1 entry := by
    intro entry member
    rcases List.mem_cons.1 member with rfl | last
    · exact ⟨_, rfl, headerReads.map _⟩
    · rw [List.mem_singleton.1 last]
      exact ⟨_, rfl, payloadReads.map _⟩
  have once : (entries.map Entry.key).Nodup := (by decide : ["MWHEADER", "TRANRQ"].Nodup)
  have read := record_reads {} "Envelope" each once (by simp [fields, Field.of])
  exact read

/-- The service reads the envelope of a call, whatever payload it has. -/
theorem shape_reads (header : Header) {written : String} {payload : Payload}
    (reads : kind.shape.Reads 1 written payload) (begins : Json.Begins written) :
    (shape kind).Reads 2 (Json.object [("MWHEADER", header.render), ("TRANRQ", written)])
      ⟨some header, some payload⟩ :=
  record_reads_parts (header.shape_reads.optional header.begins_render) (reads.optional begins)

/-- The service reads the envelope that it has written itself, with null for what is missing. -/
theorem shape_reads_render (reads : ∀ payload, kind.shape.Reads 1 (kind.render payload) payload)
    (begins : ∀ payload, Json.Begins (kind.render payload)) (inbound : Inbound Payload) :
    (shape kind).Reads 2 (inbound.render kind) inbound :=
  record_reads_parts (optional_reads Header.shape_reads Header.begins_render inbound.header)
    (optional_reads reads begins inbound.payload)

end Inbound

namespace Client

/-- The service reads the order that the client has written, and the header. -/
theorem body_reads_order (header : Header) (order : Order) :
    (Inbound.shape PayloadKind.order).Reads 2 (body header order) ⟨some header, some order⟩ :=
  Inbound.shape_reads header order.shape_reads order.begins_render

/-- A service that takes any payload reads the order as a tree. -/
theorem body_reads_free (header : Header) (order : Order) :
    (Inbound.shape PayloadKind.free).Reads 2 (body header order)
      ⟨some header, some (.table [("delay", .integer order.delay.toInt),
        ("forCount", .integer order.rounds.toInt)])⟩ :=
  Inbound.shape_reads header order.render_writes.any order.begins_render

end Client

namespace Reply

section Written

variable {Answer : Type} (setHeader : Header → Answer → Answer)
  (setReport : Report → Answer → Answer)

/-- The entries of an answer, with what each makes of an answer that is being read. -/
def written (reply : Reply) : List (Entry Answer) :=
  (reply.header.map fun header => (⟨"MWHEADER", header.render, setHeader header⟩ :
      Entry Answer)).toList ++
    (reply.report.map fun report => (⟨"TRANRS", report.render, setReport report⟩ :
      Entry Answer)).toList

theorem render_eq (reply : Reply) :
    reply.render = Json.object ((reply.written setHeader setReport).map Entry.pair) := by
  obtain ⟨header, report⟩ := reply
  cases header <;> cases report <;> rfl

theorem keys_written (reply : Reply) :
    ((reply.written setHeader setReport).map Entry.key).Sublist ["MWHEADER", "TRANRS"] := by
  obtain ⟨header, report⟩ := reply
  cases header <;> cases report <;>
    simp only [written, Option.map_none, Option.map_some, Option.toList_none, Option.toList_some,
      List.append_nil, List.map_cons, List.map_nil, List.cons_append, List.nil_append] <;>
    decide

/-- Whoever reads the header and the report of an answer, and does without either, reads the answer
that was written, with the parts that it has. -/
theorem record_reads_render (name : String) {fields : List (Field Answer)} (start : Answer)
    (headers : ∀ header, ReadsEntry fields 1 ⟨"MWHEADER", header.render, setHeader header⟩)
    (reports : ∀ report, ReadsEntry fields 1 ⟨"TRANRS", report.render, setReport report⟩)
    (free : ∀ field ∈ fields, field.absence ≠ .refused) (reply : Reply) :
    (Shape.record name fields start).Reads 2 reply.render
      ((reply.written setHeader setReport).foldl (fun read entry => entry.change read) start) := by
  have each : ∀ entry ∈ reply.written setHeader setReport, ReadsEntry fields 1 entry := by
    intro entry member
    simp only [written, List.mem_append, Option.mem_toList, Option.map_eq_some_iff] at member
    rcases member with ⟨header, -, rfl⟩ | ⟨report, -, rfl⟩
    · exact headers header
    · exact reports report
  rw [render_eq setHeader setReport]
  exact record_reads_of_foldl name each
    ((by decide : ["MWHEADER", "TRANRS"].Nodup).sublist (reply.keys_written setHeader setReport))
    free rfl

end Written

/-- The service reads the answer that it has written itself. -/
theorem shape_reads (reply : Reply) : shape.Reads 2 reply.render reply := by
  have read := record_reads_render (fun header read => { read with header := some header })
    (fun report read => { read with report := some report }) "ResponseEnvelope" {}
    (fun header => ⟨_, rfl, (header.shape_reads.optional header.begins_render).map _⟩)
    (fun report => ⟨_, rfl, (report.shape_reads.optional report.begins_render).map _⟩)
    (show ∀ field ∈ fields, field.absence ≠ .refused by simp [fields, Field.of]) reply
  obtain ⟨header, report⟩ := reply
  cases header <;> cases report <;> exact read

/-- The client reads the answer that the service has written. -/
theorem answerShape_reads (reply : Reply) :
    Client.Answer.shape.Reads 2 reply.render ⟨reply.header, reply.report⟩ := by
  let fields : List (Field Client.Answer) :=
    [ .of "MWHEADER" .fromTable Client.headerShape.optional fun value answer =>
        { answer with header := value },
      .of "TRANRS" .fromTable Client.reportShape.optional fun value answer =>
        { answer with report := value } ]
  have read := record_reads_render (fun header read => { read with header := some header })
    (fun report read => { read with report := some report }) "DemoResponse" {}
    (fun header => ⟨_, rfl, (header.headerShape_reads.optional header.begins_render).map _⟩)
    (fun report => ⟨_, rfl, (report.reportShape_reads.optional report.begins_render).map _⟩)
    (show ∀ field ∈ fields, field.absence ≠ .refused by simp [fields, Field.of]) reply
  obtain ⟨header, report⟩ := reply
  cases header <;> cases report <;> exact read

end Reply

end LatencyService
