/-
Whatever the service writes as JSON it reads again as what it wrote: headers,
orders, reports, answers, envelopes of calls and the settings themselves. It
follows that no two values are written alike, and that a document, however it
spells a value, is written in a form that never changes again.

Envelopes of calls and the settings write null for what is missing, answers and
reports leave it out. Either way it is told from what is there and empty.
-/

import LatencyService.Config.Settings
import LatencyService.Proofs.Envelopes

namespace LatencyService

open Shape

/-! ### The sections of the settings -/

/-- A number that may be missing, as the settings write it. -/
theorem Settings.renderNumber?_reads (value : Option UInt64) :
    natural64.optional.Reads 0 (renderNumber? value) value := by
  have read := optional_reads natural64_reads (fun number => Json.begins_integer number.toNat) value
  cases value <;> exact read

namespace ListenerSettings

/-- The entries of the section, with what each makes of a section that is being read. -/
def written (part : ListenerSettings) : List (Entry ListenerSettings) :=
  [⟨"bind_address", Json.quote part.bindAddress,
    fun read => { read with bindAddress := part.bindAddress }⟩]

theorem shape_reads (part : ListenerSettings) :
    shape.Reads 1 (Json.object (part.written.map Entry.pair)) part := by
  rw [shape]
  refine record_reads_of_foldl "ListenerConfig" ?_ ?_ (by simp [Field.of]) rfl
  · exact List.forall_mem_singleton.2 ⟨_, rfl, (text_reads part.bindAddress).map _⟩
  · exact (by decide : ["bind_address"].Nodup)

end ListenerSettings

namespace OperationSettings

/-- The entries of the section, with what each makes of a section that is being read. -/
def written (part : OperationSettings) : List (Entry OperationSettings) :=
  [ ⟨"env", Json.quote part.environment,
      fun read => { read with environment := part.environment }⟩,
    ⟨"burn_iterations", toString part.burnIterations.toNat,
      fun read => { read with burnIterations := part.burnIterations }⟩ ]

theorem shape_reads (part : OperationSettings) :
    shape.Reads 1 (Json.object (part.written.map Entry.pair)) part := by
  rw [shape]
  refine record_reads_of_foldl "DemoConfig" ?_ ?_ (by simp [Field.of]) rfl
  · refine List.forall_mem_cons.2 ⟨⟨_, rfl, ?_⟩, List.forall_mem_singleton.2 ⟨_, rfl, ?_⟩⟩
    · exact (text_reads part.environment).map _
    · exact (natural64_reads part.burnIterations).map _
  · exact (by decide : ["env", "burn_iterations"].Nodup)

end OperationSettings

namespace OutboundSettings

/-- The entries of the section, with what each makes of a section that is being read. -/
def written (part : OutboundSettings) : List (Entry OutboundSettings) :=
  [ ⟨"url", Json.quote part.url, fun read => { read with url := part.url }⟩,
    ⟨"timeout_secs", Settings.renderNumber? part.timeoutSeconds,
      fun read => { read with timeoutSeconds := part.timeoutSeconds }⟩ ]

theorem shape_reads (part : OutboundSettings) :
    shape.Reads 1 (Json.object (part.written.map Entry.pair)) part := by
  rw [shape]
  refine record_reads_of_foldl "OutboundConfig" ?_ ?_ (by simp [Field.of]) rfl
  · refine List.forall_mem_cons.2 ⟨⟨_, rfl, ?_⟩, List.forall_mem_singleton.2 ⟨_, rfl, ?_⟩⟩
    · exact (text_reads part.url).map _
    · exact (Settings.renderNumber?_reads part.timeoutSeconds).map _
  · exact (by decide : ["url", "timeout_secs"].Nodup)

end OutboundSettings

namespace TimeoutSettings

/-- The entries of the section, with what each makes of a section that is being read. -/
def written (part : TimeoutSettings) : List (Entry TimeoutSettings) :=
  [⟨"request_secs", Settings.renderNumber? part.requestSeconds,
    fun read => { read with requestSeconds := part.requestSeconds }⟩]

theorem shape_reads (part : TimeoutSettings) :
    shape.Reads 1 (Json.object (part.written.map Entry.pair)) part := by
  rw [shape]
  refine record_reads_of_foldl "TimeoutConfig" ?_ ?_ (by simp [Field.of]) rfl
  · refine List.forall_mem_singleton.2 ⟨_, rfl, ?_⟩
    exact (Settings.renderNumber?_reads part.requestSeconds).map _
  · exact (by decide : ["request_secs"].Nodup)

end TimeoutSettings

/-- The name of a format is read as the format. -/
theorem LogFormat.name_reads (format : LogFormat) :
    (choice variants).Reads 0 (Json.quote format.name) format := by
  cases format <;> exact choice_reads rfl

namespace ObservabilitySettings

/-- The entries of the section, with what each makes of a section that is being read. -/
def written (part : ObservabilitySettings) : List (Entry ObservabilitySettings) :=
  [ ⟨"log_level", Json.quote part.logLevel, fun read => { read with logLevel := part.logLevel }⟩,
    ⟨"log_format", Json.quote part.logFormat.name,
      fun read => { read with logFormat := part.logFormat }⟩,
    ⟨"metrics_enabled", if part.metricsEnabled then "true" else "false",
      fun read => { read with metricsEnabled := part.metricsEnabled }⟩,
    ⟨"metrics_address", Json.quote part.metricsAddress,
      fun read => { read with metricsAddress := part.metricsAddress }⟩ ]

theorem shape_reads (part : ObservabilitySettings) :
    shape.Reads 1 (Json.object (part.written.map Entry.pair)) part := by
  rw [shape]
  refine record_reads_of_foldl "ObservabilityConfig" ?_ ?_ (by simp [Field.of]) rfl
  · refine List.forall_mem_cons.2 ⟨⟨_, rfl, ?_⟩, List.forall_mem_cons.2 ⟨⟨_, rfl, ?_⟩,
      List.forall_mem_cons.2 ⟨⟨_, rfl, ?_⟩, List.forall_mem_singleton.2 ⟨_, rfl, ?_⟩⟩⟩⟩
    · exact (text_reads part.logLevel).map _
    · exact part.logFormat.name_reads.map _
    · exact (boolean_reads part.metricsEnabled).map _
    · exact (text_reads part.metricsAddress).map _
  · exact (by decide : ["log_level", "log_format", "metrics_enabled", "metrics_address"].Nodup)

end ObservabilitySettings

/-! ### The settings -/

namespace Settings

/-- The entries of the settings, one for each section. -/
def written (settings : Settings) : List (Entry Settings) :=
  [ ⟨"listener", Json.object (settings.listener.written.map Entry.pair),
      fun read => { read with listener := settings.listener }⟩,
    ⟨"service", Json.object (settings.operation.written.map Entry.pair),
      fun read => { read with operation := settings.operation }⟩,
    ⟨"outbound", Json.object (settings.outbound.written.map Entry.pair),
      fun read => { read with outbound := settings.outbound }⟩,
    ⟨"timeouts", Json.object (settings.timeouts.written.map Entry.pair),
      fun read => { read with timeouts := settings.timeouts }⟩,
    ⟨"observability", Json.object (settings.observability.written.map Entry.pair),
      fun read => { read with observability := settings.observability }⟩ ]

theorem render_eq (settings : Settings) :
    settings.render = Json.object (settings.written.map Entry.pair) := rfl

/-- The service reads the settings that were written. -/
theorem shape_reads (settings : Settings) : shape.Reads 2 settings.render settings := by
  rw [shape, render_eq]
  refine record_reads_of_foldl "ServiceConfig" ?_ ?_ (by simp [Field.of]) rfl
  · refine List.forall_mem_cons.2 ⟨⟨_, rfl, ?_⟩, List.forall_mem_cons.2 ⟨⟨_, rfl, ?_⟩,
      List.forall_mem_cons.2 ⟨⟨_, rfl, ?_⟩, List.forall_mem_cons.2 ⟨⟨_, rfl, ?_⟩,
        List.forall_mem_singleton.2 ⟨_, rfl, ?_⟩⟩⟩⟩⟩
    · exact settings.listener.shape_reads.map _
    · exact settings.operation.shape_reads.map _
    · exact settings.outbound.shape_reads.map _
    · exact settings.timeouts.shape_reads.map _
    · exact settings.observability.shape_reads.map _
  · exact (by decide : ["listener", "service", "outbound", "timeouts", "observability"].Nodup)

end Settings

/-! ### There and back -/

namespace Shape

variable {Value : Type}

/-- The form in which a document is written again, if it is read as a value at all. -/
def rewrite (shape : Shape Value) (render : Value → String) (document : Octets) :
    Except Json.Fault String :=
  (shape.ofText document).map render

/-- Values are written so that they are read again. -/
structure RoundTrips (shape : Shape Value) (render : Value → String) : Prop where
  /-- Every value is read from the text that it is written as. -/
  reads : ∀ value, shape.ofText (Octets.ofText (render value)) = .ok value
  /-- No two values are written alike. -/
  injective : Function.Injective render
  /-- A document that is read at all is written in a form that is read as the same value, and that
  is written as it stands. -/
  settles : ∀ document text, shape.rewrite render document = .ok text →
    shape.ofText (Octets.ofText text) = shape.ofText document ∧
      shape.rewrite render (Octets.ofText text) = .ok text

/-- It is enough that every value is read from its own text. -/
theorem RoundTrips.of_reads {shape : Shape Value} {render : Value → String} {level : Nat}
    (shallow : level < Json.depthLimit) (each : ∀ value, shape.Reads level (render value) value) :
    shape.RoundTrips render := by
  have reads (value : Value) : shape.ofText (Octets.ofText (render value)) = .ok value :=
    (each value).ofText shallow
  refine ⟨reads, fun first second alike => ?_, fun document text written => ?_⟩
  · have same := reads second
    rw [← alike, reads first] at same
    exact Except.ok.inj same
  · cases read : shape.ofText document with
    | error fault =>
      rw [rewrite, read] at written
      cases written
    | ok value =>
      rw [rewrite, read] at written
      cases written
      rw [rewrite, reads value]
      exact ⟨rfl, rfl⟩

end Shape

/-- Every kind of value that is written as JSON is read again as what it was, and an answer without
a report is told from one whose report is empty. -/
theorem wire_forms_round_trip :
    Header.shape.RoundTrips Header.render ∧ Order.shape.RoundTrips Order.render ∧
      Report.shape.RoundTrips Report.render ∧ Reply.shape.RoundTrips Reply.render ∧
      (Inbound.shape .order).RoundTrips (Inbound.render .order) ∧
      Settings.shape.RoundTrips Settings.render ∧
      ∀ header : Option Header,
        (⟨header, none⟩ : Reply).render ≠ (⟨header, some {}⟩ : Reply).render := by
  have replies : Reply.shape.RoundTrips Reply.render :=
    .of_reads (by decide) Reply.shape_reads
  refine ⟨.of_reads (by decide) Header.shape_reads, .of_reads (by decide) Order.shape_reads,
    .of_reads (by decide) Report.shape_reads, replies,
    .of_reads (by decide) (Inbound.shape_reads_render Order.shape_reads Order.begins_render),
    .of_reads (by decide) Settings.shape_reads, fun header alike => ?_⟩
  cases replies.injective alike

end LatencyService
