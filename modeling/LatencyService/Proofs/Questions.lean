/-
What the questions of a client are for the service that they reach. The body
carries a header and an order, and the service finds the same two in it; so it
does what is asked, or names the constraints that they do not meet. Which those
are is said here for each constraint by itself.
-/

import LatencyService.Client.Call
import LatencyService.Http.Dispatch
import LatencyService.Proofs.Envelopes

namespace LatencyService

/-! ### Violated constraints -/

namespace ConstrainedField

/-- The text of a field in a header. -/
def text? (header : Header) : ConstrainedField → Option String
  | messageId => some header.messageId
  | sourceChannel => some header.sourceChannel
  | transaction => some header.transaction
  | delay | rounds => none

/-- The number of a field in an order. -/
def number? (order : Order) : ConstrainedField → Option Int32
  | delay => some order.delay
  | rounds => some order.rounds
  | messageId | sourceChannel | transaction => none

end ConstrainedField

/-- What a violation says of a header and an order, both of which are there. -/
def Violation.Holds (header : Header) (order : Order) : Violation → Prop
  | headerMissing | payloadMissing => False
  | blank field => ∃ text ∈ field.text? header, Blank.isBlank text = true
  | tooLong field =>
    ∃ text ∈ field.text? header, Blank.isBlank text = false ∧ Header.maxLength < text.length
  | negative field => ∃ number ∈ field.number? order, number < 0

namespace Header

/-- A text that a required field may hold: there is more to it than blanks, and not too much. -/
def IsProper (text : String) : Prop := Blank.isBlank text = false ∧ text.length ≤ maxLength

instance : DecidablePred IsProper := fun text =>
  inferInstanceAs (Decidable (Blank.isBlank text = false ∧ text.length ≤ maxLength))

variable {field : ConstrainedField} {text : String} {violation : Violation}

theorem mem_checkField :
    violation ∈ checkField field text ↔
      violation = .blank field ∧ Blank.isBlank text = true ∨
        violation = .tooLong field ∧ Blank.isBlank text = false ∧ maxLength < text.length := by
  rw [checkField]
  split
  · rename_i blank
    simp [blank]
  · rename_i written
    rw [Bool.not_eq_true] at written
    split
    · rename_i long
      simp [written, long]
    · rename_i short
      simp [written, short]

theorem checkField_eq_nil : checkField field text = [] ↔ IsProper text := by
  rw [checkField, IsProper]
  split
  · rename_i blank
    simp [blank]
  · rename_i written
    rw [Bool.not_eq_true] at written
    split
    · rename_i long
      simp [written, Nat.not_le.2 long]
    · rename_i short
      simp [written, Nat.not_lt.1 short]

/-- At most one of the violations of a field occurs. -/
theorem checkField_sublist (field : ConstrainedField) (text : String) :
    (checkField field text).Sublist [.blank field, .tooLong field] := by
  rw [checkField]
  split
  · exact List.sublist_append_left [Violation.blank field] [.tooLong field]
  · split
    · exact List.sublist_append_right [Violation.blank field] [.tooLong field]
    · exact List.nil_sublist _

end Header

/-- The violations of a header and an order. -/
def violationsOf (header : Header) (order : Order) : List Violation :=
  header.violations ++ order.violations

section Violations

variable {header : Header} {order : Order}

/-- Just the violations are listed that hold. -/
theorem mem_violationsOf {violation : Violation} :
    violation ∈ violationsOf header order ↔ violation.Holds header order := by
  simp only [violationsOf, Header.violations, Order.violations, List.mem_append,
    Header.mem_checkField, List.mem_ite_nil_right, List.mem_singleton]
  cases violation with
  | headerMissing => simp [Violation.Holds]
  | payloadMissing => simp [Violation.Holds]
  | blank field => cases field <;> simp [Violation.Holds, ConstrainedField.text?]
  | tooLong field => cases field <;> simp [Violation.Holds, ConstrainedField.text?]
  | negative field => cases field <;> simp [Violation.Holds, ConstrainedField.number?]

/-- The violations come in the order of the fields, each at most once. -/
theorem violationsOf_sublist (header : Header) (order : Order) :
    (violationsOf header order).Sublist
      [ .blank .messageId, .tooLong .messageId, .blank .sourceChannel, .tooLong .sourceChannel,
        .blank .transaction, .tooLong .transaction, .negative .delay, .negative .rounds ] := by
  have number (value : Int32) (field : ConstrainedField) :
      (if value < 0 then [Violation.negative field] else []).Sublist [.negative field] := by
    split
    · exact List.Sublist.refl _
    · exact List.nil_sublist _
  exact (((Header.checkField_sublist .messageId _).append
    (Header.checkField_sublist .sourceChannel _)).append
      (Header.checkField_sublist .transaction _)).append
        ((number order.delay .delay).append (number order.rounds .rounds))

/-- Nothing is violated when the required fields are proper and no number is below zero. -/
theorem violationsOf_eq_nil :
    violationsOf header order = [] ↔
      (Header.IsProper header.messageId ∧ Header.IsProper header.sourceChannel ∧
        Header.IsProper header.transaction) ∧ 0 ≤ order.delay ∧ 0 ≤ order.rounds := by
  have number (value : Int32) (field : ConstrainedField) :
      (if value < 0 then [Violation.negative field] else []) = [] ↔ 0 ≤ value := by
    rw [← Int32.not_lt]
    split
    · rename_i below
      simp [below]
    · rename_i natural
      simp [natural]
  simp only [violationsOf, Header.violations, Order.violations, List.append_eq_nil_iff,
    Header.checkField_eq_nil, number, and_assoc]

end Violations

/-! ### Extraction -/

namespace Http

/-- A request for work whose body holds a header and a payload is accepted or names all the
violations. -/
theorem extract_of_reads {Payload : Type} {kind : PayloadKind Payload} {request : Request}
    {header : Header} {payload : Payload} (json : MediaType.isJson request.headers = true)
    (fits : request.body.length ≤ bodyLimit)
    (reads : (Inbound.shape kind).ofText request.body = .ok ⟨some header, some payload⟩) :
    extract kind request =
      if header.violations ++ kind.violations payload = [] then .ok ⟨header, payload⟩
      else .error
        (.invalid ((header.violations ++ kind.violations payload).map Violation.message)) := by
  have violations : (⟨some header, some payload⟩ : Inbound Payload).violations kind =
      header.violations ++ kind.violations payload := rfl
  rw [extract, json, if_neg (by decide), if_neg (Nat.not_lt.2 fits), reads]
  dsimp only
  rw [Inbound.accept]
  dsimp only
  rw [violations]
  by_cases empty : header.violations ++ kind.violations payload = []
  · rw [if_pos empty, if_pos (List.isEmpty_iff.2 empty)]
  · rw [if_neg empty, if_neg (fun none => empty (List.isEmpty_iff.1 none))]

/-- A target that is the path of an endpoint has it as its path. -/
theorem Request.path_of_target {request : Request} {route : Route}
    (target : request.target = route.path) : request.path = route.path := by
  rw [path, target]
  cases route <;> rfl

end Http

/-! ### What a question asks for -/

namespace Client

/-- What a question sends in the typed envelope, if it sends one. -/
def Question.sent? : Question → Option (Header × Order)
  | demo header order => some (header, order)
  | demoService header delay => some (header, { delay })
  | camel header | relay header => some (header, {})
  | health | document .. => none

/-- The request of the typed envelope to a target. -/
def posting (header : Header) (order : Order) (target : String) : Http.Request where
  target := target
  headers := [("content-type", Octets.ofText "application/json")]
  body := Octets.ofText (body header order)

variable {header : Header} {order : Order} {target : String}

theorem isJson_posting : Http.MediaType.isJson (posting header order target).headers = true := by
  have json : Http.MediaType.isJson
    [("content-type", Octets.ofText "application/json")] = true := by decide +kernel
  exact json

/-- An endpoint for work gets what is posted to it. -/
theorem ofRequest_posting {route : Http.Route} (works : route ≠ .health) :
    Http.Dispatch.ofRequest (posting header order route.path) =
      Http.Dispatch.ofRoute route (posting header order route.path) := by
  have path : (posting header order route.path).path = route.path :=
    Http.Request.path_of_target rfl
  have allowed : route.methods.contains (posting header order route.path).method = true := by
    cases route with
    | health => exact absurd rfl works
    | _ => rfl
  rw [Http.Dispatch.ofRequest, path, Http.Route.ofPath?_path]
  dsimp only
  rw [allowed, if_pos rfl]

section Extraction

variable (target) (fits : (Octets.ofText (body header order)).length ≤ Http.bodyLimit)
include fits

theorem extract_order :
    Http.extract .order (posting header order target) =
      if violationsOf header order = [] then .ok ⟨header, order⟩
      else .error (.invalid ((violationsOf header order).map Violation.message)) :=
  Http.extract_of_reads isJson_posting fits ((body_reads_order header order).ofText (by decide))

/-- Where any payload will do, an order violates nothing. -/
theorem extract_free :
    ∃ payload, Http.extract .free (posting header order target) =
      if header.violations = [] then .ok ⟨header, payload⟩
      else .error (.invalid (header.violations.map Violation.message)) := by
  have read := (body_reads_free header order).ofText (by decide)
  have extracted := Http.extract_of_reads (isJson_posting : Http.MediaType.isJson
    (posting header order target).headers = true) fits read
  have none : header.violations ++ PayloadKind.free.violations (.table
    [("delay", .integer order.delay.toInt), ("forCount", .integer order.rounds.toInt)]) =
      header.violations := List.append_nil _
  rw [none] at extracted
  exact ⟨_, extracted⟩

end Extraction

namespace Question

/-- The endpoint that a question goes to. -/
def route? : Question → Option Http.Route
  | demo .. => some .demo
  | demoService .. => some .demoService
  | camel _ => some .camel
  | relay _ => some .relay
  | health => some .health
  | document .. => none

/-- What is to be done for a question that violates nothing. -/
def work? : Question → Option Http.Dispatch
  | demo header order => some (.demo header order)
  | demoService _ delay => some (.demoService { delay })
  | camel header =>
    some (.answered .camel (.json 200 (Reply.headerOnly header).render)
      [.routingStub header.messageId])
  | relay header => some (.relay header)
  | health | document .. => none

variable {question : Question} {route : Http.Route}

theorem path_of_route? (asks : question.route? = some route) : question.path = route.path := by
  cases question <;> cases asks <;> rfl

section Sent

variable (asks : question.route? = some route) (sent : question.sent? = some (header, order))
  (fits : (Octets.ofText (Client.body header order)).length ≤ Http.bodyLimit)
include asks sent fits

/-- The service does what a question asks for that violates nothing. -/
theorem ofRequest_of_valid (valid : violationsOf header order = []) :
    some (Http.Dispatch.ofRequest { question.request with target := route.path }) =
      question.work? := by
  obtain ⟨payload, free⟩ := extract_free route.path fits
  have free_valid : header.violations = [] := (List.append_eq_nil_iff.1 valid).1
  rw [if_pos free_valid] at free
  have typed : Http.extract .order (posting header order route.path) = .ok ⟨header, order⟩ := by
    rw [extract_order _ fits, if_pos valid]
  cases question with
  | demo =>
    cases asks
    cases sent
    show some (Http.Dispatch.ofRequest (posting header order _)) = _
    rw [ofRequest_posting (by decide), Http.Dispatch.ofRoute, typed]
    rfl
  | demoService =>
    cases asks
    cases sent
    show some (Http.Dispatch.ofRequest (posting header _ _)) = _
    rw [ofRequest_posting (by decide), Http.Dispatch.ofRoute, typed]
    rfl
  | camel =>
    cases asks
    cases sent
    show some (Http.Dispatch.ofRequest (posting header {} _)) = _
    rw [ofRequest_posting (by decide), Http.Dispatch.ofRoute, free]
    rfl
  | relay =>
    cases asks
    cases sent
    show some (Http.Dispatch.ofRequest (posting header {} _)) = _
    rw [ofRequest_posting (by decide), Http.Dispatch.ofRoute, free]
    rfl
  | _ => cases sent

/-- A question that violates constraints is refused with all of them. -/
theorem ofRequest_of_invalid (invalid : violationsOf header order ≠ []) :
    Http.Dispatch.ofRequest { question.request with target := route.path } =
      .refused route (.invalid ((violationsOf header order).map Violation.message)) := by
  obtain ⟨payload, free⟩ := extract_free route.path fits
  have typed : Http.extract .order (posting header order route.path) =
      .error (.invalid ((violationsOf header order).map Violation.message)) := by
    rw [extract_order _ fits, if_neg invalid]
  have plain : violationsOf header {} = header.violations := List.append_nil _
  cases question with
  | demo =>
    cases asks
    cases sent
    show Http.Dispatch.ofRequest (posting header order _) = _
    rw [ofRequest_posting (by decide), Http.Dispatch.ofRoute, typed]
  | demoService =>
    cases asks
    cases sent
    show Http.Dispatch.ofRequest (posting header _ _) = _
    rw [ofRequest_posting (by decide), Http.Dispatch.ofRoute, typed]
  | camel =>
    cases asks
    cases sent
    rw [plain] at invalid ⊢
    rw [if_neg invalid] at free
    show Http.Dispatch.ofRequest (posting header {} _) = _
    rw [ofRequest_posting (by decide), Http.Dispatch.ofRoute, free]
  | relay =>
    cases asks
    cases sent
    rw [plain] at invalid ⊢
    rw [if_neg invalid] at free
    show Http.Dispatch.ofRequest (posting header {} _) = _
    rw [ofRequest_posting (by decide), Http.Dispatch.ofRoute, free]
  | _ => cases sent

end Sent

/-- Asking for health needs nothing. -/
theorem ofRequest_health :
    Http.Dispatch.ofRequest { health.request with target := Http.Route.health.path } =
      .answered .health
        (.json 200 (Reply.reportOnly (.ofData Http.Dispatch.healthText)).render)
        [.healthCheck] := by
  have path : ({ health.request with target := Http.Route.health.path } : Http.Request).path =
      Http.Route.health.path := Http.Request.path_of_target rfl
  rw [Http.Dispatch.ofRequest, path, Http.Route.ofPath?_path]
  rfl

end Question

end Client

end LatencyService
