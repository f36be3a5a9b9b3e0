/-
What is demanded of an envelope, apart from how it is checked: which texts and
numbers are in order, what every complaint says of an envelope, and the table of
all complaints in the order in which they are made. An envelope is accepted as it
is if nothing in the table holds of it, and otherwise refused with just those
complaints that hold.

The three optional fields of a header are in none of this, and a payload of any
kind whatever is only asked to be there.
-/

import LatencyService.Proofs.Rejection

namespace LatencyService

/-! ### White space -/

/-- The code points with the property White_Space. -/
def whiteSpace : List Nat :=
  [ 0x09, 0x0A, 0x0B, 0x0C, 0x0D, 0x20, 0x85, 0xA0, 0x1680, 0x2000, 0x2001, 0x2002, 0x2003, 0x2004,
    0x2005, 0x2006, 0x2007, 0x2008, 0x2009, 0x200A, 0x2028, 0x2029, 0x202F, 0x205F, 0x3000 ]

theorem isBlankChar_iff {char : Char} : isBlankChar char = true ↔ char.toNat ∈ whiteSpace := by
  simp only [isBlankChar, whiteSpace, Bool.or_eq_true, Bool.and_eq_true, decide_eq_true_eq,
    beq_iff_eq, List.mem_cons, List.not_mem_nil, or_false]
  omega

namespace Blank

variable {text : String}

theorem isBlank_iff : isBlank text = true ↔ ∀ char ∈ text.toList, char.toNat ∈ whiteSpace := by
  simp only [isBlank, List.all_eq_true, isBlankChar_iff]

theorem isBlank_eq_false_iff :
    isBlank text = false ↔ ∃ char ∈ text.toList, char.toNat ∉ whiteSpace := by
  rw [← Bool.not_eq_true, isBlank_iff]
  simp only [not_forall, exists_prop]

end Blank

/-! ### Complaints -/

/-- A text that a required field may hold: a character of it is no white space, and it has at most
twenty characters in all. -/
def Header.Fits (text : String) : Prop :=
  (∃ char ∈ text.toList, char.toNat ∉ whiteSpace) ∧ text.length ≤ 20

/-- What a complaint says of an envelope. The numbers that must not be negative are those that
`number?` finds in the payload. A text without anything but white space is not also too long. -/
def Violation.Concerns {Payload : Type} (number? : Payload → ConstrainedField → Option Int32)
    (inbound : Inbound Payload) : Violation → Prop
  | headerMissing => inbound.header = none
  | payloadMissing => inbound.payload = none
  | blank field => ∃ header ∈ inbound.header, ∃ text ∈ field.text? header,
    ∀ char ∈ text.toList, char.toNat ∈ whiteSpace
  | tooLong field => ∃ header ∈ inbound.header, ∃ text ∈ field.text? header,
    (∃ char ∈ text.toList, char.toNat ∉ whiteSpace) ∧ 20 < text.length
  | negative field => ∃ payload ∈ inbound.payload, ∃ number ∈ number? payload field, number < 0

instance {Payload : Type} (number? : Payload → ConstrainedField → Option Int32)
    (inbound : Inbound Payload) : DecidablePred (Violation.Concerns number? inbound) := fun
  | .headerMissing => inferInstanceAs (Decidable (_ = none))
  | .payloadMissing => inferInstanceAs (Decidable (_ = none))
  | .blank field => inferInstanceAs (Decidable (∃ header ∈ inbound.header,
      ∃ text ∈ field.text? header, ∀ char ∈ text.toList, char.toNat ∈ whiteSpace))
  | .tooLong field => inferInstanceAs (Decidable (∃ header ∈ inbound.header,
      ∃ text ∈ field.text? header,
        (∃ char ∈ text.toList, char.toNat ∉ whiteSpace) ∧ 20 < text.length))
  | .negative field => inferInstanceAs (Decidable (∃ payload ∈ inbound.payload,
      ∃ number ∈ number? payload field, number < 0))

/-- All complaints in the order in which they are made, each with what it says: those about the
header first, then those about the payload. -/
def complaints : List (Violation × String) :=
  [ (.headerMissing, "MWHEADER is null"),
    (.blank .messageId, "MSGID is blank"),
    (.tooLong .messageId, "MSGID length must not exceed 20"),
    (.blank .sourceChannel, "SOURCECHANNEL is blank"),
    (.tooLong .sourceChannel, "SOURCECHANNEL length must not exceed 20"),
    (.blank .transaction, "TXNSEQ is blank"),
    (.tooLong .transaction, "TXNSEQ length must not exceed 20"),
    (.payloadMissing, "TRANRQ is null"),
    (.negative .delay, "delay must not be negative"),
    (.negative .rounds, "forCount must not be negative") ]

namespace Violation

/-- What may be said of the two texts of a required field. -/
def ofField (field : ConstrainedField) : List Violation := [blank field, tooLong field]

/-- All violations, in the order of the complaints. -/
def ordered : List Violation :=
  [headerMissing] ++ ((ofField .messageId ++ ofField .sourceChannel ++ ofField .transaction) ++
    ([payloadMissing] ++ [negative .delay, negative .rounds]))

/-- The table says what the service says. -/
theorem complaints_eq : complaints = ordered.map fun violation => (violation, violation.message) := by
  decide

variable {Payload : Type} {number? : Payload → ConstrainedField → Option Int32}
  {inbound : Inbound Payload} {header : Header} {payload : Payload} {field : ConstrainedField}

/-- What is said of a required field is what concerns its text. -/
theorem filter_ofField {text : String} (there : inbound.header = some header)
    (holds : field.text? header = some text) :
    (ofField field).filter (Concerns number? inbound) = Header.checkField field text := by
  have blank : Concerns number? inbound (.blank field) ↔ Blank.isBlank text = true := by
    simp only [Concerns, there, holds, Option.mem_some_iff, exists_eq_left', Blank.isBlank_iff]
  have tooLong : Concerns number? inbound (.tooLong field) ↔
      Blank.isBlank text = false ∧ 20 < text.length := by
    simp only [Concerns, there, holds, Option.mem_some_iff, exists_eq_left',
      Blank.isBlank_eq_false_iff]
  simp only [ofField, List.filter_cons, List.filter_nil, decide_eq_true_eq, blank, tooLong,
    Header.checkField, Header.maxLength]
  cases Blank.isBlank text
  · simp only [Bool.false_eq_true, if_false, true_and, gt_iff_lt]
  · simp only [if_true, reduceCtorEq, false_and, if_false]

/-- Of a header that is there, the complaints about its fields are made, and of one that is not,
that it is missing. -/
theorem filter_header (inbound : Inbound Payload) :
    ([headerMissing] ++ (ofField .messageId ++ ofField .sourceChannel ++ ofField .transaction)).filter
        (Concerns number? inbound) =
      match inbound.header with
      | some header => header.violations
      | none => [.headerMissing] := by
  rw [List.filter_append, List.filter_append, List.filter_append]
  cases there : inbound.header with
  | none =>
    have missing : Concerns number? inbound .headerMissing := there
    have silent (field : ConstrainedField) :
        (ofField field).filter (Concerns number? inbound) = [] := by
      simp [ofField, Concerns, there]
    rw [silent, silent, silent, List.filter_cons_of_pos (by simpa using missing),
      List.filter_nil]
    rfl
  | some header =>
    have present : ¬Concerns number? inbound .headerMissing := by
      simp [Concerns, there]
    rw [filter_ofField there rfl, filter_ofField there rfl, filter_ofField there rfl,
      List.filter_cons_of_neg (by simpa using present), List.filter_nil]
    rfl

/-- The numbers of a payload that is there are what its kind complains of. -/
def TellsNumbers (kind : PayloadKind Payload)
    (number? : Payload → ConstrainedField → Option Int32) : Prop :=
  ∀ (inbound : Inbound Payload) payload, inbound.payload = some payload →
    [negative .delay, negative .rounds].filter (Concerns number? inbound) = kind.violations payload

/-- Of a payload that is there, the complaints about its numbers are made, and of one that is not,
that it is missing. -/
theorem filter_payload {kind : PayloadKind Payload} (tells : TellsNumbers kind number?)
    (inbound : Inbound Payload) :
    ([payloadMissing] ++ [negative .delay, negative .rounds]).filter (Concerns number? inbound) =
      match inbound.payload with
      | some payload => kind.violations payload
      | none => [.payloadMissing] := by
  rw [List.filter_append]
  cases there : inbound.payload with
  | none =>
    have missing : Concerns number? inbound .payloadMissing := there
    have silent : [negative .delay, negative .rounds].filter (Concerns number? inbound) = [] := by
      simp [Concerns, there]
    rw [silent, List.filter_cons_of_pos (by simpa using missing),
      List.filter_nil]
    rfl
  | some payload =>
    have present : ¬Concerns number? inbound .payloadMissing := by
      simp [Concerns, there]
    rw [tells inbound payload there, List.filter_cons_of_neg (by simpa using present),
      List.filter_nil, List.nil_append]

/-- The violations of an envelope are those in the table that concern it. -/
theorem violations_eq_filter {kind : PayloadKind Payload} (tells : TellsNumbers kind number?)
    (inbound : Inbound Payload) :
    inbound.violations kind = ordered.filter (Concerns number? inbound) := by
  rw [ordered, ← List.append_assoc, List.filter_append, filter_header, filter_payload tells]
  rfl

/-- The complaints that concern an envelope are its violations with their words. -/
theorem complaints_filter {kind : PayloadKind Payload} (tells : TellsNumbers kind number?)
    (inbound : Inbound Payload) :
    (complaints.filter fun complaint => complaint.1.Concerns number? inbound) =
      (inbound.violations kind).map fun violation => (violation, violation.message) := by
  rw [complaints_eq, List.filter_map, violations_eq_filter tells]
  rfl

theorem tellsNumbers_order :
    TellsNumbers .order fun order field => field.number? order := by
  intro inbound order there
  simp only [List.filter_cons, List.filter_nil, Concerns, there, ConstrainedField.number?,
    Option.mem_some_iff, exists_eq_left', decide_eq_true_eq]
  show _ = order.violations
  rw [Order.violations]
  split <;> split <;> rfl

theorem tellsNumbers_free : TellsNumbers .free fun _ _ => none := by
  intro inbound tree there
  simp only [List.filter_cons, List.filter_nil, Concerns, Option.mem_def, reduceCtorEq, false_and,
    exists_false, and_false, decide_false, Bool.false_eq_true, if_false]
  rfl

end Violation

/-! ### Judgement -/

theorem Header.violations_eq_nil {header : Header} :
    header.violations = [] ↔ Header.Fits header.messageId ∧ Header.Fits header.sourceChannel ∧
      Header.Fits header.transaction := by
  have proper (text : String) : Header.IsProper text ↔ Header.Fits text := by
    rw [Header.IsProper, Blank.isBlank_eq_false_iff]
    rfl
  simp only [Header.violations, List.append_eq_nil_iff, Header.checkField_eq_nil, proper, and_assoc]

theorem Order.violations_eq_nil {order : Order} :
    order.violations = [] ↔ 0 ≤ order.delay ∧ 0 ≤ order.rounds := by
  simp [Order.violations]

/-- How envelopes with a kind of payload are judged. A payload that is there may be whatever is
`fair`, and its numbers that must not be negative are those that `number?` finds. -/
structure PayloadKind.Judges {Payload : Type} (kind : PayloadKind Payload) (fair : Payload → Prop)
    (number? : Payload → ConstrainedField → Option Int32) : Prop where
  /-- An envelope is accepted, with both its parts as they are, if they are there and in order. -/
  accepts : ∀ (inbound : Inbound Payload) header payload,
    inbound.accept kind = .ok ⟨header, payload⟩ ↔
      inbound = ⟨some header, some payload⟩ ∧
        (Header.Fits header.messageId ∧ Header.Fits header.sourceChannel ∧
          Header.Fits header.transaction) ∧ fair payload
  /-- Otherwise there is something to complain of, and every complaint that concerns the envelope is
  made once, in the order of the table and in its words. -/
  refuses : ∀ (inbound : Inbound Payload) violations,
    inbound.accept kind = .error violations →
      violations ≠ [] ∧
        violations.map (fun violation => (violation, violation.message)) =
          complaints.filter fun complaint => complaint.1.Concerns number? inbound
  /-- The optional fields of the header are carried along and have no say. -/
  ignores : ∀ (header : Header) (payload : Option Payload)
      (returnCode returnText origin : Option String),
    (⟨some { header with returnCode, returnText, origin }, payload⟩ : Inbound Payload).accept kind =
      ((⟨some header, payload⟩ : Inbound Payload).accept kind).map fun accepted =>
        { accepted with header := { accepted.header with returnCode, returnText, origin } }

namespace Inbound

variable {Payload : Type} {kind : PayloadKind Payload}

/-- An envelope is accepted, as it is, if it has both parts and they violate nothing. -/
theorem accept_eq_ok_iff {inbound : Inbound Payload} {header : Header} {payload : Payload} :
    inbound.accept kind = .ok ⟨header, payload⟩ ↔
      inbound = ⟨some header, some payload⟩ ∧ header.violations = [] ∧
        kind.violations payload = [] := by
  constructor
  · intro accepted
    cases fine : (inbound.violations kind).isEmpty with
    | false =>
      rw [accept_of_violations fine] at accepted
      cases accepted
    | true =>
      obtain ⟨first, second, rfl, same⟩ := accept_of_no_violations fine
      rw [same] at accepted
      cases accepted
      exact ⟨rfl, List.append_eq_nil_iff.1 (List.isEmpty_iff.1 fine)⟩
  · rintro ⟨rfl, fine⟩
    exact if_pos (List.isEmpty_iff.2 (List.append_eq_nil_iff.2 fine))

/-- An envelope is refused for violations that it has. -/
theorem violations_of_accept {inbound : Inbound Payload} {violations : List Violation}
    (refused : inbound.accept kind = .error violations) :
    violations = inbound.violations kind ∧ violations ≠ [] := by
  cases fine : (inbound.violations kind).isEmpty with
  | false =>
    rw [accept_of_violations fine] at refused
    cases refused
    refine ⟨rfl, fun none => ?_⟩
    rw [none] at fine
    cases fine
  | true =>
    obtain ⟨header, payload, rfl, same⟩ := accept_of_no_violations fine
    rw [same] at refused
    cases refused

/-- Whether an envelope is accepted does not depend on the optional fields of its header. -/
theorem accept_optional (header : Header) (payload : Option Payload)
    (returnCode returnText origin : Option String) :
    (⟨some { header with returnCode, returnText, origin }, payload⟩ : Inbound Payload).accept kind =
      ((⟨some header, payload⟩ : Inbound Payload).accept kind).map fun accepted =>
        { accepted with header := { accepted.header with returnCode, returnText, origin } } := by
  have same : (⟨some { header with returnCode, returnText, origin }, payload⟩ :
      Inbound Payload).violations kind = (⟨some header, payload⟩ : Inbound Payload).violations kind :=
    rfl
  unfold accept
  rw [same]
  cases payload with
  | none => rfl
  | some payload =>
    dsimp only
    split <;> rfl

end Inbound

/-- It is enough to know when a payload by itself is in order, and which of its numbers count. -/
theorem PayloadKind.Judges.of_violations {Payload : Type} {kind : PayloadKind Payload}
    {fair : Payload → Prop} {number? : Payload → ConstrainedField → Option Int32}
    (spares : ∀ payload, kind.violations payload = [] ↔ fair payload)
    (tells : Violation.TellsNumbers kind number?) : kind.Judges fair number? where
  accepts inbound header payload := by
    rw [Inbound.accept_eq_ok_iff, Header.violations_eq_nil, spares]
  refuses inbound violations refused := by
    obtain ⟨rfl, some⟩ := Inbound.violations_of_accept refused
    exact ⟨some, (Violation.complaints_filter tells inbound).symm⟩
  ignores := Inbound.accept_optional

/-- Envelopes are accepted as they are if they meet all that is demanded of them, and otherwise
refused with every complaint that they give reason for. Orders must not have negative numbers;
nothing is demanded of other payloads. -/
theorem envelopes_judged :
    PayloadKind.order.Judges (fun order => 0 ≤ order.delay ∧ 0 ≤ order.rounds)
        (fun order field => field.number? order) ∧
      PayloadKind.free.Judges (fun _ => True) (fun _ _ => none) :=
  ⟨.of_violations (fun _ => Order.violations_eq_nil) Violation.tellsNumbers_order,
    .of_violations (fun _ => iff_of_true rfl trivial) Violation.tellsNumbers_free⟩

end LatencyService
