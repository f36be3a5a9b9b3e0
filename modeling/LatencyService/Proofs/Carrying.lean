/-
What the table of a header carries, and what is made of it. A header has six
keys, three of which are required; under each of them the table carries a
string, or else null or nothing, and an accepted header has just the texts that
the table carries. Nothing else in the table, or beside it in the envelope,
leaves a trace in the header.
-/

import LatencyService.Http.Extraction
import LatencyService.Proofs.Members
import LatencyService.Proofs.Questions

namespace LatencyService

open Shape

/-- The string that members carry under a key. -/
def Json.carried? (members : List (String × Octets)) (key : String) : Option String :=
  (members.lookup key).bind Json.string?

namespace Header

/-! ### Keys -/

/-- The keys that have to be there. -/
def requiredKeys : List String := ["MSGID", "SOURCECHANNEL", "TXNSEQ"]

/-- All keys of a header. -/
def keys : List String := requiredKeys ++ ["RETURNCODE", "RETURNDESC", "O360SEQ"]

/-- The text that a header has under each of its keys. -/
def slots (header : Header) : List (String × Option String) :=
  [ ("MSGID", some header.messageId), ("SOURCECHANNEL", some header.sourceChannel),
    ("TXNSEQ", some header.transaction), ("RETURNCODE", header.returnCode),
    ("RETURNDESC", header.returnText), ("O360SEQ", header.origin) ]

/-- The text that a header has under a key. -/
def text? (header : Header) (key : String) : Option String := (header.slots.lookup key).join

/-- What a field makes of the text of its member: a string is taken as it is, and null is the empty
text where a text is required. -/
structure Shows (key : String) (text : Octets) (value : Option String) : Prop where
  required : key ∈ requiredKeys → value = some ((Json.string? text).getD "")
  optional : key ∉ requiredKeys → value = Json.string? text
  nullable : Json.string? text = none → Json.isNull text = true

section Fields

variable {key : String} {depth : Nat} {text rest : Octets} {change : Header → Header}
  {absence : Absence}

theorem shows_required {set : String → Header → Header} (required : key ∈ requiredKeys)
    (read : (Field.of key absence (Shape.text.orElse "") set).shape.read depth text =
      .ok (change, rest)) :
    ∃ value, change = set value ∧ Shows key text (some value) := by
  obtain ⟨value, inner, rfl⟩ := read_map read
  obtain ⟨optional, word, rfl⟩ := read_map inner
  obtain ⟨rfl, nullable⟩ := string?_of_optional word
  exact ⟨_, rfl, fun _ => rfl, fun other => absurd required other, nullable⟩

theorem shows_optional {set : Option String → Header → Header} (optional : key ∉ requiredKeys)
    (read : (Field.of key absence Shape.text.optional set).shape.read depth text =
      .ok (change, rest)) :
    ∃ value, change = set value ∧ Shows key text value := by
  obtain ⟨value, word, rfl⟩ := read_map read
  obtain ⟨rfl, nullable⟩ := string?_of_optional word
  exact ⟨_, rfl, fun required => absurd required optional, fun _ => rfl, nullable⟩

end Fields

theorem fields_measured : ∀ field ∈ fields, field.shape.Measured := by
  simp only [fields, List.forall_mem_cons, List.not_mem_nil, IsEmpty.forall_iff, implies_true,
    and_true]
  exact ⟨(text_measured.orElse "").map _, (text_measured.orElse "").map _,
    (text_measured.orElse "").map _, text_measured.optional.map _, text_measured.optional.map _,
    text_measured.optional.map _⟩

/-- A field puts what its member shows under its key, and leaves the other keys alone. -/
theorem text?_of_field : ∀ field ∈ fields, ∀ depth text change rest,
    field.shape.read depth text = .ok (change, rest) → ∀ header : Header,
      Shows field.key text ((change header).text? field.key) ∧
        ∀ key, field.key ≠ key → (change header).text? key = header.text? key := by
  simp only [fields, List.forall_mem_cons, List.not_mem_nil, IsEmpty.forall_iff, implies_true,
    and_true]
  -- Behind the key of the field the slots are the same, and before it they are passed over.
  refine ⟨?_, ?_, ?_, ?_, ?_, ?_⟩ <;> intro depth text change rest read header
  case' refine_1 | refine_2 | refine_3 =>
    obtain ⟨value, rfl, shows⟩ := shows_required (by decide) read
  case' refine_4 | refine_5 | refine_6 =>
    obtain ⟨value, rfl, shows⟩ := shows_optional (by decide) read
  all_goals
    refine ⟨shows, fun key other => ?_⟩
    have passed := beq_eq_false_iff_ne.2 (Ne.symm other)
    simp only [Field.of] at passed
    simp only [text?, slots, List.lookup_cons, passed]

/-- Every key of a header has a field. -/
theorem isSome_fieldOf? {key : String} (known : key ∈ keys) :
    (fieldOf? fields key).isSome = true :=
  (by decide : ∀ key ∈ keys, (fieldOf? fields key).isSome = true) key known

/-! ### Headers from their tables -/

variable {depth : Nat} {members : List (String × Octets)} {header : Header} {key : String}

/-- Under each of its keys a header has what the member shows, or what it started with. -/
theorem text?_of_takes (takes : Takes fields depth [] members {} header) (known : key ∈ keys) :
    (members.lookup key).elim (header.text? key = ({} : Header).text? key)
      fun text => Shows key text (header.text? key) := by
  refine (Takes.look (fun header => header.text? key) (Shows key) takes
    (fun field found depth text change rest read header => ?_)
    (fun field member apart depth text change rest read header => ?_) (isSome_fieldOf? known)).2
    List.not_mem_nil
  · obtain ⟨member, rfl⟩ := fieldOf?_some found
    exact (text?_of_field field member depth text change rest read header).1
  · exact (text?_of_field field member depth text change rest read header).2 key apart

/-- A required text of an accepted header is not empty. -/
theorem text?_of_accepted (accepted : header.violations = []) (required : key ∈ requiredKeys) :
    ∃ text, header.text? key = some text ∧ text ≠ "" := by
  have filled {field : ConstrainedField} {text : String} (fine : checkField field text = []) :
      text ≠ "" := by
    rintro rfl
    exact absurd fine (by simp [checkField, show Blank.isBlank "" = true by decide])
  simp only [violations, List.append_eq_nil_iff] at accepted
  obtain ⟨⟨messageId, sourceChannel⟩, transaction⟩ := accepted
  simp only [requiredKeys, List.mem_cons, List.not_mem_nil, or_false] at required
  rcases required with rfl | rfl | rfl
  · exact ⟨_, rfl, filled messageId⟩
  · exact ⟨_, rfl, filled sourceChannel⟩
  · exact ⟨_, rfl, filled transaction⟩

/-- What a table of members carries for a header. -/
structure CarriedBy (header : Header) (members : List (String × Octets)) : Prop where
  /-- The header has the strings that are carried. -/
  text? : ∀ key ∈ keys, header.text? key = Json.carried? members key
  /-- No key of a header comes twice. -/
  once : ∀ key ∈ keys, (members.map Prod.fst).count key ≤ 1
  /-- What is no string under a key of a header is null. -/
  nullable : ∀ key ∈ keys, ∀ text ∈ members.lookup key,
    Json.string? text = none → Json.isNull text = true
  /-- Under every required key a string is carried. -/
  required : ∀ key ∈ requiredKeys, (Json.carried? members key).isSome = true

/-- An accepted header that is read from a table has the strings that the table carries. -/
theorem carriedBy_of_takes (takes : Takes fields depth [] members {} header)
    (accepted : header.violations = []) : header.CarriedBy members := by
  have same (key : String) (known : key ∈ keys) :
      header.text? key = Json.carried? members key := by
    have shown := text?_of_takes takes known
    rw [Json.carried?]
    cases found : members.lookup key with
    | none =>
      rw [found, Option.elim_none] at shown
      by_cases required : key ∈ requiredKeys
      · obtain ⟨text, there, filled⟩ := text?_of_accepted accepted required
        have empty : ({} : Header).text? key = some "" :=
          (by decide : ∀ key ∈ requiredKeys, ({} : Header).text? key = some "") key required
        rw [there, empty] at shown
        exact absurd (Option.some.inj shown) filled
      · have empty : ({} : Header).text? key = none :=
          (by decide : ∀ key ∈ keys, key ∉ requiredKeys → ({} : Header).text? key = none) key known
            required
        exact shown.trans empty
    | some text =>
      rw [found, Option.elim_some] at shown
      rw [Option.bind_some]
      by_cases required : key ∈ requiredKeys
      · obtain ⟨other, there, filled⟩ := text?_of_accepted accepted required
        have read := shown.required required
        cases string : Json.string? text with
        | none =>
          rw [there, string] at read
          exact absurd (Option.some.inj read) filled
        | some value =>
          rw [string] at read
          exact read
      · exact shown.optional required
  refine ⟨same, fun key known => (takes.count_le_one (isSome_fieldOf? known)).1,
    fun key known text there => ?_, fun key required => ?_⟩
  · have shown := text?_of_takes takes known
    rw [Option.mem_def.1 there, Option.elim_some] at shown
    exact shown.nullable
  · obtain ⟨text, there, -⟩ := text?_of_accepted accepted required
    rw [← same key (List.mem_append_left _ required), there]
    rfl

end Header

/-! ### Envelopes -/

namespace Inbound

variable {Payload : Type} {kind : PayloadKind Payload}

theorem fields_measured (measured : kind.shape.Measured) :
    ∀ field ∈ fields kind, field.shape.Measured := by
  simp only [fields, List.forall_mem_cons, List.not_mem_nil, IsEmpty.forall_iff, implies_true,
    and_true]
  exact ⟨(record_measured _ _ Header.fields_measured).optional.map _, measured.optional.map _⟩

/-- The header of an envelope is what stands under its key. -/
theorem header_of_takes {depth : Nat} {members : List (String × Octets)} {inbound : Inbound Payload}
    (takes : Takes (fields kind) depth [] members {} inbound) :
    (members.lookup "MWHEADER").elim (inbound.header = none) fun text =>
      ∃ depth rest, Header.shape.optional.read depth text = .ok (inbound.header, rest) := by
  have known : (fieldOf? (fields kind) "MWHEADER").isSome = true := rfl
  refine (Takes.look Inbound.header
    (fun text header => ∃ depth rest, Header.shape.optional.read depth text = .ok (header, rest))
    takes (fun field found depth text change rest read inbound => ?_)
    (fun field member apart depth text change rest read inbound => ?_) known).2 List.not_mem_nil
  · cases found
    obtain ⟨header, inner, rfl⟩ := read_map read
    exact ⟨depth, rest, inner⟩
  · simp only [fields, List.mem_cons, List.not_mem_nil, or_false] at member
    rcases member with rfl | rfl
    · exact absurd rfl apart
    · obtain ⟨payload, -, rfl⟩ := read_map read
      rfl

/-- An accepted envelope has both parts, and its header violates nothing. -/
theorem of_accept {inbound : Inbound Payload} {accepted : Accepted Payload}
    (accepts : inbound.accept kind = .ok accepted) :
    inbound.header = some accepted.header ∧ accepted.header.violations = [] := by
  obtain ⟨header, payload⟩ := inbound
  unfold accept at accepts
  split at accepts
  · rename_i first second there _
    cases there
    split at accepts
    · rename_i fine
      cases accepts
      refine ⟨rfl, ?_⟩
      rw [List.isEmpty_iff, violations] at fine
      exact (List.append_eq_nil_iff.1 fine).1
    · cases accepts
  · cases accepts

end Inbound

theorem Order.shape_measured : Order.shape.Measured := by
  refine record_measured _ _ ?_
  simp only [fields, List.forall_mem_cons, List.not_mem_nil, IsEmpty.forall_iff, implies_true,
    and_true]
  exact ⟨((whole_measured _ _).orElse 0).map _, ((whole_measured _ _).orElse 0).map _⟩

/-- What a request is accepted with was read from its body and accepted. -/
theorem Http.read_of_extract {Payload : Type} {kind : PayloadKind Payload} {request : Http.Request}
    {accepted : Accepted Payload} (extracted : Http.extract kind request = .ok accepted) :
    ∃ inbound, (Inbound.shape kind).ofText request.body = .ok inbound ∧
      inbound.accept kind = .ok accepted := by
  unfold Http.extract at extracted
  split at extracted
  · cases extracted
  · split at extracted
    · cases extracted
    · split at extracted
      · cases extracted
      · rename_i inbound read
        split at extracted
        · cases extracted
        · rename_i accepts
          cases extracted
          exact ⟨inbound, read, accepts⟩

namespace Header

/-- Where the text that stands under the key of a header begins with a table, the header has the
strings that the table carries. -/
theorem carriedBy_of_optional {depth : Nat} {text rest : Octets} {header : Header}
    (read : Header.shape.optional.read depth text = .ok (some header, rest))
    (opens : Json.opensTable text = true) (accepted : header.violations = []) :
    ∃ members, Json.members? text = some members ∧ header.CarriedBy members := by
  obtain ⟨left, at_brace⟩ := Json.skipBlanks_of_opensTable opens
  have inner : Header.shape.read depth (Json.skipBlanks text) = .ok (header, rest) := by
    simp only [Shape.optional] at read
    rw [at_brace] at read
    obtain ⟨other, taken, same⟩ := read_map read
    cases same
    rw [at_brace]
    exact taken
  have still : Json.opensTable (Json.skipBlanks text) = true := by
    rw [Json.opensTable, Json.skipBlanks_skipBlanks]
    exact opens
  obtain ⟨members, same, inner, takes⟩ := takes_of_record fields_measured inner still
  rw [Json.members?_skipBlanks] at same
  exact ⟨members, same, carriedBy_of_takes takes accepted⟩

/-- What a body carries for a header, where it begins with a table: the header comes once in it, and
where it is a table, too, it has the strings that are carried. -/
structure BroughtBy (header : Header) (envelope : List (String × Octets)) (text : Octets) :
    Prop where
  found : envelope.lookup "MWHEADER" = some text
  once : (envelope.map Prod.fst).count "MWHEADER" = 1
  carried : Json.opensTable text = true →
    ∃ members, Json.members? text = some members ∧ header.CarriedBy members

/-- The header of an accepted request is the one that the body brings. -/
theorem broughtBy_of_extract {Payload : Type} {kind : PayloadKind Payload}
    (measured : kind.shape.Measured) {request : Http.Request} {accepted : Accepted Payload}
    (extracted : Http.extract kind request = .ok accepted)
    (opens : Json.opensTable request.body = true) :
    ∃ envelope text, Json.members? request.body = some envelope ∧
      accepted.header.BroughtBy envelope text := by
  obtain ⟨inbound, read, accepts⟩ := Http.read_of_extract extracted
  obtain ⟨there, fine⟩ := Inbound.of_accept accepts
  obtain ⟨rest, taken⟩ : ∃ rest, (Inbound.shape kind).read Json.depthLimit request.body =
      .ok (inbound, rest) := by
    rw [Shape.ofText, Json.whole] at read
    split at read
    · cases read
    · rename_i whole
      split at read
      · cases read
        exact ⟨_, whole⟩
      · cases read
  obtain ⟨envelope, same, inner, takes⟩ :=
    takes_of_record (Inbound.fields_measured measured) taken opens
  have known : (fieldOf? (Inbound.fields kind) "MWHEADER").isSome = true := rfl
  have brought := Inbound.header_of_takes takes
  cases found : envelope.lookup "MWHEADER" with
  | none =>
    rw [found, Option.elim_none, there] at brought
    cases brought
  | some text =>
    rw [found, Option.elim_some, there] at brought
    obtain ⟨depth, rest, optional⟩ := brought
    have some_member : (envelope.lookup "MWHEADER").isSome = true := by
      rw [found]
      rfl
    obtain ⟨entry, among, named⟩ := List.lookup_isSome_iff.1 some_member
    have member : "MWHEADER" ∈ envelope.map Prod.fst :=
      List.mem_map.2 ⟨entry, among, (beq_iff_eq.1 named).symm⟩
    refine ⟨envelope, text, same, found, ?_, fun table =>
      carriedBy_of_optional optional table fine⟩
    exact Nat.le_antisymm (takes.count_le_one known).1 (List.count_pos_iff.2 member)

end Header

end LatencyService
