/-
The header, the order, the report and the envelope of a call may each be written
in many ways, at the top and inside of the envelope, and are read as one. What
is missing, what is null and what begins as nothing are three things in the
text, and one for who reads it.
-/

import LatencyService.Envelope.Inbound
import LatencyService.Proofs.Lenience

namespace LatencyService

namespace Field

open Shape (Apart LenientField)

variable {Record Value Other : Type} {shape : Shape Value} {another : Shape Other}
  {set : Value → Record → Record} {change : Other → Record → Record}

theorem apart_of {first second : String} {absence absent : Absence}
    (swaps : ∀ value other record, set value (change other record) =
      change other (set value record)) :
    Apart (.of first absence shape set) (.of second absent another change) := by
  intro made later makes makes_later record
  obtain ⟨value, rfl⟩ := Shape.exists_of_makes makes
  obtain ⟨other, rfl⟩ := Shape.exists_of_makes makes_later
  exact swaps value other record

/-- A field is lenient if null is read as what the record begins with. -/
theorem lenient_of {key : String} {absence : Absence} {null : Value} {start : Record}
    (free : absence ≠ .refused) (steady : shape.Steady)
    (reads : ∀ depth, shape.value? depth Json.nullText = some null)
    (same : set null start = start) : LenientField start (.of key absence shape set) where
  steady := steady.map set
  free := free
  null depth := by
    refine ⟨set null, ?_, same⟩
    rw [of, Shape.value?_map, reads]
    rfl

end Field

namespace Shape

theorem orElse_value?_null {Value : Type} (value : Value) (shape : Shape Value) (depth : Nat) :
    (shape.orElse value).value? depth Json.nullText = some value := by
  rw [orElse, value?_map, optional_value?_null]
  rfl

end Shape

open Shape (LenientField LenientFields)

/-! ### What the parts of a call are made of -/

theorem Header.fields_lenient : LenientFields Header.fields {} where
  distinct := by decide
  each := by
    have required (key : String) (set : String → Header → Header) (same : set "" {} = {}) :
        LenientField {} (.of key .anywhere (Shape.text.orElse "") set) :=
      Field.lenient_of nofun (Shape.text_steady.orElse "") (Shape.orElse_value?_null _ _) same
    have free (key : String) (set : Option String → Header → Header) (same : set none {} = {}) :
        LenientField {} (.of key .anywhere Shape.text.optional set) :=
      Field.lenient_of nofun Shape.text_steady.optional (Shape.optional_value?_null _) same
    simp only [Header.fields, List.forall_mem_cons]
    exact ⟨required _ _ rfl, required _ _ rfl, required _ _ rfl, free _ _ rfl, free _ _ rfl,
      free _ _ rfl, List.forall_mem_nil _⟩
  apart := by
    simp only [Header.fields, List.pairwise_cons, List.forall_mem_cons, List.Pairwise.nil,
      List.not_mem_nil, false_implies, implies_true, and_true]
    and_intros <;> exact Field.apart_of fun _ _ _ => rfl

theorem Order.fields_lenient : LenientFields Order.fields {} where
  distinct := by decide
  each := by
    have zero (key : String) (set : Int32 → Order → Order) (same : set 0 {} = {}) :
        LenientField {} (.of key .anywhere (Shape.integer32.orElse 0) set) :=
      Field.lenient_of nofun ((Shape.whole_steady _ _).orElse 0) (Shape.orElse_value?_null _ _) same
    simp only [Order.fields, List.forall_mem_cons]
    exact ⟨zero _ _ rfl, zero _ _ rfl, List.forall_mem_nil _⟩
  apart := by
    simp only [Order.fields, List.pairwise_cons, List.forall_mem_cons, List.Pairwise.nil,
      List.not_mem_nil, false_implies, implies_true, and_true]
    exact Field.apart_of fun _ _ _ => rfl

theorem Report.fields_lenient : LenientFields Report.fields {} where
  distinct := by decide
  each := by
    have free (key : String) (set : Option String → Report → Report) (same : set none {} = {}) :
        LenientField {} (.of key .anywhere Shape.text.optional set) :=
      Field.lenient_of nofun Shape.text_steady.optional (Shape.optional_value?_null _) same
    simp only [Report.fields, List.forall_mem_cons]
    exact ⟨free _ _ rfl, free _ _ rfl, List.forall_mem_nil _⟩
  apart := by
    simp only [Report.fields, List.pairwise_cons, List.forall_mem_cons, List.Pairwise.nil,
      List.not_mem_nil, false_implies, implies_true, and_true]
    exact Field.apart_of fun _ _ _ => rfl

theorem Inbound.fields_lenient {Payload : Type} (kind : PayloadKind Payload)
    (steady : kind.shape.Steady) : LenientFields (Inbound.fields kind) {} where
  distinct := by
    show ["MWHEADER", "TRANRQ"].Nodup
    decide
  each := by
    have header := Shape.record_steady "MwHeader" {} Header.fields_lenient.steady
    simp only [Inbound.fields, List.forall_mem_cons]
    exact ⟨Field.lenient_of nofun header.optional (Shape.optional_value?_null _) rfl,
      Field.lenient_of nofun steady.optional (Shape.optional_value?_null _) rfl,
      List.forall_mem_nil _⟩
  apart := by
    simp only [Inbound.fields, List.pairwise_cons, List.forall_mem_cons, List.Pairwise.nil,
      List.not_mem_nil, false_implies, implies_true, and_true]
    exact Field.apart_of fun _ _ _ => rfl

/-! ### One value, whatever the text -/

namespace Shape

variable {Value : Type} {shape : Shape Value}

/-- Texts that write alike are read as the same value, or none of them is read, and what repeats
itself is not read at all. -/
structure Canonical (shape : Shape Value) (alike : Octets → Octets → Prop)
    (repeats : Octets → Prop) : Prop where
  same : ∀ text other, alike text other →
    (shape.ofText text).toOption = (shape.ofText other).toOption
  refused : ∀ text, repeats text → (shape.ofText text).toOption = none

/-- A record is read alike from all texts that write it alike, wherever they stand. -/
structure Retold (shape : Shape Value) (known : List String) : Prop where
  steady : shape.Steady
  same {depth : Nat} (deep : 1 < depth) {text other : Octets} :
    Json.Respells known text other → shape.value? depth text = shape.value? depth other
  refused {depth : Nat} (deep : 1 < depth) {text : Octets} :
    Json.Repeats known text → shape.value? depth text = none

variable {known : List String}

theorem Retold.canonical (retold : shape.Retold known) :
    shape.Canonical (Json.Respells known) (Json.Repeats known) where
  same _ _ respells := retold.same (by decide) respells
  refused _ repeats := retold.refused (by decide) repeats

/-- A record whose fields may all be missing is read in the same way from tables and from lists. -/
theorem LenientFields.retold {Record : Type} {fields : List (Field Record)} {start : Record}
    (lenient : LenientFields fields start) (name : String)
    (anywhere : ∀ field ∈ fields, field.absence = .anywhere) :
    (record name fields start).Retold (fields.map Field.key) where
  steady := record_steady name start lenient.steady
  same deep _ _ respells := value?_of_respells lenient anywhere name deep respells
  refused deep _ repeats := value?_of_repeats lenient name deep repeats

section Part

variable {Record : Type} {key : String} {absence : Absence}
  {set : Option Value → Record → Record} {depth : Nat} {text other : Octets}

/-- A part that may be null is taken alike from all texts that write it alike. -/
theorem Retold.part_same (retold : shape.Retold known) (deep : 1 < depth)
    (respells : Json.Respells known text other) :
    (Field.of key absence shape.optional set).shape.value? depth text =
      (Field.of key absence shape.optional set).shape.value? depth other := by
  obtain ⟨⟨octet, left, at_octet, graphic⟩, first, rest, at_first, also⟩ := respells.begins
  rw [Field.of, value?_map, value?_map, optional_value?_of_other retold.steady at_octet graphic,
    optional_value?_of_other retold.steady at_first also, retold.same deep respells]

theorem Retold.part_refused (retold : shape.Retold known) (deep : 1 < depth)
    (repeats : Json.Repeats known text) :
    (Field.of key absence shape.optional set).shape.value? depth text = none := by
  have refused := retold.refused deep repeats
  obtain ⟨entries, there, -⟩ := repeats
  obtain ⟨left, at_brace⟩ := Json.brace_of_entries? there
  rw [Field.of, value?_map, optional_value?_of_other retold.steady at_brace (by decide), refused]
  rfl

end Part

end Shape

theorem Header.shape_retold : Header.shape.Retold (Header.fields.map Field.key) :=
  Header.fields_lenient.retold "MwHeader" (by decide)

theorem Order.shape_retold : Order.shape.Retold (Order.fields.map Field.key) :=
  Order.fields_lenient.retold "DemoRequestPayload" (by decide)

theorem Report.shape_retold : Report.shape.Retold (Report.fields.map Field.key) :=
  Report.fields_lenient.retold "DemoResponsePayload" (by decide)

namespace Inbound

/-- A part of an envelope is written in another way. -/
def PartRespelled (key : String) (text other : Octets) : Prop :=
  key = "MWHEADER" ∧ Json.Respells (Header.fields.map Field.key) text other ∨
    key = "TRANRQ" ∧ Json.Respells (Order.fields.map Field.key) text other

/-- A key comes twice in an envelope, or in one of its parts. -/
def Repeats (text : Octets) : Prop :=
  Json.Repeats ["MWHEADER", "TRANRQ"] text ∨
    ∃ entries part, Json.entries? text = some entries ∧
      (("MWHEADER", part) ∈ entries ∧ Json.Repeats (Header.fields.map Field.key) part ∨
        ("TRANRQ", part) ∈ entries ∧ Json.Repeats (Order.fields.map Field.key) part)

theorem shape_canonical :
    (shape .order).Canonical (Json.Retells ["MWHEADER", "TRANRQ"] PartRespelled) Repeats where
  same text other retells := by
    refine Shape.value?_of_retells (fields_lenient .order Order.shape_retold.steady) "Envelope"
      (by decide) ?_ retells
    simp only [fields, List.forall_mem_cons]
    refine ⟨fun text other respelled => ?_, fun text other respelled => ?_,
      List.forall_mem_nil _⟩
    · obtain ⟨-, respells⟩ := respelled.resolve_right fun other => absurd other.1 (by decide)
      exact Header.shape_retold.part_same (by decide) respells
    · obtain ⟨-, respells⟩ := respelled.resolve_left fun other => absurd other.1 (by decide)
      exact Order.shape_retold.part_same (by decide) respells
  refused text repeats := by
    have lenient := fields_lenient .order Order.shape_retold.steady
    rcases repeats with outer | ⟨entries, part, there, parts⟩
    · exact Shape.value?_of_repeats lenient "Envelope" (by decide) outer
    · refine (Shape.value?_of_entries "Envelope" lenient.steady {} (by decide) there).trans ?_
      rcases parts with ⟨member, inner⟩ | ⟨member, inner⟩
      · exact Shape.takes?_of_refused lenient List.mem_cons_self member
          (Header.shape_retold.part_refused (by decide) inner) {}
      · exact Shape.takes?_of_refused lenient (List.mem_cons_of_mem _ List.mem_cons_self) member
          (Order.shape_retold.part_refused (by decide) inner) {}

end Inbound

/-- Every document that is a table has entries, and every one that is a list has items. The header,
the order and the report are read as the same value from whatever text writes them alike: with the
entries in any order, with or without what is not known and what is null, as a list of the first
fields or as a table. So is the envelope, in which moreover the header and the order may be written
anew, and it has the same violations then. None of them is read from a table in which a key that is
known comes twice. -/
theorem decoding_canonical :
    (∀ text tree, Json.parse text = .ok tree →
      (Json.opensTable text = true → (Json.entries? text).isSome = true) ∧
        ((Json.skipBlanks text).head? = some Octet.openBracket →
          (Json.items? text).isSome = true)) ∧
      Header.shape.Canonical (Json.Respells (Header.fields.map Field.key))
        (Json.Repeats (Header.fields.map Field.key)) ∧
      Order.shape.Canonical (Json.Respells (Order.fields.map Field.key))
        (Json.Repeats (Order.fields.map Field.key)) ∧
      Report.shape.Canonical (Json.Respells (Report.fields.map Field.key))
        (Json.Repeats (Report.fields.map Field.key)) ∧
      (Inbound.shape .order).Canonical
        (Json.Retells ["MWHEADER", "TRANRQ"] Inbound.PartRespelled) Inbound.Repeats ∧
      ∀ text other, Json.Retells ["MWHEADER", "TRANRQ"] Inbound.PartRespelled text other →
        ((Inbound.shape .order).ofText text).toOption.map (Inbound.accept .order) =
          ((Inbound.shape .order).ofText other).toOption.map (Inbound.accept .order) := by
  refine ⟨fun text tree parsed => ⟨fun opens => ?_, fun opens => ?_⟩,
    Header.shape_retold.canonical, Order.shape_retold.canonical, Report.shape_retold.canonical,
    Inbound.shape_canonical, fun text other retells => ?_⟩
  · exact Option.isSome_iff_exists.2 (Json.exists_entries_of_parse parsed opens)
  · obtain ⟨left, at_bracket⟩ := List.head?_eq_some_iff.1 opens
    exact Option.isSome_iff_exists.2 (Json.exists_items_of_parse parsed at_bracket)
  · exact congrArg (Option.map (Inbound.accept .order))
      (Inbound.shape_canonical.same text other retells)

/-- An envelope with its header as a list, and with an order that has null under one key and
something under a key that is not known, is read like one without all that in another order. An
order in which a key comes twice is refused. -/
theorem decoding_canonical_respelled :
    let text := Octets.ofText <|
      "\x7b\"MWHEADER\":[\"1\",\"A\",\"3\"]," ++
        "\"TRANRQ\":\x7b \"x\":[2] , \"forCount\":null,\"delay\" : 3 \x7d\x7d"
    let other := Octets.ofText <|
      "\x7b\"TRANRQ\":\x7b\"delay\":3\x7d,\"y\":null," ++
        "\"MWHEADER\":\x7b\"MSGID\":\"1\",\"SOURCECHANNEL\":\"A\",\"TXNSEQ\":\"3\"\x7d\x7d"
    let twice := Octets.ofText "\x7b\"TRANRQ\":\x7b\"delay\":3,\"x\":0,\"delay\":3\x7d\x7d"
    let shape := Inbound.shape .order
    let read : Inbound Order :=
      ⟨some { messageId := "1", sourceChannel := "A", transaction := "3" }, some { delay := 3 }⟩
    (shape.ofText text).toOption = some read ∧ (shape.ofText other).toOption = some read ∧
      (shape.ofText twice).toOption = none := by
  intro text other twice shape read
  let list := Octets.ofText "[\"1\",\"A\",\"3\"]"
  let table := Octets.ofText "\x7b\"MSGID\":\"1\",\"SOURCECHANNEL\":\"A\",\"TXNSEQ\":\"3\"\x7d"
  let long := Octets.ofText "\x7b \"x\":[2] , \"forCount\":null,\"delay\" : 3 \x7d"
  let short := Octets.ofText "\x7b\"delay\":3\x7d"
  have listed : Json.Respells (Header.fields.map Field.key) list table :=
    .inr ⟨["\"1\"", "\"A\"", "\"3\""].map Octets.ofText, by decide +kernel, by decide +kernel,
      by decide +kernel⟩
  have shortened : Json.Respells (Order.fields.map Field.key) long short :=
    .inl ⟨[("x", Octets.ofText "[2]"), ("forCount", Json.nullText), ("delay", Octets.ofText "3")],
      [("delay", Octets.ofText "3")], by decide +kernel, by decide +kernel,
      .trans (.unknown (by decide)) (.absent (by decide) (by decide))⟩
  have retells : Json.Retells ["MWHEADER", "TRANRQ"] Inbound.PartRespelled text other := by
    refine ⟨[("MWHEADER", list), ("TRANRQ", long)],
      [("TRANRQ", short), ("y", Json.nullText), ("MWHEADER", table)], by decide +kernel,
      by decide +kernel, ?_⟩
    refine .trans (.alike (.inl ⟨rfl, listed⟩)) (.trans (.permuted (.swap _ _ [])) ?_)
    refine .trans (.alike (.inr ⟨rfl, shortened⟩)) (.symm ?_)
    exact .trans (.permuted (.swap _ _ _)) (.unknown (by decide))
  have repeats : Inbound.Repeats twice :=
    .inr ⟨[("TRANRQ", Octets.ofText "\x7b\"delay\":3,\"x\":0,\"delay\":3\x7d")], _,
      by decide +kernel, .inr ⟨List.mem_cons_self, [("delay", Octets.ofText "3"),
        ("x", Octets.ofText "0"), ("delay", Octets.ofText "3")], by decide +kernel, "delay",
        by decide, by decide⟩⟩
  obtain ⟨-, -, -, -, canonical, -⟩ := decoding_canonical
  have second : (shape.ofText other).toOption = some read := by decide +kernel
  exact ⟨(canonical.same text other retells).trans second, second, canonical.refused twice repeats⟩
end LatencyService
