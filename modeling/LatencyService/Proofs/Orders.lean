/-
The numbers of an order, from the text of a request to the work that is done.
Wherever an order comes from that is carried out, each of its numbers is the one
that stands in the text, in its decimal form, or it is zero because nothing
stands there, or null. No other number gets through: not one that is too large,
however long it is, nor one with a fraction or an exponent, nor one below zero.
-/

import LatencyService.Proofs.Carrying
import LatencyService.Proofs.Closing
import LatencyService.Proofs.Constraints
import LatencyService.Proofs.Numerals
import LatencyService.Proofs.Retelling
import LatencyService.Proofs.Telling

namespace LatencyService

namespace Json

/-! ### Numbers that a table gives -/

/-- The number that entries give to a key: the one that is written there, or zero if none is. -/
structure Counts (entries : List (String × Octets)) (key : String) (number : Int) : Prop where
  once : (entries.map Prod.fst).count key ≤ 1
  absent : key ∉ entries.map Prod.fst → number = 0
  given : ∀ value, (key, value) ∈ entries →
    value = nullText ∧ number = 0 ∨ value = Octets.ofText (toString number)

end Json

namespace Shape

open Json (Counts Exact nullText)

variable {depth : Nat} {text : Octets}

/-- A whole number is written in its decimal form. -/
theorem integer32_value? (exact : Exact text) {number : Int32}
    (held : integer32.value? depth text = some number) :
    text = Octets.ofText (toString number.toInt) := by
  have read := read_of_exact (whole_steady _ _).measured exact held
  obtain ⟨value, fits, digits⟩ := whole_read_iff.1 read
  have same : number.toInt = value := by
    split at fits
    · rename_i range
      cases fits
      obtain ⟨low, high⟩ := Bool.and_eq_true_iff.1 range
      exact Int32.toInt_ofInt_of_le (by simpa using low) (by simpa using high)
    · cases fits
  rw [exact.graphic] at digits
  rw [same, Json.ofText_of_number? digits, List.append_nil]

/-- Where a number may be null, null stands for zero. -/
theorem number_value? (exact : Exact text) {number : Int32}
    (held : (integer32.orElse 0).value? depth text = some number) :
    text = nullText ∧ number = 0 ∨ text = Octets.ofText (toString number.toInt) := by
  rw [orElse, value?_map] at held
  obtain ⟨result, read, rfl⟩ := Option.map_eq_some_iff.1 held
  rcases optional_value?_cases (whole_steady _ _) exact read with ⟨rfl, rfl⟩ | ⟨value, rfl, known⟩
  · exact .inl ⟨rfl, rfl⟩
  · exact .inr (integer32_value? exact known)

end Shape

namespace Order

open Json (Counts Tells)

variable {order : Order} {text : Octets} {numbers : List (String × Octets)} {depth : Nat}

/-- A field for a number shows the number that is given to it. -/
theorem counts_of_made? {key : String} {set : Int32 → Order → Order} {look : Order → Int32}
    (found : Shape.fieldOf? fields key = some (.of key .anywhere (Shape.integer32.orElse 0) set))
    (shown : ∀ value record, look (set value record) = value) (zero : look {} = 0)
    (spared : ∀ other ∈ fields, other.key ≠ key → ∀ change, Shape.Makes other change →
      ∀ record, look (change record) = look record)
    (exact : ∀ entry ∈ numbers, Json.Exact entry.2) (once : (Shape.knownKeys fields numbers).Nodup)
    (made : Shape.made? fields depth numbers {} = some order) :
    Counts numbers key (look order).toInt := by
  obtain ⟨kept, given⟩ := Shape.look_of_made? found shown spared once made
  refine ⟨?_, fun absent => ?_, fun value member => ?_⟩
  · have single := List.nodup_iff_count_le_one.1 once key
    rwa [Shape.knownKeys, List.count_filter (by simp [found])] at single
  · rw [kept absent, zero]
    rfl
  · rcases Shape.number_value? (exact _ member) (given value member) with ⟨null, same⟩ | written
    · exact .inl ⟨null, by rw [same]; rfl⟩
    · exact .inr written

/-- An order is made of the numbers that its text gives. -/
theorem counts_of_value? (deep : 1 < depth) (tells : Tells (fields.map Field.key) text numbers)
    (held : shape.value? depth text = some order) :
    Counts numbers "delay" order.delay.toInt ∧ Counts numbers "forCount" order.rounds.toInt := by
  obtain ⟨once, made⟩ := Shape.made?_of_tells fields_lenient deep tells held
  have spared {key : String} {set : Int32 → Order → Order} {look : Order → Int32}
      (kept : ∀ value record, look (set value record) = look record) (change : Order → Order)
      (makes : Shape.Makes (.of key .anywhere (Shape.integer32.orElse 0) set) change)
      (record : Order) : look (change record) = look record := by
    obtain ⟨value, rfl⟩ := Shape.exists_of_makes makes
    exact kept value record
  refine ⟨counts_of_made? rfl (fun _ _ => rfl) rfl ?_ tells.exact once made,
    counts_of_made? rfl (fun _ _ => rfl) rfl ?_ tells.exact once made⟩
  · simp only [fields, List.forall_mem_cons]
    exact ⟨fun other => absurd rfl other, fun _ => spared fun _ _ => rfl, List.forall_mem_nil _⟩
  · simp only [fields, List.forall_mem_cons]
    exact ⟨fun _ => spared fun _ _ => rfl, fun other => absurd rfl other, List.forall_mem_nil _⟩

end Order

namespace Inbound

open Json (Tells)

variable {inbound : Inbound Order} {order : Order} {text : Octets}
  {parts : List (String × Octets)} {depth : Nat}

/-- The order of an envelope is what its part is read as. -/
theorem order_of_value? (deep : 1 < depth)
    (tells : Tells ((fields PayloadKind.order).map Field.key) text parts)
    (held : (shape .order).value? depth text = some inbound)
    (there : inbound.payload = some order) :
    "TRANRQ" ∈ parts.map Prod.fst ∧ ∀ part, ("TRANRQ", part) ∈ parts →
      Order.shape.value? (depth - 1) part = some order := by
  have lenient := fields_lenient .order Order.shape_retold.steady
  obtain ⟨once, made⟩ := Shape.made?_of_tells lenient deep tells held
  have spared : ∀ other ∈ fields PayloadKind.order, other.key ≠ "TRANRQ" → ∀ change,
      Shape.Makes other change → ∀ record, (change record).payload = record.payload := by
    simp only [fields, List.forall_mem_cons]
    refine ⟨fun _ change makes record => ?_, fun other => absurd rfl other, List.forall_mem_nil _⟩
    obtain ⟨value, rfl⟩ := Shape.exists_of_makes makes
    rfl
  obtain ⟨kept, given⟩ := @Shape.look_of_made? _ _ _ _ _ _ _ _ Inbound.payload
    Order.shape.optional .fromTable _ rfl (fun _ _ => rfl) spared once made
  refine ⟨Decidable.not_not.1 fun absent => ?_, fun part member => ?_⟩
  · rw [kept absent] at there
    cases there
  · have read := given part member
    rw [there] at read
    rcases Shape.optional_value?_cases Order.shape_retold.steady (tells.exact _ member) read with
      ⟨-, none⟩ | ⟨value, same, known⟩
    · cases none
    · cases same
      exact known

end Inbound

namespace Http

open Json (Counts Numeral Tells)

variable {request : Request} {accepted : Accepted Order}

/-- The body is an envelope whose order gives something to its keys. -/
def Request.Orders (request : Request) (numbers : List (String × Octets)) : Prop :=
  ∃ parts part, Tells ["MWHEADER", "TRANRQ"] request.body parts ∧ ("TRANRQ", part) ∈ parts ∧
    Tells ["delay", "forCount"] part numbers

/-- What is accepted was read from the body, and its numbers are not below zero. -/
theorem value?_of_extract (extracted : extract PayloadKind.order request = .ok accepted) :
    (Inbound.shape .order).value? Json.depthLimit request.body =
        some ⟨some accepted.header, some accepted.payload⟩ ∧
      0 ≤ accepted.payload.delay ∧ 0 ≤ accepted.payload.rounds := by
  obtain ⟨inbound, read, accepts⟩ := read_of_extract extracted
  obtain ⟨rfl, -, fine⟩ := Inbound.accept_eq_ok_iff.1 accepts
  refine ⟨?_, Order.violations_eq_nil.1 fine⟩
  rw [← Shape.ofText_toOption, read]
  rfl

/-- An order that is accepted is made of the numbers in the body. -/
theorem counts_of_extract (extracted : extract PayloadKind.order request = .ok accepted) :
    (∃ numbers, request.Orders numbers) ∧ ∀ numbers, request.Orders numbers →
      Counts numbers "delay" accepted.payload.delay.toInt ∧
        Counts numbers "forCount" accepted.payload.rounds.toInt := by
  have lenient := Inbound.fields_lenient .order Order.shape_retold.steady
  obtain ⟨held, -⟩ := value?_of_extract extracted
  refine ⟨?_, ?_⟩
  · obtain ⟨parts, tells⟩ := Shape.exists_tells ["MWHEADER", "TRANRQ"] lenient.steady held
    obtain ⟨among, given⟩ := Inbound.order_of_value? (by decide) tells held rfl
    obtain ⟨⟨_, part⟩, member, rfl⟩ := List.mem_map.1 among
    obtain ⟨numbers, told⟩ :=
      Shape.exists_tells ["delay", "forCount"] Order.fields_lenient.steady (given part member)
    exact ⟨numbers, parts, part, tells, member, told⟩
  · rintro numbers ⟨parts, part, tells, member, told⟩
    obtain ⟨-, given⟩ := Inbound.order_of_value? (by decide) tells held rfl
    exact Order.counts_of_value? (by decide) told (given part member)

end Http

/-! ### Numbers that are carried out -/

namespace Json.Numeral

/-- The number is none that a delay or a count of rounds may have: it is outside of the signed
numbers of thirty-two bits, or it has a fraction or an exponent, or it is below zero. -/
def Unfit (numeral : Numeral) : Prop :=
  ¬(-0x80000000 ≤ numeral.whole ∧ numeral.whole < 0x80000000) ∨ numeral.tail ≠ [] ∨
    numeral.whole < 0

/-- No such number counts. -/
theorem Unfit.not_counts {numeral : Numeral} (unfit : numeral.Unfit) {key : String}
    {entries : List (String × Octets)} (there : (key, numeral.text) ∈ entries) {number : Int32}
    (natural : 0 ≤ number) (counts : Counts entries key number.toInt) : False := by
  rcases counts.given _ there with ⟨null, -⟩ | written
  · obtain ⟨octet, rest, begins, sign⟩ := numeral.exists_cons
    obtain rfl : octet = Octet.smallN := (List.cons.inj (begins.symm.trans null)).1
    rcases sign with sign | digit
    · cases sign
    · cases digit
  · have low : 0 ≤ number.toInt := Int32.le_iff_toInt_le.1 natural
    have high := number.toInt_lt
    obtain ⟨count, same⟩ := Int.eq_ofNat_of_zero_le low
    rw [same] at written
    obtain ⟨short, whole⟩ := @of_text numeral count written
    rcases unfit with outside | long | below
    · omega
    · exact long short
    · omega

end Json.Numeral

namespace Service

variable {deployment : Deployment} {service : Service} {request : Http.Request}

/-- A number that is not below zero is taken as it is. -/
theorem exists_count {value : Int32} (natural : 0 ≤ value) :
    ∃ count < 2 ^ 31, value.toInt = (count : Nat) ∧ atLeastZero value = UInt64.ofNat count ∧
      (UInt64.ofNat count).toNat = count := by
  have low : 0 ≤ value.toInt := Int32.le_iff_toInt_le.1 natural
  have high := value.toInt_lt
  refine ⟨value.toInt.toNat, by omega, (Int.toNat_of_nonneg low).symm, Nat.toUInt64_eq, ?_⟩
  exact UInt64.toNat_ofNat_of_lt' (show value.toInt.toNat < 2 ^ 64 by omega)

/-- An order with time left begins to sleep. -/
theorem begin_of_demo (patient : deployment.settings.timeouts.requestSeconds ≠ some 0)
    {header : Header} {order : Order} (asks : Http.Dispatch.ofRequest request = .demo header order) :
    ∃ journal, service.begin deployment (.request request) =
      ({ service with begun := service.begun + 1, journal } : Service).beginSleep deployment
        service.begun (.demo (service.exchangeOf deployment request .demo) header)
        (atLeastZero order.delay) (atLeastZero order.rounds) := by
  unfold Service.begin admitRequest beginRequest
  simp only [enroll, deadline_left patient, asks]
  exact ⟨_, rfl⟩

/-- For a request that is refused nothing is begun, whether or not it has any time. -/
theorem begin_of_problem {route : Http.Route} {problem : Http.Problem}
    (posted : request.method = "POST")
    (refused : Http.Dispatch.ofRequest request = .refused route problem)
    (client : 400 ≤ problem.status ∧ problem.status < 500) :
    ∃ response metrics journal, (400 ≤ response.status ∧ response.status < 500) ∧
      service.begin deployment (.request request) =
        { service with
          begun := service.begun + 1
          metrics
          journal
          ended := ⟨service.begun, service.now, .answered response⟩ :: service.ended } := by
  by_cases impatient : deployment.settings.timeouts.requestSeconds = some 0
  · have whole : (request.method == "HEAD") = false := by
      rw [posted]
      decide
    unfold Service.begin admitRequest beginRequest
    simp only [enroll, deadline_spent impatient, whole]
    refine ⟨sealResponse false _ timedOut, service.metrics, _, ?_, rfl⟩
    rw [status_sealResponse]
    decide
  · refine ⟨_, _, _, ?_, begin_of_refused impatient posted refused⟩
    rw [status_sealResponse]
    exact client

end Service

namespace Http

open Json (Numeral)

variable {request : Request} {order : Order}

/-- A request for whose order something is begun was accepted with that order. -/
theorem exists_extract_of_work
    (asks : (∃ header, Dispatch.ofRequest request = .demo header order) ∨
      Dispatch.ofRequest request = .demoService order) :
    ∃ header, extract PayloadKind.order request = .ok ⟨header, order⟩ := by
  rcases asks with ⟨header, asks⟩ | asks
  · obtain ⟨posted, found, ⟨brought, payload⟩, extracted⟩ :=
      Dispatch.delays_demo_iff.2 ⟨header, order, asks⟩
    rw [Dispatch.ofRequest_of_post posted found (by decide), Dispatch.ofRoute, extracted] at asks
    cases asks
    exact ⟨_, extracted⟩
  · obtain ⟨posted, found, ⟨brought, payload⟩, extracted⟩ :=
      Dispatch.delays_demoService_iff.2 ⟨order, asks⟩
    rw [Dispatch.ofRequest_of_post posted found (by decide), Dispatch.ofRoute, extracted] at asks
    cases asks
    exact ⟨_, extracted⟩

/-- A request with a number that is unfit is refused. -/
theorem exists_problem_of_unfit {numbers : List (String × Octets)} (told : request.Orders numbers)
    {key : String} (known : key ∈ ["delay", "forCount"]) {numeral : Numeral}
    (unfit : numeral.Unfit) (there : (key, numeral.text) ∈ numbers) :
    ∃ problem, extract PayloadKind.order request = .error problem := by
  cases extracted : extract PayloadKind.order request with
  | error problem => exact ⟨problem, rfl⟩
  | ok accepted =>
    obtain ⟨-, delay, rounds⟩ := value?_of_extract extracted
    obtain ⟨counts, also⟩ := (counts_of_extract extracted).2 numbers told
    simp only [List.mem_cons, List.not_mem_nil, or_false] at known
    rcases known with rfl | rfl
    · exact (unfit.not_counts there delay counts).elim
    · exact (unfit.not_counts there rounds also).elim

end Http

/-- The numbers of an order get exactly where they are meant to be. What the body of an accepted
request gives to a key of the order is null, or nothing, which makes zero, or a whole number in its
decimal form, which is below two to the thirty-first and is what the operation sleeps and is busy
for. A number in the body that is too large, however long it is, that has a fraction or an exponent,
or that is below zero, lets the request be refused, and nothing is begun. So wherever an operation
is begun for a request, no number has to be made zero to be one that counts. -/
theorem numbers_exact (request : Http.Request) :
    (request.Delays .demo → (∃ numbers, request.Orders numbers) ∧
      ∃ header, ∃ seconds < 2 ^ 31, ∃ rounds < 2 ^ 31,
        (∀ numbers, request.Orders numbers → Json.Counts numbers "delay" (seconds : Nat) ∧
          Json.Counts numbers "forCount" (rounds : Nat)) ∧
        (UInt64.ofNat seconds).toNat = seconds ∧ (UInt64.ofNat rounds).toNat = rounds ∧
        ∀ (deployment : Deployment) (service : Service),
          deployment.settings.timeouts.requestSeconds ≠ some 0 →
          ∃ journal, service.begin deployment (.request request) =
            ({ service with begun := service.begun + 1, journal } : Service).beginSleep deployment
              service.begun (.demo (service.exchangeOf deployment request .demo) header)
              (UInt64.ofNat seconds) (UInt64.ofNat rounds)) ∧
    (∀ route ∈ [Http.Route.demo, .demoService], request.method = "POST" →
      request.path = route.path → ∀ numbers, request.Orders numbers →
      ∀ key ∈ ["delay", "forCount"], ∀ numeral : Json.Numeral, numeral.Unfit →
      (key, numeral.text) ∈ numbers → ∀ (deployment : Deployment) (service : Service),
        ∃ response metrics journal, (400 ≤ response.status ∧ response.status < 500) ∧
          service.begin deployment (.request request) =
            { service with
              begun := service.begun + 1
              metrics
              journal
              ended := ⟨service.begun, service.now, .answered response⟩ :: service.ended }) ∧
    ∀ order, (∃ header, Http.Dispatch.ofRequest request = .demo header order) ∨
      Http.Dispatch.ofRequest request = .demoService order →
      ∀ value ∈ [order.delay, order.rounds],
        0 ≤ value ∧ ((Service.atLeastZero value).toNat : Int) = value.toInt := by
  refine ⟨?_, ?_, ?_⟩
  · rintro ⟨posted, found, accepted, extracted⟩
    obtain ⟨-, delay, rounds⟩ := Http.value?_of_extract extracted
    obtain ⟨told, counts⟩ := Http.counts_of_extract extracted
    obtain ⟨seconds, short, same, taken, exact⟩ := Service.exists_count delay
    obtain ⟨often, few, also, given, precise⟩ := Service.exists_count rounds
    rw [same, also] at counts
    refine ⟨told, accepted.header, seconds, short, often, few, counts, exact, precise, ?_⟩
    intro deployment service patient
    rw [← taken, ← given]
    refine Service.begin_of_demo patient ?_
    rw [Http.Dispatch.ofRequest_of_post posted found (by decide), Http.Dispatch.ofRoute, extracted]
  · intro route delaying posted found numbers told key known numeral unfit there deployment service
    obtain ⟨problem, refused⟩ := Http.exists_problem_of_unfit told known unfit there
    have asks : Http.Dispatch.ofRequest request = .refused route problem := by
      simp only [List.mem_cons, List.not_mem_nil, or_false] at delaying
      rcases delaying with rfl | rfl
      · rw [Http.Dispatch.ofRequest_of_post posted found (by decide), Http.Dispatch.ofRoute, refused]
      · rw [Http.Dispatch.ofRequest_of_post posted found (by decide), Http.Dispatch.ofRoute, refused]
    exact Service.begin_of_problem posted asks (Http.Problem.client_of_extract refused)
  · intro order asks value member
    obtain ⟨header, extracted⟩ := Http.exists_extract_of_work asks
    obtain ⟨-, delay, rounds⟩ := Http.value?_of_extract extracted
    have natural : 0 ≤ value := by
      simp only [List.mem_cons, List.not_mem_nil, or_false] at member
      rcases member with rfl | rfl
      · exact delay
      · exact rounds
    obtain ⟨count, -, same, taken, exact⟩ := Service.exists_count natural
    rw [taken, exact, same]
    exact ⟨natural, rfl⟩

/-- The greatest number of seconds is slept, and one more is refused. -/
theorem numbers_exact_at_greatest :
    let deployment : Deployment := ⟨{ timeouts := { requestSeconds := some 1 } }, fun _ => "id"⟩
    let service := Service.start deployment {}
    let request (seconds : String) : Http.Request :=
      { target := "/demo", headers := [("content-type", Octets.ofText "application/json")]
        body := Octets.ofText ("\x7b\"TRANRQ\": \x7b\"delay\" : " ++ seconds ++ "\x7d," ++
          "\"MWHEADER\":\x7b\"MSGID\":\"m\",\"SOURCECHANNEL\":\"c\",\"TXNSEQ\":\"t\"\x7d\x7d") }
    (request "2147483647").Delays .demo ∧
      (∃ header journal, service.begin deployment (.request (request "2147483647")) =
        ({ service with begun := 1, journal } : Service).beginSleep deployment 0
          (.demo (service.exchangeOf deployment (request "2147483647") .demo) header)
          2147483647 0) ∧
      (request "2147483648").Orders [("delay", Octets.ofText "2147483648")] ∧
      ∃ response metrics journal, (400 ≤ response.status ∧ response.status < 500) ∧
        service.begin deployment (.request (request "2147483648")) =
          { service with
            begun := 1, metrics, journal, ended := [⟨0, 0, .answered response⟩] } := by
  intro deployment service request
  have isOk : (Http.extract PayloadKind.order (request "2147483647")).isOk = true := by
    decide +kernel
  have delays : (request "2147483647").Delays .demo := by
    refine ⟨rfl, by decide +kernel, ?_⟩
    cases extracted : Http.extract PayloadKind.order (request "2147483647") with
    | error problem =>
      rw [extracted] at isOk
      cases isOk
    | ok accepted => exact ⟨accepted, rfl⟩
  have orders (seconds : String) (text : Octets)
      (outer : Json.entries? (request seconds).body = some [("TRANRQ", text),
        ("MWHEADER", Octets.ofText
          "\x7b\"MSGID\":\"m\",\"SOURCECHANNEL\":\"c\",\"TXNSEQ\":\"t\"\x7d")])
      (inner : Json.entries? text = some [("delay", Octets.ofText seconds)]) :
      (request seconds).Orders [("delay", Octets.ofText seconds)] :=
    ⟨_, text, .inl outer, List.mem_cons_self, .inl inner⟩
  have greatest := orders "2147483647" (Octets.ofText "\x7b\"delay\" : 2147483647\x7d")
    (by decide +kernel) (by decide +kernel)
  have more := orders "2147483648" (Octets.ofText "\x7b\"delay\" : 2147483648\x7d")
    (by decide +kernel) (by decide +kernel)
  refine ⟨delays, ?_, more, ?_⟩
  · obtain ⟨-, header, seconds, -, rounds, -, counts, -, -, begins⟩ :=
      (numbers_exact (request "2147483647")).1 delays
    obtain ⟨delay, often⟩ := counts _ greatest
    have none : (rounds : Int) = 0 := often.absent (by decide)
    obtain rfl : rounds = 0 := Int.ofNat_inj.1 none
    have written : Octets.ofText "2147483647" = Octets.ofText (toString seconds) :=
      (delay.given _ List.mem_cons_self).resolve_left fun null => absurd null.1 (by decide)
    have same := congrArg Json.decimalValue written
    obtain rfl : 2147483647 = seconds := same.trans (Json.decimalValue_repr seconds)
    obtain ⟨journal, begun⟩ := begins deployment service (by decide)
    exact ⟨header, journal, begun⟩
  · let numeral : Json.Numeral :=
      ⟨true, Octets.ofText "2147483648", [],
        ⟨by decide, by decide +kernel, by decide +kernel⟩, nofun⟩
    refine (numbers_exact (request "2147483648")).2.1 .demo List.mem_cons_self rfl
      (by decide +kernel) _ more "delay" List.mem_cons_self numeral (.inl ?_) List.mem_cons_self
      deployment service
    decide

end LatencyService
