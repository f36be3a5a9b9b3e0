/-
A client asks a service. The request goes to the target that the client's URL
names, the service serves it, and the client makes of the response what it can.
Where no request is given up and the shutdown has not been triggered, the client
gets the header that it sent and the report that the service wrote, or it is
told all the constraints that its question violates.
-/

import LatencyService.Proofs.Counters
import LatencyService.Proofs.Documents
import LatencyService.Proofs.Questions
import LatencyService.Proofs.Target

namespace LatencyService

/-! ### Services that serve one request after the other -/

namespace Service

variable {deployment : Deployment} {service : Service} {held : Nat}

/-- A service is at rest again when it has served requests, one after the other. -/
theorem Sound.rests_serveAll (sound : service.Sound held) (prompt : service.Prompt)
    (rests : service.Rests) (deployment : Deployment) (requests : List (Bool × Http.Request)) :
    (service.serveAll deployment requests).2.Sound held ∧
      (service.serveAll deployment requests).2.Prompt ∧
      (service.serveAll deployment requests).2.Rests := by
  induction requests generalizing service with
  | nil => exact ⟨sound, prompt, rests⟩
  | cons asked rest inductionHypothesis =>
    obtain ⟨triggers, request⟩ := asked
    obtain ⟨shutdown, readied, -, served⟩ :=
      sound.serve_readied prompt rests deployment triggers request
    rw [serveAll_cons, readied]
    exact inductionHypothesis served.sound served.prompt served.rests

/-- A service that can be asked: it has nothing to do, no request is ever given up, and the shutdown
has not been triggered. -/
structure Ready (deployment : Deployment) (service : Service) : Prop where
  sound : ∃ held, service.Sound held
  prompt : service.Prompt
  rests : service.Rests
  untimed : deployment.settings.timeouts.requestSeconds = none
  isOpen : service.shutdown.isTriggered = false

/-- Whoever is served by a service at rest gets the response that the birth of the task says. -/
theorem Ready.serve (ready : service.Ready deployment) (request : Http.Request) :
    (service.serve deployment request).1 =
      responseOf ((service.orderBirth deployment request).outcome deployment service.begun
        service.now) := by
  obtain ⟨held, sound⟩ := ready.sound
  have born : service.birth deployment (.request request) =
      service.orderBirth deployment request := by
    have undated : service.deadlineOf deployment = none := by
      rw [deadlineOf, ready.untimed]
      rfl
    rw [birth, requestBirth, undated, if_neg (Option.some_ne_none _).symm]
  rw [serve_eq, (sound.serve ready.prompt ready.rests deployment request).ended, born]

/-- The response to a request as it leaves the service, if there is one. -/
def sealed (deployment : Deployment) (service : Service) (request : Http.Request)
    (response? : Option Http.Response) : Option Http.Response :=
  response?.map
    (sealResponse (request.method == "HEAD") (identify deployment service.begun request).1)

/-- What is ready at once is the response. -/
theorem Ready.serve_answered (ready : service.Ready deployment) {request : Http.Request}
    {route : Http.Route} {response : Http.Response} {events : List Event}
    (asks : Http.Dispatch.ofRequest request = .answered route response events) :
    (service.serve deployment request).1 = service.sealed deployment request (some response) := by
  rw [ready.serve, orderBirth, asks]
  rfl

/-- A task that nothing stops sleeps for its delay, and is told as complete. -/
theorem outcome_sleepBirth (deployment : Deployment) (isOpen : service.shutdown.isTriggered = false)
    {purpose : Purpose} (delaySeconds rounds : UInt64) {ending : Ending}
    (undated : purpose.exchange?.bind Exchange.deadline = none)
    (success : purpose.success? (reportOf deployment.settings.operation
      (1000 * delaySeconds.toNat)) = some ending) :
    (service.sleepBirth purpose delaySeconds rounds).outcome deployment service.begun service.now =
      [⟨service.begun, service.now + 1000 * delaySeconds.toNat, ending⟩] := by
  let wake := service.now + 1000 * delaySeconds.toNat
  let task : Task :=
    { serial := service.begun, purpose, delaySeconds, rounds, started := service.now
      stage := .asleep wake service.shutdown.subscribe.1 }
  have born : service.sleepBirth purpose delaySeconds rounds = .begins task := by
    rw [sleepBirth, isOpen, if_neg Bool.false_ne_true]
  have due : task.due? = some wake := by
    have endless : task.deadline? = none := undated
    rw [Task.due?, endless]
    rfl
  have timely : task.isLateAt wake = false := by
    have endless : task.deadline? = none := undated
    refine Task.isLateAt_eq_false_iff.2 ?_
    rw [endless]
    exact fun _ there => by cases there
  have elapsed : wake - task.started = 1000 * delaySeconds.toNat := Nat.add_sub_cancel_left ..
  rw [born, Birth.outcome, due, Option.elim_some, Nat.max_eq_right (Nat.le_add_right ..)]
  refine Task.conclusion_of_timely rfl timely ?_
  rw [elapsed]
  exact success

/-- The response to a relayed call; none comes where nobody answers and nobody gives up. -/
def relayResponse? (settings : OutboundSettings) (backend : Backend) (header : Header) :
    Option Http.Response :=
  match (Relay.run settings backend).1 with
  | .relayed relayed => some (.json 200 (Reply.full header (.ofData relayed.body)).render)
  | .failed failure => some (Relay.problemOf settings failure).response
  | .pending url =>
    settings.timeoutSeconds.map fun _ => (Relay.problemOf settings (.unanswered url)).response

/-- A relayed call is waited for until it is given up. -/
theorem outcome_relayBirth (deployment : Deployment) (service : Service) {exchange : Exchange}
    (undated : exchange.deadline = none) (header : Header) :
    responseOf ((service.relayBirth deployment exchange header).outcome deployment service.begun
        service.now) =
      (relayResponse? deployment.settings.outbound service.backend header).map
        (sealResponse exchange.isHead exchange.identifier) := by
  rw [relayBirth, relayResponse?]
  dsimp only
  cases (Relay.run deployment.settings.outbound service.backend).1 with
  | relayed relayed => rfl
  | failed failure => rfl
  | pending url =>
    dsimp only
    cases deployment.settings.outbound.timeoutSeconds with
    | none =>
      rw [Birth.outcome, Task.due?, Task.deadline?]
      dsimp only [Purpose.exchange?, Option.bind_some]
      rw [undated]
      rfl
    | some seconds =>
      rw [Birth.outcome, Task.due?, Task.deadline?]
      dsimp only [Purpose.exchange?, Option.bind_some]
      rw [undated]
      have late (task : Task) (purpose : task.purpose = .relay exchange header) (now : Nat) :
          task.isLateAt now = false := by
        rw [Task.isLateAt, Task.deadline?, purpose]
        show exchange.deadline.any _ = false
        rw [undated]
        rfl
      dsimp only [Option.map_some, Stage.due?, earlier?, Option.elim_some]
      rw [Task.conclusion, Task.attendFate_of_timely _ (late _ rfl _)]
      rfl

theorem Ready.undated (ready : service.Ready deployment) (request : Http.Request)
    (route : Http.Route) : (service.exchangeOf deployment request route).deadline = none := by
  show service.deadlineOf deployment = none
  rw [deadlineOf, ready.untimed]
  rfl

/-- An operation that is asked for is complete when its delay is over. -/
theorem Ready.serve_demo (ready : service.Ready deployment) {request : Http.Request}
    {header : Header} {order : Order}
    (asks : Http.Dispatch.ofRequest request = .demo header order) :
    (service.serve deployment request).1 =
      service.sealed deployment request (some (.json 200
        (Reply.full header (reportOf deployment.settings.operation
          (1000 * (atLeastZero order.delay).toNat))).render)) := by
  let purpose : Purpose := .demo (service.exchangeOf deployment request .demo) header
  have undated : purpose.exchange?.bind Exchange.deadline = none := ready.undated request .demo
  rw [ready.serve, orderBirth, asks]
  dsimp only
  rw [outcome_sleepBirth deployment ready.isOpen _ _ undated rfl]
  rfl

/-- So is one whose result nobody sees. -/
theorem Ready.serve_demoService (ready : service.Ready deployment) {request : Http.Request}
    {order : Order} (asks : Http.Dispatch.ofRequest request = .demoService order) :
    (service.serve deployment request).1 =
      service.sealed deployment request (some (.json 200 Reply.empty.render)) := by
  let purpose : Purpose := .demoService (service.exchangeOf deployment request .demoService)
  have undated : purpose.exchange?.bind Exchange.deadline = none :=
    ready.undated request .demoService
  rw [ready.serve, orderBirth, asks]
  dsimp only
  rw [outcome_sleepBirth deployment ready.isOpen _ _ undated rfl]
  rfl

/-- A call that is asked for is relayed. -/
theorem Ready.serve_relay (ready : service.Ready deployment) {request : Http.Request}
    {header : Header} (asks : Http.Dispatch.ofRequest request = .relay header) :
    (service.serve deployment request).1 =
      service.sealed deployment request
        (relayResponse? deployment.settings.outbound service.backend header) := by
  rw [ready.serve, orderBirth, asks]
  exact outcome_relayBirth deployment service (ready.undated request .relay) header

end Service

/-! ### What the client makes of the responses -/

namespace Client

/-- What a client is told that asks a service at a base, if it is ever told anything. -/
def ask (deployment : Deployment) (service : Service) (baseText : String) (question : Question) :
    Option (Except Failure Answer) :=
  match Call.urlOf (urlText baseText question) with
  | .error failure => some (.error (.call failure))
  | .ok url =>
    let request := { question.request with target := Call.requestTarget url }
    (service.serve deployment request).1.map interpret

/-- The client gets the parts of an answer. -/
theorem interpret_reply (reply : Reply) :
    interpret (.json 200 reply.render) = .ok ⟨reply.header, reply.report⟩ := by
  have success : Http.isSuccess (Http.Response.json 200 reply.render).status = true :=
    (by decide : Http.isSuccess 200 = true)
  have read : Answer.shape.ofText (Http.Response.json 200 reply.render).body =
      .ok ⟨reply.header, reply.report⟩ := reply.answerShape_reads.ofText (by decide)
  rw [interpret, success, if_pos rfl, read]

/-- The client is told the status and the document of a problem. -/
theorem interpret_problem {problem : Http.Problem}
    (unsuccessful : Http.isSuccess problem.status = false) :
    interpret problem.response = .error (.refused problem.status problem.document) := by
  have status : Http.isSuccess problem.response.status = false := unsuccessful
  have text : Octets.toTextLossy problem.response.body = problem.document :=
    Octets.toTextLossy_ofText _
  rw [interpret, status, if_neg Bool.false_ne_true, text]
  rfl

variable {deployment : Deployment} {service : Service} {root : Root} {slashes : Nat}
  {question : Question} {route : Http.Route} {header : Header} {order : Order}

/-- A question to an endpoint is served there. -/
theorem ask_eq (root : Root) (slashes : Nat) (asks : question.route? = some route) :
    ask deployment service (root.baseText slashes) question =
      (service.serve deployment { question.request with target := route.path }).1.map
        interpret := by
  obtain ⟨url, callable, target⟩ := root.exists_url slashes (Question.path_of_route? asks)
  rw [ask, callable]
  dsimp only
  rw [target]

/-- No question asks for the head alone. -/
theorem Question.method_ne_head (question : Question) : (question.method == "HEAD") = false := by
  cases question <;> rfl

/-- The report of an operation that was ordered. -/
theorem reportOf_order (settings : OperationSettings) (natural : 0 ≤ order.delay) :
    Service.reportOf settings (1000 * (Service.atLeastZero order.delay).toNat) =
      ⟨some settings.environment,
        some ("Total time spent: " ++ toString order.delay.toInt ++ " seconds")⟩ := by
  have above : 0 ≤ order.delay.toInt := Int32.le_iff_toInt_le.1 natural
  have below : order.delay.toInt < 0x80000000 := Int32.toInt_lt order.delay
  obtain ⟨seconds, same⟩ := Int.eq_ofNat_of_zero_le above
  have count : (Service.atLeastZero order.delay).toNat = seconds := by
    rw [Service.atLeastZero, same]
    exact (UInt64.toNat_ofNat' ..).trans (Nat.mod_eq_of_lt (by omega))
  have whole : 1000 * seconds / 1000 = seconds := by omega
  have countable : 1000 * seconds / 1000 < UInt64.size := by
    rw [whole]
    exact Nat.lt_trans (by omega) (by decide : 0x80000000 < UInt64.size)
  have data := Service.data_reportOf settings countable
  rw [whole] at data
  rw [count, same]
  show (⟨some settings.environment, (Service.reportOf settings (1000 * seconds)).data⟩ : Report) = _
  rw [data]
  rfl

/-- What a client is told whose question comes with an envelope that violates nothing. -/
def Question.told (deployment : Deployment) (backend : Backend) :
    Question → Option (Except Failure Answer)
  | demo header order =>
    some (.ok ⟨some header, some ⟨some deployment.settings.operation.environment,
      some ("Total time spent: " ++ toString order.delay.toInt ++ " seconds")⟩⟩)
  | demoService .. => some (.ok ⟨none, none⟩)
  | camel header => some (.ok ⟨some header, none⟩)
  | relay header =>
    let settings := deployment.settings.outbound
    match (Relay.run settings backend).1 with
    | .relayed relayed => some (.ok ⟨some header, some (.ofData relayed.body)⟩)
    | .failed failure => some (.error (.refused 502 (Relay.problemOf settings failure).document))
    | .pending url =>
      settings.timeoutSeconds.map fun _ =>
        .error (.refused 502 (Relay.problemOf settings (.unanswered url)).document)
  | health => some (.ok ⟨none, some (.ofData Http.Dispatch.healthText)⟩)
  | document .. => none

/-- The client makes of a response to a question what it makes of one without an identifier. -/
theorem ask_of_serve (root : Root) (slashes : Nat) (asks : question.route? = some route)
    {response? : Option Http.Response}
    (served : (service.serve deployment { question.request with target := route.path }).1 =
      service.sealed deployment { question.request with target := route.path } response?) :
    ask deployment service (root.baseText slashes) question = response?.map interpret := by
  have whole : (({ question.request with target := route.path } : Http.Request).method == "HEAD") =
      false := question.method_ne_head
  rw [ask_eq root slashes asks, served, Service.sealed, whole, Option.map_map]
  rfl

/-- Every such question has an answer, unless a call is to be relayed for it. -/
theorem Question.exists_told (deployment : Deployment) (backend : Backend)
    (sent : question.sent? = some (header, order)) (other : question ≠ .relay header) :
    ∃ answer, question.told deployment backend = some (.ok answer) := by
  cases question with
  | relay =>
    cases sent
    exact absurd rfl other
  | health => cases sent
  | document => cases sent
  | _ => exact ⟨_, rfl⟩

section Sent

variable (ready : service.Ready deployment) (root : Root) (slashes : Nat)
  (sent : question.sent? = some (header, order))
  (fits : (Octets.ofText (body header order)).length ≤ Http.bodyLimit)
include ready sent fits

/-- A question that violates constraints is refused, and the client is told so. -/
theorem ask_of_invalid (invalid : violationsOf header order ≠ []) :
    ask deployment service (root.baseText slashes) question =
      some (.error (.refused 400
        (Http.Problem.invalid ((violationsOf header order).map Violation.message)).document)) := by
  obtain ⟨route, asks⟩ : ∃ route, question.route? = some route := by
    cases question with
    | document => cases sent
    | _ => exact ⟨_, rfl⟩
  have refused := Question.ofRequest_of_invalid asks sent fits invalid
  have unsuccessful (details : List String) :
      Http.isSuccess (Http.Problem.invalid details).status = false :=
    (by decide : Http.isSuccess 400 = false)
  have told := ask_of_serve root slashes asks (ready.serve_answered refused)
  rw [told]
  exact congrArg some (interpret_problem (unsuccessful _))

/-- A question that violates nothing is answered. -/
theorem ask_of_valid (valid : violationsOf header order = []) :
    ask deployment service (root.baseText slashes) question =
      question.told deployment service.backend := by
  have natural : 0 ≤ order.delay := (violationsOf_eq_nil.1 valid).2.1
  obtain ⟨route, asks⟩ : ∃ route, question.route? = some route := by
    cases question with
    | document => cases sent
    | _ => exact ⟨_, rfl⟩
  have works := Question.ofRequest_of_valid asks sent fits valid
  cases question with
  | demo =>
    cases sent
    have told := ask_of_serve root slashes asks (ready.serve_demo (Option.some.inj works))
    rw [told, reportOf_order _ natural]
    exact congrArg some (interpret_reply _)
  | demoService =>
    cases sent
    have told := ask_of_serve root slashes asks
      (ready.serve_demoService (Option.some.inj works))
    rw [told]
    exact congrArg some (interpret_reply _)
  | camel =>
    cases sent
    have told := ask_of_serve root slashes asks (ready.serve_answered (Option.some.inj works))
    rw [told]
    exact congrArg some (interpret_reply _)
  | relay =>
    cases sent
    have told := ask_of_serve root slashes asks (ready.serve_relay (Option.some.inj works))
    rw [told, Service.relayResponse?, Question.told]
    have unsuccessful (failure : CallFailure) :
        Http.isSuccess (Relay.problemOf deployment.settings.outbound failure).status = false :=
      (by decide : Http.isSuccess 502 = false)
    cases (Relay.run deployment.settings.outbound service.backend).1 with
    | relayed relayed => exact congrArg some (interpret_reply _)
    | failed failure => exact congrArg some (interpret_problem (unsuccessful _))
    | pending url =>
      dsimp only
      rw [Option.map_map]
      exact congrArg (fun told => Option.map told _)
        (funext fun _ => interpret_problem (unsuccessful _))
  | _ => cases sent

end Sent

/-- A client and a service that gives up no request agree on the wire, whatever has been served
before and however many slashes stand at the end of the client's base, unless the shutdown has been
triggered. The service finds in the body the header and the order that the client has sent. If they
violate nothing, the client is told what its question asks for; else it is told the status and a
document that lists the violations, all that hold and each of them once. -/
theorem questions_answered (root : Root) (slashes : Nat) (deployment : Deployment)
    (backend : Backend) (earlier : List (Bool × Http.Request))
    (untimed : deployment.settings.timeouts.requestSeconds = none)
    (isOpen : ((Service.start deployment backend).serveAll deployment
      earlier).2.shutdown.isTriggered = false) :
    let service := ((Service.start deployment backend).serveAll deployment earlier).2
    let told := ask deployment service (root.baseText slashes)
    (∀ question header order, question.sent? = some (header, order) →
      (Octets.ofText (body header order)).length ≤ Http.bodyLimit →
      let violations := violationsOf header order
      let proper := (Header.IsProper header.messageId ∧ Header.IsProper header.sourceChannel ∧
        Header.IsProper header.transaction) ∧ 0 ≤ order.delay ∧ 0 ≤ order.rounds
      question.body? = some (body header order) ∧
        (Inbound.shape .order).ofText (Octets.ofText (body header order)) =
          .ok ⟨some header, some order⟩ ∧
        (∃ payload, (Inbound.shape .free).ofText (Octets.ofText (body header order)) =
          .ok ⟨some header, some payload⟩) ∧
        (question ≠ .relay header → ((∃ answer, told question = some (.ok answer)) ↔ proper)) ∧
        (proper → told question = question.told deployment service.backend) ∧
        (¬proper → ∃ document tree,
          told question = some (.error (.refused 400 document)) ∧
          (Failure.refused 400 document).message =
            "Service returned error status 400 Bad Request: " ++ document ∧
          Json.parse (Octets.ofText document) = .ok tree ∧
          tree.get? "details" =
            some (.list (violations.map fun violation => .text violation.message))) ∧
        violations.Nodup ∧ ∀ violation, violation ∈ violations ↔ violation.Holds header order) ∧
    told .health = some (.ok ⟨none, some (.ofData "health is good")⟩) := by
  intro service told
  have initial := Scene.sound_start deployment backend
  have atRest : (Service.start deployment backend).Rests := fun _ member => nomatch member
  obtain ⟨sound, prompt, rests⟩ :=
    initial.service.rests_serveAll initial.prompt atRest deployment earlier
  have ready : service.Ready deployment := ⟨⟨_, sound⟩, prompt, rests, untimed, isOpen⟩
  refine ⟨fun question header order sent fits => ?_, ?_⟩
  · have known : (violationsOf header order).Nodup :=
      (violationsOf_sublist header order).nodup (by decide)
    have answered (proper : (Header.IsProper header.messageId ∧
        Header.IsProper header.sourceChannel ∧ Header.IsProper header.transaction) ∧
          0 ≤ order.delay ∧ 0 ≤ order.rounds) :
        told question = question.told deployment service.backend :=
      ask_of_valid ready root slashes sent fits (violationsOf_eq_nil.2 proper)
    refine ⟨?_, (body_reads_order header order).ofText (by decide),
      ⟨_, (body_reads_free header order).ofText (by decide)⟩, fun other => ⟨?_, fun proper => ?_⟩,
      answered, fun improper => ?_, known, fun violation => mem_violationsOf⟩
    · cases question <;> cases sent <;> rfl
    · rintro ⟨answer, success⟩
      refine violationsOf_eq_nil.1 (Classical.byContradiction fun invalid => ?_)
      have told_invalid : told question = some (.error _) :=
        ask_of_invalid ready root slashes sent fits invalid
      rw [told_invalid] at success
      cases success
    · rw [answered proper]
      exact Question.exists_told deployment service.backend sent other
    · have invalid : violationsOf header order ≠ [] := fun none =>
        improper (violationsOf_eq_nil.1 none)
      have named : (violationsOf header order).map Violation.message ≠ [] := fun none =>
        invalid (List.map_eq_nil_iff.1 none)
      obtain ⟨tree, parsed, -, -, details⟩ := Http.Problem.document_parses named
      refine ⟨_, tree, ask_of_invalid ready root slashes sent fits invalid, rfl, parsed, ?_⟩
      rw [details, List.map_map]
      rfl
  · have healthy := ask_of_serve root slashes rfl (ready.serve_answered Question.ofRequest_health)
    exact healthy.trans (congrArg some (interpret_reply _))

/-- Quotes and line ends come back as they were sent, behind a base with two slashes, and a
number below zero is told beside a blank field. -/
theorem questions_answered_at_loopback :
    let deployment : Deployment := ⟨{}, fun _ => "identifier"⟩
    let service := Service.start deployment {}
    let told := ask deployment service (Root.loopback.baseText 2)
    let header : Header :=
      { messageId := "a \"quote\"", sourceChannel := "line\n", transaction := "訊息" }
    deployment.settings.timeouts.requestSeconds = none ∧ service.shutdown.isTriggered = false ∧
      told (.demo header ⟨2, 3⟩) = some (.ok ⟨some header,
        some ⟨some "local", some "Total time spent: 2 seconds"⟩⟩) ∧
      ∃ document, told (.demo { header with messageId := "\t" } ⟨-1, 0⟩) =
        some (.error (.refused 400 document)) := by
  intro deployment service told header
  obtain ⟨typed, -⟩ := questions_answered Root.loopback 2 deployment {} [] rfl rfl
  have fine := typed (.demo header ⟨2, 3⟩) header ⟨2, 3⟩ rfl (by decide +kernel)
  have wrong := typed (.demo { header with messageId := "\t" } ⟨-1, 0⟩)
    { header with messageId := "\t" } ⟨-1, 0⟩ rfl (by decide +kernel)
  refine ⟨rfl, rfl, fine.2.2.2.2.1 (by decide +kernel), ?_⟩
  obtain ⟨document, -, refused, -⟩ := wrong.2.2.2.2.2.1 (by decide +kernel)
  exact ⟨document, refused⟩

end Client

end LatencyService
