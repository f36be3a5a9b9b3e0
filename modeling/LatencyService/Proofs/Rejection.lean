/-
Requests for work that are refused. Such a request has four hurdles before it,
in a fixed order, and each of them looks at a part of the request and at nothing
else: at the headers, at the length of the body, at the document in it, and at
the constraints on the document. The first one that stops the request decides
the answer. By then nothing has been done for the request, so that the service
is left as it was, but for the answer itself, its count and the log.
-/

import LatencyService.Proofs.Asking

namespace LatencyService

namespace Inbound

variable {Payload : Type} {kind : PayloadKind Payload} {inbound : Inbound Payload}

/-- An envelope is refused for its violations, if there are any. -/
theorem accept_of_violations (violated : (inbound.violations kind).isEmpty = false) :
    inbound.accept kind = .error (inbound.violations kind) := by
  unfold accept
  split
  · rw [violated]
    rfl
  · rfl

/-- An envelope without violations has both parts and is accepted. -/
theorem accept_of_no_violations (fine : (inbound.violations kind).isEmpty = true) :
    ∃ header payload, inbound = ⟨some header, some payload⟩ ∧
      inbound.accept kind = .ok ⟨header, payload⟩ := by
  obtain ⟨header, payload⟩ := inbound
  cases header with
  | none => cases fine
  | some header =>
    cases payload with
    | none =>
      rw [violations, List.isEmpty_iff, List.append_eq_nil_iff] at fine
      cases fine.2
    | some payload => exact ⟨header, payload, rfl, if_pos fine⟩

end Inbound

namespace Http

/-! ### Hurdles -/

/-- What a request for work has to pass before anything is done for it. -/
inductive Hurdle where
  /-- The body is declared as JSON. -/
  | contentType
  /-- The body is not too long. -/
  | size
  /-- The body holds an envelope of the form that is asked for. -/
  | document
  /-- The envelope meets its constraints. -/
  | constraints
  deriving DecidableEq, Repr

namespace Hurdle

/-- All hurdles, in their order. -/
def all : List Hurdle := [contentType, size, document, constraints]

/-- The statuses of the answers to requests that a hurdle stops. -/
def statuses : Hurdle → List Nat
  | contentType => [415]
  | size => [413]
  | document => [400, 422]
  | constraints => [400]

/-- The code of the problem. -/
def code : Hurdle → String
  | constraints => "validation_failed"
  | _ => "malformed_body"

variable {Payload : Type}

/-- The problem of a request that a hurdle stops, whatever the other hurdles make of it. -/
def problem? (kind : PayloadKind Payload) (request : Request) : Hurdle → Option Problem
  | contentType => if MediaType.isJson request.headers then none else some .notJson
  | size => if request.body.length > bodyLimit then some .tooLong else none
  | document =>
    match (Inbound.shape kind).ofText request.body with
    | .error fault => some (.ofFault request.body fault)
    | .ok _ => none
  | constraints =>
    match (Inbound.shape kind).ofText request.body with
    | .error _ => none
    | .ok inbound =>
      if (inbound.violations kind).isEmpty then none
      else some (.invalid ((inbound.violations kind).map Violation.message))

/-- The first hurdle that stops a request, and the problem. -/
def first? (kind : PayloadKind Payload) (request : Request) : Option (Hurdle × Problem) :=
  all.findSome? fun hurdle => (hurdle.problem? kind request).map (hurdle, ·)

/-- The first hurdle that stops a request for the work of an endpoint, with the payload that the
endpoint expects, and the problem. -/
def firstAt? (route : Route) (request : Request) : Option (Hurdle × Problem) :=
  match route with
  | .demo | .demoService => first? PayloadKind.order request
  | .camel | .relay => first? PayloadKind.free request
  | .health => none

/-- Every hurdle has its own statuses and its own code. -/
theorem of_problem? {kind : PayloadKind Payload} {request : Request} {hurdle : Hurdle}
    {problem : Problem} (stopped : hurdle.problem? kind request = some problem) :
    problem.status ∈ hurdle.statuses ∧ problem.code = hurdle.code := by
  cases hurdle with
  | contentType =>
    simp only [problem?] at stopped
    split at stopped <;> cases stopped
    exact ⟨List.mem_singleton_self _, rfl⟩
  | size =>
    simp only [problem?] at stopped
    split at stopped <;> cases stopped
    exact ⟨List.mem_singleton_self _, rfl⟩
  | document =>
    simp only [problem?] at stopped
    split at stopped <;> cases stopped
    rw [Problem.ofFault]
    split
    · exact ⟨List.mem_cons_self, rfl⟩
    · exact ⟨List.mem_cons_of_mem _ List.mem_cons_self, rfl⟩
  | constraints =>
    simp only [problem?] at stopped
    split at stopped
    · cases stopped
    · split at stopped <;> cases stopped
      exact ⟨List.mem_singleton_self _, rfl⟩

/-- The first hurdle that stops a request is one that stops it. -/
theorem problem?_of_first? {kind : PayloadKind Payload} {request : Request} {hurdle : Hurdle}
    {problem : Problem} (first : first? kind request = some (hurdle, problem)) :
    hurdle.problem? kind request = some problem := by
  obtain ⟨other, -, found⟩ := List.exists_of_findSome?_eq_some first
  obtain ⟨known, stopped, same⟩ := Option.map_eq_some_iff.1 found
  cases same
  exact stopped

theorem of_firstAt? {route : Route} {request : Request} {hurdle : Hurdle} {problem : Problem}
    (first : firstAt? route request = some (hurdle, problem)) :
    problem.status ∈ hurdle.statuses ∧ problem.code = hurdle.code := by
  cases route with
  | health => cases first
  | _ => exact of_problem? (problem?_of_first? first)

end Hurdle

/-! ### The first hurdle decides -/

section Extraction

variable {Payload : Type} {kind : PayloadKind Payload} {request : Request}

/-- A request that a hurdle stops is refused with the problem of the first one that does. -/
theorem extract_of_first? {hurdle : Hurdle} {problem : Problem}
    (first : Hurdle.first? kind request = some (hurdle, problem)) :
    extract kind request = .error problem := by
  unfold Hurdle.first? Hurdle.all at first
  simp only [List.findSome?_cons, List.findSome?_nil] at first
  unfold extract
  cases isJson : MediaType.isJson request.headers with
  | false =>
    simp only [Hurdle.problem?, isJson] at first
    cases first
    rfl
  | true =>
    by_cases long : request.body.length > bodyLimit
    · simp only [Hurdle.problem?, isJson, long] at first
      cases first
      exact if_pos long
    · cases read : (Inbound.shape kind).ofText request.body with
      | error fault =>
        simp only [Hurdle.problem?, isJson, long, read] at first
        cases first
        exact if_neg long
      | ok inbound =>
        simp only [Hurdle.problem?, isJson, long, read] at first
        cases fine : (inbound.violations kind).isEmpty with
        | true =>
          rw [fine] at first
          cases first
        | false =>
          rw [fine] at first
          cases first
          simp [Inbound.accept_of_violations fine, long]

/-- A request that no hurdle stops brings an envelope with both parts. -/
theorem extract_of_passed (passed : Hurdle.first? kind request = none) :
    ∃ header payload, (Inbound.shape kind).ofText request.body = .ok ⟨some header, some payload⟩ ∧
      extract kind request = .ok ⟨header, payload⟩ := by
  have each (hurdle : Hurdle) : hurdle.problem? kind request = none := by
    have listed : hurdle ∈ Hurdle.all := by cases hurdle <;> decide
    exact Option.map_eq_none_iff.1 (List.findSome?_eq_none_iff.1 passed hurdle listed)
  have isJson : MediaType.isJson request.headers = true := by
    have checked := each .contentType
    simpa [Hurdle.problem?] using checked
  have short : ¬request.body.length > bodyLimit := by
    have checked := each .size
    simpa [Hurdle.problem?] using checked
  have document := each .document
  have constraints := each .constraints
  simp only [Hurdle.problem?] at document constraints
  unfold extract
  rw [isJson, if_neg short]
  cases read : (Inbound.shape kind).ofText request.body with
  | error fault =>
    rw [read] at document
    cases document
  | ok inbound =>
    rw [read] at constraints
    have fine : (inbound.violations kind).isEmpty = true := by simpa using constraints
    obtain ⟨header, payload, rfl, accepts⟩ := Inbound.accept_of_no_violations fine
    exact ⟨header, payload, rfl, by simp [accepts]⟩

/-- A request that is refused is one that a hurdle stops. -/
theorem first?_of_extract {problem : Problem} (refused : extract kind request = .error problem) :
    ∃ hurdle, Hurdle.first? kind request = some (hurdle, problem) := by
  cases first : Hurdle.first? kind request with
  | none =>
    obtain ⟨header, payload, -, accepts⟩ := extract_of_passed first
    cases accepts.symm.trans refused
  | some stopped =>
    obtain ⟨hurdle, other⟩ := stopped
    cases (extract_of_first? first).symm.trans refused
    exact ⟨hurdle, rfl⟩

/-- A request that is refused is refused for what the client has done. -/
theorem Problem.client_of_extract {problem : Problem}
    (refused : extract kind request = .error problem) :
    400 ≤ problem.status ∧ problem.status < 500 := by
  obtain ⟨hurdle, first⟩ := first?_of_extract refused
  have known := (Hurdle.of_problem? (Hurdle.problem?_of_first? first)).1
  cases hurdle <;> simp [Hurdle.statuses] at known <;> omega

end Extraction

namespace Dispatch

/-- What an endpoint does for a request that no hurdle stops, with the envelope in the body. -/
inductive Works (body : Octets) : Route → Dispatch → Prop where
  | demo {header : Header} {order : Order}
      (brought : (Inbound.shape PayloadKind.order).ofText body = .ok ⟨some header, some order⟩) :
      Works body .demo (.demo header order)
  | demoService {header : Header} {order : Order}
      (brought : (Inbound.shape PayloadKind.order).ofText body = .ok ⟨some header, some order⟩) :
      Works body .demoService (.demoService order)
  | camel {header : Header} {payload : Tree}
      (brought : (Inbound.shape PayloadKind.free).ofText body = .ok ⟨some header, some payload⟩) :
      Works body .camel
        (.answered .camel (.json 200 (Reply.headerOnly header).render)
          [.routingStub header.messageId])
  | relay {header : Header} {payload : Tree}
      (brought : (Inbound.shape PayloadKind.free).ofText body = .ok ⟨some header, some payload⟩) :
      Works body .relay (.relay header)

variable {route : Route} {request : Request}

/-- What a request to work asks for is asked of the endpoint at its path. -/
theorem ofRequest_of_post (posted : request.method = "POST") (found : request.path = route.path)
    (work : route ≠ .health) : ofRequest request = ofRoute route request := by
  have allowed : route.methods.contains request.method = true := by
    rw [posted]
    cases route with
    | health => exact absurd rfl work
    | _ => decide
  simp only [ofRequest, Route.ofPath?_eq_some_iff.2 found, allowed, if_true]

theorem ofRoute_of_firstAt? {hurdle : Hurdle} {problem : Problem}
    (first : Hurdle.firstAt? route request = some (hurdle, problem)) :
    ofRoute route request = refused route problem := by
  cases route with
  | health => cases first
  | _ => simp only [ofRoute, extract_of_first? first]

theorem works_of_firstAt? (passed : Hurdle.firstAt? route request = none)
    (work : route ≠ .health) : Works request.body route (ofRoute route request) := by
  cases route with
  | health => exact absurd rfl work
  | demo =>
    obtain ⟨header, order, brought, accepts⟩ := extract_of_passed passed
    simp only [ofRoute, accepts]
    exact .demo brought
  | demoService =>
    obtain ⟨header, order, brought, accepts⟩ := extract_of_passed passed
    simp only [ofRoute, accepts]
    exact .demoService brought
  | camel =>
    obtain ⟨header, payload, brought, accepts⟩ := extract_of_passed passed
    simp only [ofRoute, accepts]
    exact .camel brought
  | relay =>
    obtain ⟨header, payload, brought, accepts⟩ := extract_of_passed passed
    simp only [ofRoute, accepts]
    exact .relay brought

end Dispatch

end Http

namespace Service

variable {deployment : Deployment} {service : Service} {request : Http.Request}
  {route : Http.Route} {problem : Http.Problem}

/-! ### What a refused request leaves behind -/

/-- The service when a request has been refused: the answer has been given and counted, and the
request and the problem are in the log. -/
def afterRefusal (deployment : Deployment) (service : Service) (request : Http.Request)
    (route : Http.Route) (problem : Http.Problem) : Service :=
  let (identifier, shown) := identify deployment service.begun request
  { service with
    begun := service.begun + 1
    metrics := service.metrics.recordRequest route problem.status
    journal := .event problem.event :: .span request.method request.path shown :: service.journal
    ended := ⟨service.begun, service.now,
      .answered (sealResponse false identifier problem.response)⟩ :: service.ended }

/-- There is time left for a request, unless the configured time is none at all. -/
theorem deadlineOf_of_patient (patient : deployment.settings.timeouts.requestSeconds ≠ some 0) :
    service.deadlineOf deployment ≠ some service.now := by
  intro spent
  obtain ⟨seconds, configured, same⟩ := Option.map_eq_some_iff.1 spent
  have positive := positive_of_limit patient seconds configured
  omega

theorem deadlineOf_of_impatient
    (impatient : deployment.settings.timeouts.requestSeconds = some 0) :
    service.deadlineOf deployment = some service.now := deadlineOf_eq impatient

/-- What the service asks of the deadline when a request comes. -/
theorem deadline_left (patient : deployment.settings.timeouts.requestSeconds ≠ some 0) :
    ((deployment.settings.timeouts.requestSeconds.map fun seconds =>
      service.now + 1000 * seconds.toNat) == some service.now) = false :=
  beq_eq_false_iff_ne.2 (deadlineOf_of_patient patient)

theorem deadline_spent (impatient : deployment.settings.timeouts.requestSeconds = some 0) :
    ((deployment.settings.timeouts.requestSeconds.map fun seconds =>
      service.now + 1000 * seconds.toNat) == some service.now) = true :=
  beq_iff_eq.2 (deadlineOf_of_impatient impatient)

/-- A request that is refused is answered on the spot. -/
theorem begin_of_refused (patient : deployment.settings.timeouts.requestSeconds ≠ some 0)
    (posted : request.method = "POST")
    (refused : Http.Dispatch.ofRequest request = .refused route problem) :
    service.begin deployment (.request request) =
      service.afterRefusal deployment request route problem := by
  have whole : (request.method == "HEAD") = false := by
    rw [posted]
    decide
  unfold Service.begin admitRequest beginRequest afterRefusal
  simp only [enroll, deadline_left patient, refused, whole, Http.Dispatch.refused]
  rfl

/-- No time passes for a task that has ended. -/
theorem waitFor_of_not_live {serial : Nat} (ended : service.isLive serial = false)
    (last : Option Nat) : service.waitFor deployment serial last = service := by
  unfold waitFor passTime
  rw [ended]
  rfl

/-- The next number is not that of a task. -/
theorem Sound.isLive_begun {held : Nat} (sound : service.Sound held) :
    service.isLive service.begun = false :=
  isLive_eq_false_iff.2 (sound.task?_unborn (Nat.le_refl _))

/-- Whoever waits for the answer to a request that is refused gets it at once. -/
theorem Sound.serve_of_refused {held : Nat} (sound : service.Sound held)
    (patient : deployment.settings.timeouts.requestSeconds ≠ some 0)
    (posted : request.method = "POST")
    (refused : Http.Dispatch.ofRequest request = .refused route problem) :
    service.serve deployment request =
      (some (sealResponse false (identify deployment service.begun request).1 problem.response),
        ({ service with ended := [] } : Service).afterRefusal deployment request route
          problem) := by
  let after := ({ service with ended := [] } : Service).afterRefusal deployment request route problem
  have asked : service.asked deployment request = after := begin_of_refused patient posted refused
  have ended : after.isLive service.begun = false := sound.isLive_begun
  have served : service.served deployment request = after := by
    rw [Service.served, asked, waitFor_of_not_live ended]
  rw [serve_eq, served]
  rfl

/-- A service that has served requests one after the other is sound and at rest. -/
theorem rests_after (deployment : Deployment) (backend : Backend)
    (earlier : List (Bool × Http.Request)) :
    ∃ held, (((start deployment backend).serveAll deployment earlier).2).Sound held ∧
      (((start deployment backend).serveAll deployment earlier).2).Prompt ∧
      (((start deployment backend).serveAll deployment earlier).2).Rests := by
  have initial := Scene.sound_start deployment backend
  have atRest : (start deployment backend).Rests := fun _ member => nomatch member
  exact ⟨_, initial.service.rests_serveAll initial.prompt atRest deployment earlier⟩

end Service

/-! ### Refusals come in order and change nothing -/

/-- A request for work meets the hurdles in their order, and the first one that stops it decides the
answer by itself: each hurdle has its own statuses and its own code. A request that none stops brings
an envelope with both parts, and the endpoint sets to work on it. Whatever the service is doing, a
request that is stopped is answered on the spot and leaves all but the answer, its count and the log
as it was: the network and what arrived there, the counts of relayed calls, the shutdown and its
receivers, the clock, and every other task. In a run the step differs from one in which nothing is
done by no more than that, and whoever waits for the answer gets it whether or not the shutdown has
been triggered. -/
theorem refused_in_order (deployment : Deployment) (request : Http.Request)
    (route : Http.Route) :
    deployment.settings.timeouts.requestSeconds ≠ some 0 → request.method = "POST" →
    request.path = route.path → route ≠ .health →
    match Http.Hurdle.firstAt? route request with
    | none => Http.Dispatch.Works request.body route (Http.Dispatch.ofRequest request)
    | some (hurdle, problem) =>
      let answerOf := fun (service : Service) =>
        Service.sealResponse false (Service.identify deployment service.begun request).1
          problem.response
      problem.status ∈ hurdle.statuses ∧ problem.code = hurdle.code ∧
      (∀ service : Service,
        service.begin deployment (.request request) =
          { service with
            begun := service.begun + 1
            metrics := service.metrics.recordRequest route problem.status
            journal :=
              [.event problem.event, .span request.method request.path
                (Service.identify deployment service.begun request).2] ++ service.journal
            ended := ⟨service.begun, service.now, .answered (answerOf service)⟩ :: service.ended }) ∧
      (∀ (scene : Scene) (name : String),
        let looked := scene.step deployment .look
        let asked := scene.step deployment (.request name request)
        asked.2.service = looked.2.service.afterRefusal deployment request route problem ∧
          asked.2.receivers = looked.2.receivers ∧ asked.1.verdict = looked.1.verdict ∧
          asked.1.isTriggered = looked.1.isTriggered ∧
          asked.1.receiverCount = looked.1.receiverCount ∧ asked.1.now = looked.1.now) ∧
      ∀ backend earlier,
        let service := ((Service.start deployment backend).serveAll deployment earlier).2
        service.serve deployment request =
            (some (answerOf service),
              ({ service with ended := [] } : Service).afterRefusal deployment request route
                problem) ∧
          service.trigger.serve deployment request =
            (some (answerOf service),
              ({ service.trigger with ended := [] } : Service).afterRefusal deployment request route
                problem) := by
  intro patient posted found work
  have dispatched := Http.Dispatch.ofRequest_of_post posted found work
  split
  · rename_i passed
    rw [dispatched]
    exact Http.Dispatch.works_of_firstAt? passed work
  · rename_i hurdle problem first
    have refused : Http.Dispatch.ofRequest request = .refused route problem :=
      dispatched.trans (Http.Dispatch.ofRoute_of_firstAt? first)
    obtain ⟨status, code⟩ := Http.Hurdle.of_firstAt? first
    refine ⟨status, code, fun service => Service.begin_of_refused patient posted refused,
      fun scene name => ?_, fun backend earlier => ?_⟩
    · have after : (scene.step deployment (.request name request)).2.service =
          (scene.step deployment .look).2.service.afterRefusal deployment request route problem :=
        Service.begin_of_refused patient posted refused
      have kept {Part : Type} (part : Service → Part)
          (same : ∀ service : Service, part (service.afterRefusal deployment request route problem) =
            part service) :
          part (scene.step deployment (.request name request)).2.service =
            part (scene.step deployment .look).2.service := by
        rw [after, same]
      exact ⟨after, rfl, rfl, kept (fun service => service.shutdown.isTriggered) fun _ => rfl,
        kept (fun service => service.shutdown.receiverCount) fun _ => rfl,
        kept Service.now fun _ => rfl⟩
    · obtain ⟨held, sound, prompt, rests⟩ := Service.rests_after deployment backend earlier
      have triggered := (sound.readied prompt deployment true).1
      have begun : Service.begun (Service.trigger
          ((Service.start deployment backend).serveAll deployment earlier).2) =
            ((Service.start deployment backend).serveAll deployment earlier).2.begun := by
        rw [rests.trigger]
      refine ⟨sound.serve_of_refused patient posted refused, ?_⟩
      refine (triggered.serve_of_refused patient posted refused).trans (Prod.ext ?_ rfl)
      exact congrArg (fun serial => some (Service.sealResponse false
        (Service.identify deployment serial request).1 problem.response)) begun

/-- A relayed call whose body is declared as plain text and is no JSON, either, is refused for its
type, by a service that has been told to shut down just as by one that has not. -/
theorem refused_in_order_as_plain_text :
    let deployment : Deployment :=
      ⟨{ timeouts := { requestSeconds := some 1 } }, fun _ => "identifier"⟩
    let service := Service.start deployment {}
    let request : Http.Request :=
      { target := "/httpclient", headers := [("Content-Type", Octets.ofText "text/plain")]
        body := Octets.ofText "text" }
    let answer := Service.sealResponse false (Octets.ofText "identifier")
      Http.Problem.notJson.response
    deployment.settings.timeouts.requestSeconds ≠ some 0 ∧ request.method = "POST" ∧
      request.path = Http.Route.relay.path ∧ Http.Route.relay ≠ .health ∧
      (∃ problem, Http.Hurdle.problem? PayloadKind.free request .document = some problem) ∧
      (service.serve deployment request).1 = some answer ∧
      (service.trigger.serve deployment request).1 = some answer ∧
      (service.trigger.serve deployment request).2.backend = service.backend ∧ answer.status = 415 := by
  intro deployment service request answer
  have first : Http.Hurdle.firstAt? .relay request =
      some (.contentType, Http.Problem.notJson) := by decide +kernel
  have refused := refused_in_order deployment request .relay (by decide) rfl
    (by decide +kernel) (by decide)
  rw [first] at refused
  obtain ⟨-, -, -, -, served⟩ := refused
  obtain ⟨calm, triggered⟩ := served {} []
  refine ⟨by decide, rfl, by decide +kernel, by decide, ⟨_, rfl⟩, congrArg Prod.fst calm,
    congrArg Prod.fst triggered, ?_, rfl⟩
  exact congrArg (fun served => served.2.backend) triggered

end LatencyService
