/-
What the shutdown changes for the requests that come after it. The delayed
operations are the only ones that look at it: where one is asked for, the answer
is there at once, however long the delay would have been. To every other request
the shutdown makes no difference: what it is born as, and so its answer, can be
told from the request, the clock and the network.
-/

import LatencyService.Proofs.Replies
import LatencyService.Proofs.Timeout

namespace LatencyService

/-! ### Requests for delayed operations -/

/-- The request asks an endpoint for a delayed operation, with an envelope that is accepted. -/
def Http.Request.Delays (request : Http.Request) (route : Http.Route) : Prop :=
  request.method = "POST" ∧ request.path = route.path ∧
    ∃ accepted, Http.extract PayloadKind.order request = .ok accepted

namespace Http.Dispatch

variable {request : Request} {route : Route}

theorem ofRequest_of_path (found : request.path = route.path) :
    ofRequest request =
      if route.methods.contains request.method then ofRoute route request
      else .answered route (wrongMethod route) [] := by
  rw [ofRequest, Route.ofPath?_eq_some_iff.2 found]

/-- Whoever is not answered at once by an endpoint for delays has asked for one. -/
theorem delays_of_working (route_asked : (ofRequest request).route? = some route)
    (delaying : route = .demo ∨ route = .demoService)
    (working : (ofRequest request).response? = none) : request.Delays route := by
  have found : request.path = route.path :=
    Route.ofPath?_eq_some_iff.1 ((route?_ofRequest request).symm.trans route_asked)
  have posts : route.methods = ["POST"] := by
    rcases delaying with rfl | rfl <;> rfl
  rw [ofRequest_of_path found] at working
  split at working
  · rename_i allowed
    rw [posts] at allowed
    refine ⟨by simpa using allowed, found, ?_⟩
    cases extracted : extract PayloadKind.order request with
    | ok accepted => exact ⟨accepted, rfl⟩
    | error problem =>
      rcases delaying with rfl | rfl
      · rw [ofRoute, extracted] at working
        cases working
      · rw [ofRoute, extracted] at working
        cases working
  · cases working

/-- An operation whose result is the answer is begun for just the accepted requests to its
endpoint. -/
theorem delays_demo_iff :
    request.Delays .demo ↔ ∃ header order, ofRequest request = .demo header order := by
  constructor
  · rintro ⟨posted, found, accepted, extracted⟩
    refine ⟨accepted.header, accepted.payload, ?_⟩
    rw [ofRequest_of_post posted found (by decide), ofRoute, extracted]
  · rintro ⟨header, order, asks⟩
    exact delays_of_working (by rw [asks]; rfl) (.inl rfl) (by rw [asks]; rfl)

theorem delays_demoService_iff :
    request.Delays .demoService ↔ ∃ order, ofRequest request = .demoService order := by
  constructor
  · rintro ⟨posted, found, accepted, extracted⟩
    refine ⟨accepted.payload, ?_⟩
    rw [ofRequest_of_post posted found (by decide), ofRoute, extracted]
  · rintro ⟨order, asks⟩
    exact delays_of_working (by rw [asks]; rfl) (.inr rfl) (by rw [asks]; rfl)

end Http.Dispatch

namespace Service

variable {deployment : Deployment} {service : Service} {request : Http.Request} {held : Nat}

/-! ### What is born behind the shutdown -/

/-- A request with time left is born as what it asks for. -/
theorem birth_of_patient (patient : deployment.settings.timeouts.requestSeconds ≠ some 0)
    (request : Http.Request) :
    service.birth deployment (.request request) = service.orderBirth deployment request :=
  if_neg (deadlineOf_of_patient patient)

/-- A delayed operation is over at once when the shutdown has been triggered. -/
theorem birth_of_triggered (patient : deployment.settings.timeouts.requestSeconds ≠ some 0)
    (triggered : service.shutdown.isTriggered = true) {purpose : Purpose}
    (employs : service.Employs deployment request purpose) (sleeps : purpose.sleeps = true) :
    service.birth deployment (.request request) = .atOnce purpose.abortion := by
  rw [birth_of_patient patient, orderBirth]
  rcases employs.cases with ⟨header, order, asks, rfl⟩ | ⟨order, asks, rfl⟩ | ⟨header, asks, rfl⟩
  · rw [asks]
    exact if_pos triggered
  · rw [asks]
    exact if_pos triggered
  · cases sleeps

/-- What a delayed operation is answered behind the shutdown. -/
theorem birth_of_delays (request : Http.Request)
    (patient : deployment.settings.timeouts.requestSeconds ≠ some 0)
    (triggered : service.shutdown.isTriggered = true) :
    (request.Delays .demo → service.birth deployment (.request request) =
        .atOnce ((service.exchangeOf deployment request .demo).answer
          (.json 503 Http.Problem.aborted.document))) ∧
      (request.Delays .demoService → service.birth deployment (.request request) =
        .atOnce ((service.exchangeOf deployment request .demo).answer
          (.json 200 "\x7b\x7d"))) := by
  refine ⟨fun delays => ?_, fun delays => ?_⟩
  · obtain ⟨header, order, asks⟩ := Http.Dispatch.delays_demo_iff.1 delays
    exact birth_of_triggered patient triggered (employs_of_demo asks) rfl
  · obtain ⟨order, asks⟩ := Http.Dispatch.delays_demoService_iff.1 delays
    have empty : Reply.empty.render = "\x7b\x7d" := by decide
    have born := birth_of_triggered patient triggered (employs_of_demoService asks) rfl
    rw [Purpose.abortion, empty] at born
    exact born

/-- Whoever asks for what is over at once is not kept waiting. -/
theorem Sound.serve_of_atOnce (sound : service.Sound held) (prompt : service.Prompt)
    {response : Http.Response}
    (born : service.birth deployment (.request request) = .atOnce (.answered response)) :
    (service.serve deployment request).1 = some response ∧
      (service.serve deployment request).2.now = service.now := by
  have begun := sound.begun_asked prompt deployment request
  have same : ({ service with ended := [] } : Service).birth deployment (.request request) =
      .atOnce (.answered response) := by
    rw [← born]
    refine birth_congr ?_ ?_ ?_ ?_ ?_ _ <;> rfl
  have gone := begun.task?
  have told := begun.endingsOf
  rw [same] at gone told
  have served : service.served deployment request = service.asked deployment request :=
    waitFor_of_not_live (isLive_eq_false_iff.2 gone) none
  have ended : (service.asked deployment request).ended =
      [⟨service.begun, service.now, .answered response⟩] :=
    (ended_eq_endingsOf fun other different => begun.endingsOf_other other different).trans told
  rw [serve_eq, served, ended]
  exact ⟨rfl, begun.now⟩

/-! ### Responses that the shutdown leaves alone -/

/-- The response to a request that asks for no delay and comes at a time, if one ever comes: it is
ready at once, or it is that to a relayed call, which may be given up. -/
def steadyResponse? (settings : Settings) (backend : Backend) (now : Nat) :
    Http.Dispatch → Option Http.Response
  | .unmatched response | .answered _ response _ => some response
  | .relay header =>
    match (Relay.run settings.outbound backend).1 with
    | .relayed relayed => some (.json 200 (Reply.full header (.ofData relayed.body)).render)
    | .failed failure => some (Relay.problemOf settings.outbound failure).response
    | .pending url =>
      let after := fun (seconds : UInt64) => now + 1000 * seconds.toNat
      let deadline := settings.timeouts.requestSeconds.map after
      (earlier? (settings.outbound.timeoutSeconds.map after) deadline).map fun due =>
        if deadline.any (· ≤ max now due) then timedOut
        else (Relay.problemOf settings.outbound (.unanswered url)).response
  | _ => none

/-- A relayed call is waited for until it is given up, or the request is. -/
theorem outcome_relayBirth_of_deadline (deployment : Deployment) (service : Service)
    {header : Header} (asks : Http.Dispatch.ofRequest request = .relay header) :
    responseOf ((service.relayBirth deployment (service.exchangeOf deployment request .relay)
        header).outcome deployment service.begun service.now) =
      service.sealed deployment request
        (steadyResponse? deployment.settings service.backend service.now
          (Http.Dispatch.ofRequest request)) := by
  rw [relayBirth, asks, steadyResponse?]
  dsimp only
  cases (Relay.run deployment.settings.outbound service.backend).1 with
  | relayed relayed => rfl
  | failed failure => rfl
  | pending url =>
    let giveUp := deployment.settings.outbound.timeoutSeconds.map fun seconds =>
      service.now + 1000 * seconds.toNat
    let exchange := service.exchangeOf deployment request .relay
    let task : Task :=
      { serial := service.begun, purpose := .relay exchange header, started := service.now
        stage := .relaying url giveUp }
    have due : task.due? = earlier? giveUp (service.deadlineOf deployment) := rfl
    have attended (moment : Nat) : task.attendFate deployment moment =
        .ends (some (exchange.answer
          (if (service.deadlineOf deployment).any (· ≤ moment) then timedOut
            else (Relay.problemOf deployment.settings.outbound (.unanswered url)).response))) := by
      show (if (service.deadlineOf deployment).any (· ≤ moment) then Fate.ends _ else .ends _) = _
      split <;> rfl
    show responseOf ((Birth.begins task).outcome deployment service.begun service.now) = _
    rw [Birth.outcome, due]
    dsimp only
    rw [← deadlineOf]
    show _ = service.sealed deployment request
      ((earlier? giveUp (service.deadlineOf deployment)).map _)
    cases earlier? giveUp (service.deadlineOf deployment) with
    | none => rfl
    | some time =>
      rw [Option.elim_some, Option.map_some, Task.conclusion, attended]
      rfl

/-- The response to a request that asks for no delay does not depend on the shutdown. -/
theorem Sound.serve_steady (sound : service.Sound held) (prompt : service.Prompt)
    (rests : service.Rests) (patient : deployment.settings.timeouts.requestSeconds ≠ some 0)
    (undelayed : ¬request.Delays .demo) (unserved : ¬request.Delays .demoService) :
    (service.serve deployment request).1 = service.sealed deployment request
      (steadyResponse? deployment.settings service.backend service.now
        (Http.Dispatch.ofRequest request)) := by
  rw [serve_eq, (sound.serve prompt rests deployment request).ended, birth_of_patient patient,
    orderBirth]
  cases asks : Http.Dispatch.ofRequest request with
  | unmatched response => rfl
  | answered route response events => rfl
  | demo header order => exact absurd (Http.Dispatch.delays_demo_iff.2 ⟨header, order, asks⟩) undelayed
  | demoService order =>
    exact absurd (Http.Dispatch.delays_demoService_iff.2 ⟨order, asks⟩) unserved
  | relay header =>
    have told := outcome_relayBirth_of_deadline deployment service asks
    rw [asks] at told
    dsimp only
    exact told

/-- A request that asks for no delay is born as the same behind the shutdown as before it. -/
theorem birth_of_undelayed {first second : Service} (now : first.now = second.now)
    (begun : first.begun = second.begun) (backend : first.backend = second.backend)
    (undelayed : ¬request.Delays .demo) (unserved : ¬request.Delays .demoService) :
    first.birth deployment (.request request) = second.birth deployment (.request request) := by
  have deadline : first.deadlineOf deployment = second.deadlineOf deployment := by
    rw [deadlineOf, deadlineOf, now]
  have exchange (route : Http.Route) : first.exchangeOf deployment request route =
      second.exchangeOf deployment request route := by
    rw [exchangeOf, exchangeOf, deadline, begun]
  show first.requestBirth deployment request = second.requestBirth deployment request
  rw [requestBirth, requestBirth, deadline, now, exchange, orderBirth, orderBirth]
  cases asks : Http.Dispatch.ofRequest request with
  | unmatched response =>
    dsimp only
    rw [exchange]
  | answered route response events =>
    dsimp only
    rw [exchange]
  | demo header order => exact absurd (Http.Dispatch.delays_demo_iff.2 ⟨header, order, asks⟩) undelayed
  | demoService order =>
    exact absurd (Http.Dispatch.delays_demoService_iff.2 ⟨order, asks⟩) unserved
  | relay header =>
    dsimp only
    rw [exchange, relayBirth, relayBirth, backend, now, begun]

/-! ### Delays that the shutdown does not reach -/

/-- A task that sleeps and is attended to ends with the answer of the timeout, or else with that of
its work. -/
theorem conclusion_asleep {task : Task} {wake now : Nat} {receiver : Receiver}
    {exchange : Exchange} {ending : Ending} (asleep : task.stage = .asleep wake receiver)
    (asks : task.purpose.exchange? = some exchange)
    (success : task.purpose.success? (reportOf deployment.settings.operation
      (now - task.started)) = some ending) :
    task.conclusion deployment now =
      [⟨task.serial, now,
        if task.isLateAt now then exchange.answer timedOut else ending⟩] := by
  cases late : task.isLateAt now with
  | true =>
    rw [Task.conclusion, Task.attendFate, asks, late]
    rfl
  | false => exact Task.conclusion_of_timely asleep late success

/-- An operation that the shutdown does not reach is completed, or given up by the timeout. -/
theorem Sound.serve_open (sound : service.Sound held) (prompt : service.Prompt)
    (rests : service.Rests) (patient : deployment.settings.timeouts.requestSeconds ≠ some 0)
    (isOpen : service.shutdown.isTriggered = false) {header : Header} {order : Order}
    (asks : Http.Dispatch.ofRequest request = .demo header order) :
    ∃ response, (service.serve deployment request).1 =
        service.sealed deployment request (some response) ∧
      (response = timedOut ∨ ∃ elapsed, response =
        .json 200 (Reply.full header (reportOf deployment.settings.operation elapsed)).render) := by
  let exchange := service.exchangeOf deployment request .demo
  let wake := service.now + 1000 * (atLeastZero order.delay).toNat
  let task : Task :=
    { serial := service.begun, purpose := .demo exchange header
      delaySeconds := atLeastZero order.delay, rounds := atLeastZero order.rounds
      started := service.now, stage := .asleep wake service.shutdown.subscribe.1 }
  have born : service.birth deployment (.request request) = .begins task := by
    rw [birth_of_patient patient, orderBirth, asks]
    dsimp only
    rw [sleepBirth, isOpen, if_neg Bool.false_ne_true]
  obtain ⟨due, there⟩ : ∃ due, task.due? = some due := by
    show ∃ due, earlier? (some wake) task.deadline? = some due
    cases task.deadline? with
    | none => exact ⟨wake, rfl⟩
    | some deadline => exact ⟨min wake deadline, rfl⟩
  rw [serve_eq, (sound.serve prompt rests deployment request).ended, born, Birth.outcome, there,
    Option.elim_some, conclusion_asleep rfl rfl rfl]
  split
  · exact ⟨timedOut, rfl, .inl rfl⟩
  · exact ⟨_, rfl, .inr ⟨_, rfl⟩⟩

/-- A service at rest that is triggered is the same but for the shutdown. -/
theorem Rests.exists_trigger (rests : service.Rests) :
    ∃ shutdown : Shutdown, shutdown.isTriggered = true ∧
      service.trigger = { service with shutdown } :=
  ⟨_, rfl, rests.trigger⟩

/-- A service at rest is asked before and behind the shutdown. -/
theorem Sound.serve_beside_trigger (sound : service.Sound held) (prompt : service.Prompt)
    (rests : service.Rests) (patient : deployment.settings.timeouts.requestSeconds ≠ some 0)
    (others : Nat → String) (request : Http.Request) :
    let renamed : Deployment := { deployment with identifiers := others }
    let before := service.serve deployment request
    let after := service.trigger.serve renamed request
    (request.Delays .demo →
      after.1 = service.sealed renamed request (some (.json 503 Http.Problem.aborted.document)) ∧
        after.2.now = service.now ∧
        (service.shutdown.isTriggered = false → ∃ response,
          before.1 = service.sealed deployment request (some response) ∧
            response.status ∈ [200, 408])) ∧
    (request.Delays .demoService →
      after.1 = service.sealed renamed request (some (.json 200 "\x7b\x7d")) ∧
        after.2.now = service.now) ∧
    (¬request.Delays .demo → ¬request.Delays .demoService → ∃ response?,
      before.1 = service.sealed deployment request response? ∧
        after.1 = service.sealed renamed request response?) := by
  intro renamed before after
  have ready := sound.readied prompt deployment true
  obtain ⟨shutdown, flag, triggered⟩ := rests.exists_trigger
  rw [Service.readied, if_pos rfl, triggered] at ready
  subst after
  rw [triggered]
  have calm : ({ service with shutdown } : Service).Rests := rests
  have unhurried : renamed.settings.timeouts.requestSeconds ≠ some 0 := patient
  have closed : ({ service with shutdown } : Service).shutdown.isTriggered = true := flag
  have delays := birth_of_delays request unhurried closed
  refine ⟨fun asks => ?_, fun asks => ?_, fun undelayed unserved => ?_⟩
  · have served := ready.1.serve_of_atOnce ready.2 (delays.1 asks)
    obtain ⟨header, order, dispatched⟩ := Http.Dispatch.delays_demo_iff.1 asks
    refine ⟨served.1, served.2, fun isOpen => ?_⟩
    obtain ⟨response, given, late | ⟨elapsed, complete⟩⟩ :=
      sound.serve_open prompt rests patient isOpen dispatched
    · exact ⟨response, given, by rw [late]; decide⟩
    · exact ⟨response, given, by rw [complete]; exact List.mem_cons_self⟩
  · exact ready.1.serve_of_atOnce ready.2 (delays.2 asks)
  · exact ⟨_, sound.serve_steady prompt rests patient undelayed unserved,
      ready.1.serve_steady ready.2 calm patient undelayed unserved⟩

end Service

namespace Scene

variable {deployment : Deployment} {scene : Scene}

/-- The shutdown is triggered, and nothing else of what a request is born from changes. -/
theorem Sound.step_trigger (sound : scene.Sound) (deployment : Deployment) :
    let closed := (scene.step deployment .trigger).2.service
    closed.shutdown.isTriggered = true ∧ closed.now = scene.service.now ∧
      closed.begun = scene.service.begun ∧ closed.backend = scene.service.backend := by
  intro closed
  have undergone : closed = scene.quiet.service.undergo deployment [.settle, .trigger] := rfl
  refine ⟨(sound.isTriggered_step .trigger).2 (.inr rfl), sound.now_step deployment .trigger,
    sound.begun_step deployment .trigger, ?_⟩
  rw [undergone, sound.quiet.service.backend_undergo]
  rfl

/-- A request is begun before and behind the shutdown. -/
theorem Sound.record_beside_trigger (sound : scene.Sound)
    (patient : deployment.settings.timeouts.requestSeconds ≠ some 0) (name : String)
    (request : Http.Request) :
    let closed := (scene.step deployment .trigger).2
    let serial := scene.service.begun
    let action := Action.request name request
    let answered := fun response => [(⟨serial, scene.service.now,
      (scene.service.exchangeOf deployment request .demo).answer response⟩ : Completion)]
    (request.Delays .demo → ∀ later,
      closed.record deployment (action :: later) serial =
        answered (.json 503 Http.Problem.aborted.document)) ∧
    (request.Delays .demoService → ∀ later,
      closed.record deployment (action :: later) serial = answered (.json 200 "\x7b\x7d")) ∧
    (¬request.Delays .demo → ¬request.Delays .demoService → ∀ later behind,
      scene.timeline deployment action later = closed.timeline deployment action behind →
        scene.record deployment (action :: later) serial =
          closed.record deployment (action :: behind) serial) := by
  intro closed serial action answered
  have ready : closed.Sound := sound.step deployment .trigger
  obtain ⟨flag, now, begun, backend⟩ := sound.step_trigger deployment
  have starts : action.start? = some (name, .request request) := rfl
  have exchange (route : Http.Route) : closed.service.exchangeOf deployment request route =
      scene.service.exchangeOf deployment request route := by
    have clock : closed.service.now = scene.service.now := now
    have next : closed.service.begun = scene.service.begun := begun
    rw [Service.exchangeOf, Service.exchangeOf, Service.deadlineOf, Service.deadlineOf, clock, next]
  have delays := Service.birth_of_delays request patient flag
  rw [exchange] at delays
  refine ⟨fun asks later => ?_, fun asks later => ?_, fun undelayed unserved later behind same => ?_⟩
  · have told := (ready.ends_at_once deployment starts (delays.1 asks) later).1
    rw [begun, now] at told
    exact told
  · have told := (ready.ends_at_once deployment starts (delays.2 asks) later).1
    rw [begun, now] at told
    exact told
  · have births : closed.service.birth deployment (.request request) =
        scene.service.birth deployment (.request request) :=
      Service.birth_of_undelayed now begun backend undelayed unserved
    cases born : scene.service.birth deployment (.request request) with
    | atOnce ending =>
      have first := (sound.ends_at_once deployment starts born later).1
      have second := (ready.ends_at_once deployment starts (births.trans born) behind).1
      rw [begun, now] at second
      exact first.trans second.symm
    | begins task =>
      have first := (sound.begins deployment starts born later).1
      have second := (ready.begins deployment starts (births.trans born) behind).1
      rw [begun, now, ← same] at second
      exact first.trans second.symm

end Scene

/-! ### The shutdown changes delayed operations and nothing else -/

/-- A service is asked something before the shutdown is triggered, or the same behind it, where only
the identifiers that it gives out may differ. Behind the shutdown a delayed operation is answered
without any time passing, whatever delay and busy loop it asks for: as aborted where its result is
the answer, which it never is before the shutdown, and with the empty reply where nobody sees the
result. Any other request gets the same response, up to its identifier, or none in both cases. The
same holds while other tasks are under way: behind the shutdown a delayed operation ends in the step
in which it is asked for, and of any other request the same is told as long as the same happens. -/
theorem shutdown_changes_delays (deployment : Deployment) (others : Nat → String)
    (backend : Backend) (request : Http.Request) :
    deployment.settings.timeouts.requestSeconds ≠ some 0 →
    (∀ earlier,
      let service := ((Service.start deployment backend).serveAll deployment earlier).2
      let renamed : Deployment := { deployment with identifiers := others }
      let before := service.serve deployment request
      let after := service.trigger.serve renamed request
      (request.Delays .demo →
        after.1 = service.sealed renamed request (some (.json 503 Http.Problem.aborted.document)) ∧
          after.2.now = service.now ∧
          (service.shutdown.isTriggered = false → ∃ response,
            before.1 = service.sealed deployment request (some response) ∧
              response.status ∈ [200, 408])) ∧
      (request.Delays .demoService →
        after.1 = service.sealed renamed request (some (.json 200 "\x7b\x7d")) ∧
          after.2.now = service.now) ∧
      (¬request.Delays .demo → ¬request.Delays .demoService → ∃ response?,
        before.1 = service.sealed deployment request response? ∧
          after.1 = service.sealed renamed request response?)) ∧
    ∀ actions name,
      let scene := (Scene.start deployment backend).after deployment actions
      let closed := scene.after deployment [.trigger]
      let serial := scene.service.begun
      let action := Action.request name request
      let answered := fun response => [(⟨serial, scene.service.now,
        (scene.service.exchangeOf deployment request .demo).answer response⟩ : Completion)]
      (request.Delays .demo → ∀ later,
        closed.record deployment (action :: later) serial =
          answered (.json 503 Http.Problem.aborted.document)) ∧
      (request.Delays .demoService → ∀ later,
        closed.record deployment (action :: later) serial = answered (.json 200 "\x7b\x7d")) ∧
      (¬request.Delays .demo → ¬request.Delays .demoService → ∀ later behind,
        scene.timeline deployment action later = closed.timeline deployment action behind →
          scene.record deployment (action :: later) serial =
            closed.record deployment (action :: behind) serial) := by
  intro patient
  refine ⟨fun earlier => ?_, fun actions name => ?_⟩
  · obtain ⟨held, sound, prompt, rests⟩ := Service.rests_after deployment backend earlier
    exact sound.serve_beside_trigger prompt rests patient others request
  · exact ((Scene.sound_start deployment backend).after deployment actions).record_beside_trigger
      patient name request

/-- A long delay is aborted behind the shutdown where the timeout would have cut it before, and the
question about health is answered alike. -/
theorem shutdown_changes_delays_cut_by_timeout :
    let deployment : Deployment :=
      ⟨{ timeouts := { requestSeconds := some 1 } }, fun _ => "first"⟩
    let renamed : Deployment := { deployment with identifiers := fun _ => "second" }
    let service := Service.start deployment {}
    let health : Http.Request := { method := "GET", target := "/health" }
    deployment.settings.timeouts.requestSeconds ≠ some 0 ∧
      (Http.Request.demo "100").Delays .demo ∧ ¬health.Delays .demo ∧ ¬health.Delays .demoService ∧
      (service.serve deployment (.demo "100")).1.map Http.Response.status = some 408 ∧
      (service.trigger.serve renamed (.demo "100")).1 = service.sealed renamed (.demo "100")
        (some (.json 503 Http.Problem.aborted.document)) ∧
      ∃ response?, (service.serve deployment health).1 = service.sealed deployment health response? ∧
        (service.trigger.serve renamed health).1 = service.sealed renamed health response? := by
  intro deployment renamed service health
  have patient : deployment.settings.timeouts.requestSeconds ≠ some 0 := by decide
  have delays : (Http.Request.demo "100").Delays .demo := by
    refine ⟨rfl, by decide +kernel, ?_⟩
    have accepted : (Http.extract PayloadKind.order (.demo "100")).isOk = true := by decide +kernel
    cases extracted : Http.extract PayloadKind.order (.demo "100") with
    | ok accepted => exact ⟨accepted, rfl⟩
    | error problem =>
      rw [extracted] at accepted
      cases accepted
  have other (route : Http.Route) : ¬health.Delays route := fun asks => absurd asks.1 (by decide)
  have demo := (shutdown_changes_delays deployment (fun _ => "second") {} (.demo "100") patient).1 []
  have healthy := (shutdown_changes_delays deployment (fun _ => "second") {} health patient).1 []
  exact ⟨patient, delays, other _, other _, by decide +kernel, (demo.1 delays).1,
    healthy.2.2 (other _) (other _)⟩

end LatencyService
