/-
What a request is answered with. The status of a request that took too long is
given to no other answer, and it is given exactly when the deadline of the
request has come by the time at which the request ends.
-/

import LatencyService.Proofs.Steps

namespace LatencyService

/-! ### Answers that are not too late -/

@[simp] theorem Service.status_sealResponse (isHead : Bool) (identifier : Octets)
    (response : Http.Response) :
    (sealResponse isHead identifier response).status = response.status := by
  rw [sealResponse]
  split <;> rfl

namespace Http

/-- The status of a request that took too long. -/
def timeoutStatus : Nat := 408

theorem Problem.status_extract {Payload : Type} {kind : PayloadKind Payload} {request : Request}
    {problem : Problem} (refused : extract kind request = .error problem) :
    problem.status ≠ timeoutStatus := by
  unfold extract at refused
  split at refused
  · cases refused
    decide
  · split at refused
    · cases refused
      decide
    · split at refused
      · cases refused
        rw [Problem.ofFault]
        split <;> simp [Problem.status, timeoutStatus]
      · split at refused
        · cases refused
          simp [Problem.status, timeoutStatus]
        · cases refused

namespace Dispatch

/-- The answer that is ready at once. -/
def response? : Dispatch → Option Response
  | unmatched response | answered _ response _ => some response
  | _ => none

theorem status_ofRoute {route : Route} {request : Request} {response : Response}
    (ready : (ofRoute route request).response? = some response) :
    response.status ≠ timeoutStatus := by
  cases route with
  | health =>
    cases ready
    simp [Response.json, timeoutStatus]
  | camel =>
    simp only [ofRoute] at ready
    split at ready
    · rename_i refused
      cases ready
      exact Problem.status_extract refused
    · cases ready
      simp [Response.json, timeoutStatus]
  | _ =>
    simp only [ofRoute] at ready
    split at ready
    · rename_i refused
      cases ready
      exact Problem.status_extract refused
    · cases ready

/-- No answer that is ready at once has the status of a request that took too long. -/
theorem status_ofRequest {request : Request} {response : Response}
    (ready : (ofRequest request).response? = some response) :
    response.status ≠ timeoutStatus := by
  unfold ofRequest at ready
  split at ready
  · cases ready
    rw [nothingAt]
    split <;> simp [Response.empty, timeoutStatus]
  · split at ready
    · exact status_ofRoute ready
    · cases ready
      simp [wrongMethod, Response.empty, timeoutStatus]

end Dispatch

end Http

/-! ### The ending of a request -/

/-- A request ends at a time with an answer: it is the one of a request that took too long, and has
the status that only this one has, exactly when the deadline has come. -/
def Exchange.Punctual (exchange : Exchange) (time : Nat) (ending : Ending) : Prop :=
  ∃ response, ending = exchange.answer response ∧
    ((response = Service.timedOut ∧ ∃ deadline ∈ exchange.deadline, deadline ≤ time) ∨
      (response.status ≠ Http.timeoutStatus ∧ ∀ deadline ∈ exchange.deadline, time < deadline))

namespace Task

variable {deployment : Deployment} {now : Nat} {task : Task} {exchange : Exchange}
  {ending : Ending}

/-- A request whose work is done is not answered as one that took too long. -/
theorem status_of_success {purpose : Purpose} (request : purpose.exchange? = some exchange)
    {report : Report} (success : purpose.success? report = some ending) :
    ∃ response, ending = exchange.answer response ∧ response.status ≠ Http.timeoutStatus := by
  cases purpose with
  | demo own header =>
    cases request
    cases success
    exact ⟨_, rfl, by simp [Http.Response.json, Http.timeoutStatus]⟩
  | demoService own =>
    cases request
    cases success
    exact ⟨_, rfl, by simp [Http.Response.json, Http.timeoutStatus]⟩
  | relay own header => cases success
  | _ => cases request

theorem status_of_abortion {purpose : Purpose} (request : purpose.exchange? = some exchange) :
    ∃ response, purpose.abortion = exchange.answer response ∧
      response.status ≠ Http.timeoutStatus := by
  cases purpose with
  | demo own header =>
    cases request
    exact ⟨_, rfl, by decide⟩
  | demoService own =>
    cases request
    exact ⟨_, rfl, by simp [Http.Response.json, Http.timeoutStatus]⟩
  | relay own header =>
    cases request
    exact ⟨_, rfl, by decide⟩
  | _ => cases request

theorem status_of_wakeFate (request : task.purpose.exchange? = some exchange)
    (ends : task.wakeFate deployment now = .ends (some ending)) :
    ∃ response, ending = exchange.answer response ∧ response.status ≠ Http.timeoutStatus := by
  unfold wakeFate at ends
  split at ends
  · exact status_of_success request (Fate.ends.inj ends)
  · split at ends
    · exact status_of_success request (Fate.ends.inj ends)
    · cases ends
  · exact status_of_success request (Fate.ends.inj ends)
  · rename_i relays
    rw [relays] at request
    cases request
    cases ends
    refine ⟨_, rfl, ?_⟩
    simp [Relay.problemOf, Http.Problem.response, Http.Response.json, Http.Problem.status,
      Http.timeoutStatus]
  · cases ends

theorem deadline?_of_request (request : task.purpose.exchange? = some exchange) :
    task.deadline? = exchange.deadline := by
  rw [deadline?, request]
  rfl

/-- Whatever ends a request ends it with the answer that belongs to the time. -/
theorem punctual_of_fate {happening : Happening} (request : task.purpose.exchange? = some exchange)
    (timely : (∃ later, happening = .move later) ∨ ∀ deadline ∈ exchange.deadline, now < deadline)
    (ends : task.fate deployment now happening = .ends (some ending)) :
    exchange.Punctual now ending := by
  have early (answered : ∃ response, ending = exchange.answer response ∧
      response.status ≠ Http.timeoutStatus)
      (left : ∀ deadline ∈ exchange.deadline, now < deadline) : exchange.Punctual now ending := by
    obtain ⟨response, same, status⟩ := answered
    exact ⟨response, same, .inr ⟨status, left⟩⟩
  cases happening with
  | settle =>
    obtain ⟨later, same⟩ | left := timely
    · cases same
    · simp only [fate, settleFate] at ends
      split at ends
      · exact early (status_of_wakeFate request ends) left
      · cases ends
  | move later =>
    simp only [fate, dueFate, attendFate, request] at ends
    split at ends
    · split at ends
      · rename_i late
        rw [isLateAt_iff, deadline?_of_request request] at late
        cases ends
        exact ⟨Service.timedOut, rfl, .inl ⟨rfl, late⟩⟩
      · rename_i left
        rw [Bool.not_eq_true, isLateAt_eq_false_iff, deadline?_of_request request] at left
        exact early (status_of_wakeFate request ends) left
    · cases ends
  | trigger =>
    obtain ⟨later, same⟩ | left := timely
    · cases same
    · simp only [fate] at ends
      split at ends
      · cases ends
        exact early (status_of_abortion request) left
      · cases ends
  | cancel serial =>
    simp only [fate] at ends
    split at ends <;> cases ends

theorem completionFate_ne_ends_none {settings : OperationSettings}
    (sleeps : task.purpose.sleeps = true) : task.completionFate settings now ≠ .ends none := by
  obtain ⟨ending, success⟩ := Purpose.exists_success sleeps
    (Service.reportOf settings (now - task.started))
  rw [completionFate, success]
  simp

theorem wakeFate_ne_ends_none (fits : task.Fits) :
    task.wakeFate deployment now ≠ .ends none := by
  obtain ⟨serial, purpose, delaySeconds, rounds, started, stage⟩ := task
  cases stage with
  | asleep wake receiver =>
    cases purpose with
    | delay => exact completionFate_ne_ends_none fits
    | _ =>
      simp only [wakeFate]
      split
      · exact completionFate_ne_ends_none fits
      · simp
  | busy => exact completionFate_ne_ends_none fits
  | listening receiver => simp [wakeFate]
  | relaying url giveUp => cases purpose <;> simp [wakeFate]

/-- Only a task that is cancelled ends in silence. -/
theorem cancel_of_ends_none (fits : task.Fits) {happening : Happening}
    (ends : task.fate deployment now happening = .ends none) :
    happening = .cancel task.serial := by
  cases happening with
  | settle =>
    simp only [fate, settleFate] at ends
    split at ends
    · exact absurd ends (wakeFate_ne_ends_none fits)
    · cases ends
  | move later =>
    simp only [fate, dueFate, attendFate] at ends
    split at ends
    · split at ends
      · split at ends
        · cases ends
        · exact absurd ends (wakeFate_ne_ends_none fits)
      · exact absurd ends (wakeFate_ne_ends_none fits)
    · cases ends
  | trigger =>
    simp only [fate] at ends
    split at ends <;> cases ends
  | cancel serial =>
    simp only [fate] at ends
    split at ends
    · rename_i same
      rw [same]
    · cases ends

end Task

namespace Course

variable {deployment : Deployment} {course : Course} {exchange : Exchange}

/-- The course of a request that has not been given up yet. -/
def Asks (course : Course) (exchange : Exchange) : Prop :=
  ∀ task ∈ course.task?, task.purpose.exchange? = some exchange ∧ task.Fits ∧
    ∀ deadline ∈ exchange.deadline, course.now < deadline

theorem Asks.next (asks : course.Asks exchange) (happening : Happening) :
    (course.next deployment happening).Asks exchange := by
  intro task left
  obtain ⟨old, known, rest⟩ := Option.bind_eq_some_iff.1 left
  obtain ⟨request, fits, timely⟩ := asks old known
  have purpose : task.purpose = old.purpose := Fate.purpose_of_rest rest
  refine ⟨purpose ▸ request, fits.rest rest, ?_⟩
  cases happening with
  | move later =>
    have due := Task.rest_dueFate fits rest
    have timely := (Task.isDueAt_eq_false_iff.1 due).2
    rwa [Task.deadline?_of_request (purpose ▸ request)] at timely
  | _ => exact timely

/-- Whatever is told of a request is the answer that belongs to the time. -/
theorem Asks.punctual (asks : course.Asks exchange) {happenings : List Happening}
    {completion : Completion} (member : completion ∈ course.told deployment happenings) :
    exchange.Punctual completion.time completion.ending := by
  induction happenings generalizing course with
  | nil => exact nomatch member
  | cons happening rest inductionHypothesis =>
    rcases List.mem_append.1 member with first | later
    · unfold completions at first
      cases known : course.task? with
      | none =>
        rw [known] at first
        exact nomatch first
      | some task =>
        rw [known, Option.elim_some] at first
        obtain ⟨request, fits, timely⟩ := asks task known
        obtain ⟨ending, ends, same⟩ := Fate.ends_of_completions first
        rw [same]
        refine Task.punctual_of_fate request ?_ ends
        cases happening with
        | move later => exact .inl ⟨later, rfl⟩
        | _ => exact .inr timely
    · exact inductionHypothesis (asks.next happening) later

/-- A task that is not cancelled goes on in silence, or ends and is told of once. -/
theorem told_once {now : Nat} {task : Task} (fits : task.Fits) {happenings : List Happening}
    (spared : .cancel task.serial ∉ happenings) :
    (∃ left, ((⟨now, some task⟩ : Course).follow deployment happenings).task? = some left ∧
        (⟨now, some task⟩ : Course).told deployment happenings = []) ∨
      ((⟨now, some task⟩ : Course).follow deployment happenings).task? = none ∧
        ∃ completion, (⟨now, some task⟩ : Course).told deployment happenings = [completion] := by
  induction happenings generalizing now task with
  | nil => exact .inl ⟨task, rfl, rfl⟩
  | cons happening rest inductionHypothesis =>
    have later (member : .cancel task.serial ∈ rest) : False :=
      spared (List.mem_cons_of_mem _ member)
    rw [follow_cons]
    cases fate : task.fate deployment (happening.clock now) happening with
    | waits =>
      have stays := next_of_waits fate
      rw [told, stays.1, stays.2]
      exact inductionHypothesis fits later
    | works =>
      have busy := next_of_works fate
      rw [told, busy.1, busy.2]
      have left : (task.fate deployment (happening.clock now) happening).rest task =
          some { task with stage := .busy } := by
        rw [fate]
        rfl
      exact inductionHypothesis (fits.rest left) later
    | ends ending =>
      have gone := next_of_ends fate
      rw [told, gone.1, gone.2, told_ended, List.append_nil]
      cases ending with
      | none =>
        have cancelled := Task.cancel_of_ends_none fits fate
        exact absurd (cancelled ▸ List.mem_cons_self) spared
      | some ending => exact .inr ⟨task?_follow_ended _ rest, _, rfl⟩

end Course

/-! ### What a request is born as -/

namespace Service

variable {deployment : Deployment} {service : Service} {request : Http.Request}

/-- What a birth is to a request that comes now: it is answered at once with the answer that belongs
to the time, or waits for an answer with time left. -/
inductive Receives (deployment : Deployment) (service : Service) (request : Http.Request) :
    Birth → Prop where
  | atOnce {ending : Ending} (route : Http.Route)
      (punctual : (service.exchangeOf deployment request route).Punctual service.now ending) :
      Receives deployment service request (.atOnce ending)
  | begins {task : Task} (route : Http.Route)
      (asks : task.purpose.exchange? = some (service.exchangeOf deployment request route))
      (left : ∀ deadline ∈ service.deadlineOf deployment, service.now < deadline) :
      Receives deployment service request (.begins task)

theorem receives_sleepBirth {purpose : Purpose} {delaySeconds rounds : UInt64}
    (route : Http.Route)
    (asks : purpose.exchange? = some (service.exchangeOf deployment request route))
    (left : ∀ deadline ∈ service.deadlineOf deployment, service.now < deadline) :
    service.Receives deployment request (service.sleepBirth purpose delaySeconds rounds) := by
  unfold sleepBirth
  split
  · obtain ⟨response, same, status⟩ := Task.status_of_abortion asks
    exact .atOnce route ⟨response, same, .inr ⟨status, left⟩⟩
  · exact .begins route asks left

theorem receives_relayBirth {header : Header} (route : Http.Route)
    (left : ∀ deadline ∈ service.deadlineOf deployment, service.now < deadline) :
    service.Receives deployment request
      (service.relayBirth deployment (service.exchangeOf deployment request route) header) := by
  unfold relayBirth
  dsimp only
  split
  · refine .atOnce route ⟨_, rfl, .inr ⟨?_, left⟩⟩
    simp [Http.Response.json, Http.timeoutStatus]
  · refine .atOnce route ⟨_, rfl, .inr ⟨?_, left⟩⟩
    simp [Relay.problemOf, Http.Problem.response, Http.Response.json, Http.Problem.status,
      Http.timeoutStatus]
  · exact .begins route rfl left

theorem receives_birth (deployment : Deployment) (service : Service) (request : Http.Request) :
    service.Receives deployment request (service.birth deployment (.request request)) := by
  show service.Receives deployment request (service.requestBirth deployment request)
  unfold requestBirth
  split
  · rename_i spent
    exact .atOnce .health ⟨timedOut, rfl, .inl ⟨rfl, service.now, spent, Nat.le_refl _⟩⟩
  · rename_i spared
    have left := deadlineOf_later spared
    have ready {route : Http.Route} {response : Http.Response}
        (answered : (Http.Dispatch.ofRequest request).response? = some response) :
        (service.exchangeOf deployment request route).Punctual service.now
          ((service.exchangeOf deployment request route).answer response) :=
      ⟨response, rfl, .inr ⟨Http.Dispatch.status_ofRequest answered, left⟩⟩
    unfold orderBirth
    dsimp only
    split
    · rename_i dispatched
      exact .atOnce .health (ready (by rw [dispatched]; rfl))
    · rename_i route response events dispatched
      exact .atOnce route (ready (by rw [dispatched]; rfl))
    · exact receives_sleepBirth .demo rfl left
    · exact receives_sleepBirth .demoService rfl left
    · exact receives_relayBirth .relay left

end Service

/-! ### Requests in a run -/

theorem Course.Asks.follow {course : Course} {exchange : Exchange}
    (asks : course.Asks exchange) (deployment : Deployment) (happenings : List Happening) :
    (course.follow deployment happenings).Asks exchange := by
  induction happenings generalizing course with
  | nil => exact asks
  | cons happening rest inductionHypothesis => exact inductionHypothesis (asks.next happening)

namespace Scene

variable {scene : Scene}

/-- Whatever is told of a request is the answer that belongs to the time. -/
theorem Sound.punctual (sound : scene.Sound) (deployment : Deployment) {action : Action}
    {name : String} {request : Http.Request}
    (starts : action.start? = some (name, .request request)) (later : List Action) :
    ∀ completion ∈ scene.record deployment (action :: later) scene.service.begun,
      ∃ route, (scene.service.exchangeOf deployment request route).Punctual completion.time
        completion.ending := by
  intro completion member
  have receives := Service.receives_birth deployment scene.service request
  cases born : scene.service.birth deployment (.request request) with
  | atOnce ending =>
    rw [born] at receives
    obtain ⟨route, punctual⟩ := receives
    rw [(sound.ends_at_once deployment starts born later).1] at member
    rw [List.mem_singleton.1 member]
    exact ⟨route, punctual⟩
  | begins task =>
    have new := Service.newborn_of_birth born
    rw [born] at receives
    obtain ⟨-⟩ | ⟨route, asks, left⟩ := receives
    rw [(sound.begins deployment starts born later).1] at member
    have waits : (⟨scene.service.now, some task⟩ : Course).Asks
        (scene.service.exchangeOf deployment request route) := by
      rintro other ⟨⟩
      exact ⟨asks, new.fits, left⟩
    exact ⟨route, waits.punctual member⟩

/-- A request is not left waiting when its deadline has come; unless it was cancelled it has been
answered by then. -/
theorem Sound.answered (sound : scene.Sound) (deployment : Deployment) {action : Action}
    {name : String} {request : Http.Request}
    (starts : action.start? = some (name, .request request)) (later : List Action)
    {deadline : Nat} (given : deadline ∈ scene.service.deadlineOf deployment)
    (reached : deadline ≤ (scene.after deployment (action :: later)).service.now) :
    (scene.after deployment (action :: later)).service.task? scene.service.begun = none ∧
      (.cancel scene.service.begun ∉ scene.timeline deployment action later →
        ∃ completion,
          scene.record deployment (action :: later) scene.service.begun = [completion]) := by
  have receives := Service.receives_birth deployment scene.service request
  cases born : scene.service.birth deployment (.request request) with
  | atOnce ending =>
    obtain ⟨record, gone⟩ := sound.ends_at_once deployment starts born later
    exact ⟨gone, fun _ => ⟨_, record⟩⟩
  | begins task =>
    have new := Service.newborn_of_birth born
    rw [born] at receives
    obtain ⟨-⟩ | ⟨route, asks, left⟩ := receives
    obtain ⟨record, course⟩ := sound.begins deployment starts born later
    have waits : (⟨scene.service.now, some task⟩ : Course).Asks
        (scene.service.exchangeOf deployment request route) := by
      rintro other ⟨⟩
      exact ⟨asks, new.fits, left⟩
    have gone : (scene.after deployment (action :: later)).service.task? scene.service.begun =
        none := by
      refine Option.eq_none_iff_forall_ne_some.2 fun other found => ?_
      have still := waits.follow deployment (scene.timeline deployment action later)
      rw [← course] at still
      have early : _ < deadline := (still other found).2.2 deadline given
      exact absurd reached (Nat.not_le_of_lt early)
    refine ⟨gone, fun spared => ?_⟩
    rw [record]
    rw [← new.next] at spared
    rcases Course.told_once new.fits spared with ⟨other, there, -⟩ | ⟨-, once⟩
    · rw [← course] at there
      exact nomatch gone.symm.trans there
    · exact once

end Scene

end LatencyService
