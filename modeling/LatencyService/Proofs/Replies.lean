/-
What requests are answered with. What a request asks for is read off the request
alone, and it leaves little choice: a response that is ready at once, the reply
of the work that is done, or the problem that stands in its way; and any request
may be answered as one that took too long. This file shows of everything that
can happen to the task of a request that it ends with one of these, and then of
every response that is given, be it told in a scene or returned to whoever is
served.
-/

import LatencyService.Proofs.Rejection

namespace LatencyService

namespace Http.Dispatch

/-- What a request that asks for something can be answered with in time. -/
inductive Yields (settings : Settings) : Dispatch → Response → Prop where
  | unmatched {response : Response} : Yields settings (.unmatched response) response
  | answered {route : Route} {response : Response} {events : List Event} :
      Yields settings (.answered route response events) response
  | reported {header : Header} {order : Order} (elapsed : Nat) :
      Yields settings (.demo header order)
        (.json 200 (Reply.full header (Service.reportOf settings.operation elapsed)).render)
  | aborted {header : Header} {order : Order} :
      Yields settings (.demo header order) Problem.aborted.response
  | served {order : Order} : Yields settings (.demoService order) (.json 200 Reply.empty.render)
  | relayed {header : Header} (body : String) :
      Yields settings (.relay header) (.json 200 (Reply.full header (.ofData body)).render)
  | failed {header : Header} (failure : CallFailure) :
      Yields settings (.relay header) (Relay.problemOf settings.outbound failure).response

/-- What the task of a request is for, if it has one. -/
def purpose? (exchange : Route → Exchange) : Dispatch → Option Purpose
  | demo header _ => some (.demo (exchange .demo) header)
  | demoService _ => some (.demoService (exchange .demoService))
  | relay header => some (.relay (exchange .relay) header)
  | _ => none

end Http.Dispatch

namespace Service

variable {deployment : Deployment} {service : Service} {request : Http.Request}

/-- An ending answers a request that came to the service: as one that took too long, or else with
something that it can have by what it asks for. -/
def Replies (deployment : Deployment) (service : Service) (request : Http.Request)
    (ending : Ending) : Prop :=
  ∃ response, ending = .answered (sealResponse (request.method == "HEAD")
      (identify deployment service.begun request).1 response) ∧
    (response = timedOut ∨
      (Http.Dispatch.ofRequest request).Yields deployment.settings response)

/-- A task waits for the answer to a request that came to the service. -/
def Employs (deployment : Deployment) (service : Service) (request : Http.Request)
    (purpose : Purpose) : Prop :=
  (Http.Dispatch.ofRequest request).purpose? (service.exchangeOf deployment request) = some purpose

/-! ### The endings of a task -/

variable {now : Nat} {task : Task} {purpose : Purpose} {ending : Ending}

/-- A request for work has one of three purposes. -/
theorem Employs.cases (employs : service.Employs deployment request purpose) :
    (∃ header order, Http.Dispatch.ofRequest request = .demo header order ∧
        purpose = .demo (service.exchangeOf deployment request .demo) header) ∨
      (∃ order, Http.Dispatch.ofRequest request = .demoService order ∧
        purpose = .demoService (service.exchangeOf deployment request .demoService)) ∨
      ∃ header, Http.Dispatch.ofRequest request = .relay header ∧
        purpose = .relay (service.exchangeOf deployment request .relay) header := by
  unfold Employs at employs
  cases dispatched : Http.Dispatch.ofRequest request with
  | unmatched response =>
    rw [dispatched] at employs
    cases employs
  | answered route response events =>
    rw [dispatched] at employs
    cases employs
  | demo header order =>
    rw [dispatched] at employs
    cases employs
    exact .inl ⟨header, order, rfl, rfl⟩
  | demoService order =>
    rw [dispatched] at employs
    cases employs
    exact .inr (.inl ⟨order, rfl, rfl⟩)
  | relay header =>
    rw [dispatched] at employs
    cases employs
    exact .inr (.inr ⟨header, rfl, rfl⟩)

theorem employs_of_demo {header : Header} {order : Order}
    (asks : Http.Dispatch.ofRequest request = .demo header order) :
    service.Employs deployment request
      (.demo (service.exchangeOf deployment request .demo) header) := by
  rw [Employs, asks]
  rfl

theorem employs_of_demoService {order : Order}
    (asks : Http.Dispatch.ofRequest request = .demoService order) :
    service.Employs deployment request
      (.demoService (service.exchangeOf deployment request .demoService)) := by
  rw [Employs, asks]
  rfl

theorem Employs.exchange? (employs : service.Employs deployment request purpose) :
    ∃ route, purpose.exchange? = some (service.exchangeOf deployment request route) := by
  rcases employs.cases with ⟨header, order, -, rfl⟩ | ⟨order, -, rfl⟩ | ⟨header, -, rfl⟩
  · exact ⟨.demo, rfl⟩
  · exact ⟨.demoService, rfl⟩
  · exact ⟨.relay, rfl⟩

theorem Employs.replies_of_success (employs : service.Employs deployment request purpose)
    {elapsed : Nat}
    (success : purpose.success? (reportOf deployment.settings.operation elapsed) = some ending) :
    service.Replies deployment request ending := by
  rcases employs.cases with ⟨header, order, asks, rfl⟩ | ⟨order, asks, rfl⟩ | ⟨header, asks, rfl⟩
  · cases success
    exact ⟨_, rfl, .inr (asks ▸ .reported elapsed)⟩
  · cases success
    exact ⟨_, rfl, .inr (asks ▸ .served)⟩
  · cases success

/-- The shutdown never reaches a relayed call. -/
theorem Employs.replies_of_abortion (employs : service.Employs deployment request purpose)
    (sleeps : purpose.sleeps = true) : service.Replies deployment request purpose.abortion := by
  rcases employs.cases with ⟨header, order, asks, rfl⟩ | ⟨order, asks, rfl⟩ | ⟨header, asks, rfl⟩
  · exact ⟨_, rfl, .inr (asks ▸ .aborted)⟩
  · exact ⟨_, rfl, .inr (asks ▸ .served)⟩
  · cases sleeps

theorem Employs.replies_of_wakeFate (employs : service.Employs deployment request task.purpose)
    (ends : task.wakeFate deployment now = .ends (some ending)) :
    service.Replies deployment request ending := by
  unfold Task.wakeFate at ends
  split at ends
  · exact employs.replies_of_success (Fate.ends.inj ends)
  · split at ends
    · exact employs.replies_of_success (Fate.ends.inj ends)
    · cases ends
  · exact employs.replies_of_success (Fate.ends.inj ends)
  · rename_i url _ exchange header _ relays
    rcases employs.cases with ⟨_, _, -, same⟩ | ⟨_, -, same⟩ | ⟨header, asks, same⟩
    · cases relays.symm.trans same
    · cases relays.symm.trans same
    · cases relays.symm.trans same
      cases ends
      exact ⟨_, rfl, .inr (asks ▸ .failed (.unanswered url))⟩
  · cases ends

/-- A task that holds a receiver and answers a request sleeps. -/
theorem Employs.sleeps (employs : service.Employs deployment request task.purpose)
    (fits : task.Fits) (holds : task.holds = true) : task.purpose.sleeps = true := by
  unfold Task.holds at holds
  unfold Task.Fits at fits
  cases stage : task.stage with
  | asleep wake receiver =>
    rw [stage] at fits
    exact fits
  | listening receiver =>
    rw [stage] at fits
    obtain ⟨route, asks⟩ := employs.exchange?
    rw [show task.purpose = .wait from fits] at asks
    cases asks
  | _ =>
    rw [stage] at holds
    cases holds

/-- Whatever ends the task of a request answers it. -/
theorem Employs.replies_of_fate (employs : service.Employs deployment request task.purpose)
    (fits : task.Fits) {happening : Happening}
    (ends : task.fate deployment now happening = .ends (some ending)) :
    service.Replies deployment request ending := by
  cases happening with
  | settle =>
    simp only [Task.fate, Task.settleFate] at ends
    split at ends
    · exact employs.replies_of_wakeFate ends
    · cases ends
  | move later =>
    obtain ⟨route, asks⟩ := employs.exchange?
    simp only [Task.fate, Task.dueFate, Task.attendFate, asks] at ends
    split at ends
    · split at ends
      · cases ends
        exact ⟨timedOut, rfl, .inl rfl⟩
      · exact employs.replies_of_wakeFate ends
    · cases ends
  | trigger =>
    simp only [Task.fate] at ends
    split at ends
    · rename_i holds
      cases ends
      exact employs.replies_of_abortion (employs.sleeps fits holds)
    · cases ends
  | cancel serial =>
    simp only [Task.fate] at ends
    split at ends <;> cases ends

/-- Whatever is told of the task of a request answers it. -/
theorem Employs.replies_of_told {course : Course}
    (employs : ∀ task ∈ course.task?, service.Employs deployment request task.purpose ∧ task.Fits)
    {happenings : List Happening} {completion : Completion}
    (member : completion ∈ course.told deployment happenings) :
    service.Replies deployment request completion.ending := by
  induction happenings generalizing course with
  | nil => exact nomatch member
  | cons happening rest inductionHypothesis =>
    rcases List.mem_append.1 member with first | later
    · unfold Course.completions at first
      cases known : course.task? with
      | none =>
        rw [known] at first
        exact nomatch first
      | some task =>
        rw [known, Option.elim_some] at first
        obtain ⟨employed, fits⟩ := employs task known
        obtain ⟨ending, ends, same⟩ := Fate.ends_of_completions first
        rw [same]
        exact employed.replies_of_fate fits ends
    · refine inductionHypothesis (fun task left => ?_) later
      obtain ⟨old, known, rest⟩ := Option.bind_eq_some_iff.1 left
      obtain ⟨employed, fits⟩ := employs old known
      exact ⟨(Fate.purpose_of_rest rest).symm ▸ employed, fits.rest rest⟩

/-! ### What a request is born as -/

/-- What a birth is to a request: it is answered at once, or a task waits for the answer. -/
inductive Born (deployment : Deployment) (service : Service) (request : Http.Request) :
    Birth → Prop where
  | atOnce {ending : Ending} (replies : service.Replies deployment request ending) :
      Born deployment service request (.atOnce ending)
  | begins {task : Task} (employs : service.Employs deployment request task.purpose) :
      Born deployment service request (.begins task)

theorem Employs.born_asleep (employs : service.Employs deployment request purpose)
    (sleeps : purpose.sleeps = true) (delaySeconds rounds : UInt64) :
    service.Born deployment request (service.sleepBirth purpose delaySeconds rounds) := by
  unfold sleepBirth
  split
  · exact .atOnce (employs.replies_of_abortion sleeps)
  · exact .begins employs

theorem born_relaying {header : Header} (asks : Http.Dispatch.ofRequest request = .relay header) :
    service.Born deployment request
      (service.relayBirth deployment (service.exchangeOf deployment request .relay) header) := by
  unfold relayBirth
  dsimp only
  split
  · rename_i relayed _
    exact .atOnce ⟨_, rfl, .inr (asks ▸ .relayed relayed.body)⟩
  · rename_i failure _
    exact .atOnce ⟨_, rfl, .inr (asks ▸ .failed failure)⟩
  · refine .begins ?_
    rw [Employs, asks]
    rfl

theorem born_request (deployment : Deployment) (service : Service) (request : Http.Request) :
    service.Born deployment request (service.birth deployment (.request request)) := by
  show service.Born deployment request (service.requestBirth deployment request)
  unfold requestBirth
  split
  · exact .atOnce ⟨timedOut, rfl, .inl rfl⟩
  · unfold orderBirth
    dsimp only
    cases asks : Http.Dispatch.ofRequest request with
    | unmatched response => exact .atOnce ⟨response, rfl, .inr (asks ▸ .unmatched)⟩
    | answered route response events => exact .atOnce ⟨response, rfl, .inr (asks ▸ .answered)⟩
    | demo header order => exact (employs_of_demo asks).born_asleep rfl _ _
    | demoService order => exact (employs_of_demoService asks).born_asleep rfl _ _
    | relay header => exact born_relaying asks

/-- What is told of a task from its birth on is told by its course. -/
theorem mem_outcome {birth : Birth} {serial : Nat} {completion : Completion}
    (fits : ∀ task, birth = .begins task → task.Fits)
    (member : completion ∈ birth.outcome deployment serial now) :
    birth = .atOnce completion.ending ∨
      ∃ task happenings, birth = .begins task ∧
        completion ∈ (⟨now, some task⟩ : Course).told deployment happenings := by
  cases birth with
  | atOnce ending => exact .inl (by rw [List.mem_singleton.1 member])
  | begins task =>
    rw [Birth.outcome] at member
    cases same : task.due? with
    | none =>
      rw [same] at member
      cases member
    | some time =>
      rw [same, Option.elim_some] at member
      have due : task.isDueAt (max now time) = true :=
        Task.isDueAt_iff.2 ⟨time, same, Nat.le_max_right now time⟩
      have told := Course.told_due deployment (fits task rfl) due (Nat.le_max_left now time)
        List.not_mem_nil (by trivial : Happening.Paced false [])
      exact .inr ⟨task, _, rfl, told ▸ member⟩

end Service

/-! ### Runs -/

/-- Whatever is told of a request in a scene answers it. -/
theorem Scene.Sound.replies {scene : Scene} (sound : scene.Sound) (deployment : Deployment)
    {action : Action} {name : String} {request : Http.Request}
    (starts : action.start? = some (name, .request request)) (later : List Action) :
    ∀ completion ∈ scene.record deployment (action :: later) scene.service.begun,
      scene.service.Replies deployment request completion.ending := by
  intro completion member
  have born := Service.born_request deployment scene.service request
  cases birth : scene.service.birth deployment (.request request) with
  | atOnce ending =>
    rw [birth] at born
    obtain ⟨replies⟩ := born
    rw [(sound.ends_at_once deployment starts birth later).1] at member
    rw [List.mem_singleton.1 member]
    exact replies
  | begins task =>
    have new := Service.newborn_of_birth birth
    rw [birth] at born
    obtain ⟨-⟩ | ⟨employs⟩ := born
    rw [(sound.begins deployment starts birth later).1] at member
    refine Service.Employs.replies_of_told ?_ member
    rintro other ⟨⟩
    exact ⟨employs, new.fits⟩

namespace Service

variable {deployment : Deployment} {service : Service} {request : Http.Request} {held : Nat}

/-- Whatever has ended when a service at rest has served a request answers it. -/
theorem Sound.replies_ended (sound : service.Sound held) (prompt : service.Prompt)
    (rests : service.Rests) {completion : Completion}
    (member : completion ∈ (service.served deployment request).ended) :
    service.Replies deployment request completion.ending := by
  rw [(sound.serve prompt rests deployment request).ended] at member
  have born := born_request deployment service request
  have fits (task : Task) (begins : service.birth deployment (.request request) = .begins task) :
      task.Fits := (newborn_of_birth begins).fits
  rcases mem_outcome fits member with atOnce | ⟨task, happenings, begins, told⟩
  · rw [atOnce] at born
    obtain ⟨replies⟩ := born
    exact replies
  · rw [begins] at born
    obtain ⟨-⟩ | ⟨employs⟩ := born
    refine Employs.replies_of_told ?_ told
    rintro other ⟨⟩
    exact ⟨employs, fits task begins⟩

/-- Whoever is served by a service at rest gets the answer to the request. -/
theorem Sound.replies_serve (sound : service.Sound held) (prompt : service.Prompt)
    (rests : service.Rests) {response : Http.Response}
    (served : (service.serve deployment request).1 = some response) :
    service.Replies deployment request (.answered response) := by
  rw [serve_eq] at served
  obtain ⟨completion, member, answered⟩ := mem_of_responseOf served
  rw [← answered]
  exact sound.replies_ended prompt rests member

end Service

end LatencyService
