/-
The log of a run, as far as it says which requests came. The line of a request
is written when it comes, before anything is known of its answer, and nothing
else that the service does writes one. So the lines of a run are those of its
requests in the order in which they came, whatever became of them.
-/

import LatencyService.Proofs.Counters

namespace LatencyService

/-- What the log says of a request that comes. -/
structure RequestSpan where
  method : String
  path : String
  /-- What the log calls the request. -/
  identifier : String
  deriving DecidableEq

/-- The request of which a line of the log says that it comes. -/
def LogEntry.span? : LogEntry → Option RequestSpan
  | .span method path identifier => some ⟨method, path, identifier⟩
  | .event _ => none

namespace Service

/-- What the log says of the requests that came, in its order. -/
def spans (service : Service) : List RequestSpan :=
  (service.journal.filterMap LogEntry.span?).reverse

variable {deployment : Deployment} {service : Service}

/-- Only the log counts. -/
theorem spans_congr {first second : Service} (same : first.journal = second.journal) :
    first.spans = second.spans := by
  rw [spans, spans, same]

/-! ### What happens to tasks -/

@[simp] theorem spans_record (events : List Event) :
    (service.record events).spans = service.spans := by
  have silent : ((events.map LogEntry.event).reverse).filterMap LogEntry.span? = [] := by
    rw [List.filterMap_eq_nil_iff]
    intro entry member
    obtain ⟨event, -, rfl⟩ := List.mem_map.1 (List.mem_reverse.1 member)
    rfl
  rw [spans, record, List.filterMap_append, silent, List.nil_append]
  rfl

@[simp] theorem spans_finish (serial : Nat) (ending : Ending) :
    (service.finish serial ending).spans = service.spans := rfl

@[simp] theorem spans_answer (serial : Nat) (exchange : Exchange) (response : Http.Response) :
    (service.answer serial exchange response).spans = service.spans := rfl

@[simp] theorem spans_refuse (serial : Nat) (exchange : Exchange) (problem : Http.Problem) :
    (service.refuse serial exchange problem).spans = service.spans := by
  rw [refuse, spans_answer, spans_record]

@[simp] theorem spans_endService (serial : Nat) (policy : AbortPolicy) (isAborted : Bool) :
    (service.endService serial policy isAborted).spans = service.spans := by
  unfold endService
  split <;> simp

@[simp] theorem spans_abort (task : Task) : (service.abort task).spans = service.spans := by
  unfold abort
  split <;> simp

@[simp] theorem spans_complete (task : Task) :
    (service.complete deployment task).spans = service.spans := by
  unfold complete
  dsimp only
  split <;> simp

@[simp] theorem spans_failRelay (serial : Nat) (exchange : Exchange) (failure : CallFailure) :
    (service.failRelay deployment serial exchange failure).spans = service.spans := by
  unfold failRelay
  dsimp only
  rw [spans_refuse]
  exact spans_record _

@[simp] theorem spans_finishRelay (serial : Nat) (exchange : Exchange) (header : Header)
    (relayed : Relay.Relayed) :
    (service.finishRelay serial exchange header relayed).spans = service.spans := by
  unfold finishRelay
  dsimp only
  rw [spans_answer]
  exact spans_record _

/-- What the log says of requests is not changed however tasks end. -/
theorem keeps_spans (deployment : Deployment) (spans : List RequestSpan) :
    KeepsAlways deployment (fun _ => True) (fun service => service.spans = spans) where
  suited _ _ _ := trivial
  congr known journal _ _ _ := (spans_congr journal).trans known
  busy _ := trivial
  complete known _ := (spans_complete _).trans known
  timeout known _ _ := (spans_finish _ _).trans known
  failRelay known _ _ failure := (spans_failRelay _ _ failure).trans known
  interrupted known _ := (spans_record _).trans known
  abort known _ := (spans_abort _).trans known

@[simp] theorem spans_runDue : (service.runDue deployment).spans = service.spans :=
  (keeps_spans deployment service.spans).runDue rfl

/-- Whatever happens, no request comes. -/
@[simp] theorem spans_undergo (happenings : List Happening) :
    (service.undergo deployment happenings).spans = service.spans :=
  (keeps_spans deployment service.spans).undergo rfl happenings

/-! ### What begins -/

@[simp] theorem spans_beginSleep (serial : Nat) (purpose : Purpose)
    (delaySeconds rounds : UInt64) :
    (service.beginSleep deployment serial purpose delaySeconds rounds).spans = service.spans :=
  (keeps_spans deployment service.spans).beginSleep rfl fun _ => trivial

@[simp] theorem spans_beginWait (serial : Nat) :
    (service.beginWait serial).spans = service.spans := by
  unfold beginWait
  dsimp only
  split
  · rw [spans_abort]
    rfl
  · rfl

@[simp] theorem spans_beginRelay (serial : Nat) (exchange : Exchange) (header : Header) :
    (service.beginRelay deployment serial exchange header).spans = service.spans := by
  have called (backend : Backend) :
      (({ service with backend } : Service).record
        (Relay.eventsBefore deployment.settings.outbound)).spans = service.spans := spans_record _
  unfold beginRelay
  dsimp only
  cases (Relay.run deployment.settings.outbound service.backend).1 with
  | relayed relayed =>
    rw [spans_finishRelay]
    exact called _
  | failed failure =>
    rw [spans_failRelay]
    exact called _
  | pending url =>
    rw [spans_runDue, ← called (Relay.run deployment.settings.outbound service.backend).2]
    exact spans_congr rfl

/-- The line of a request that comes under a number. -/
def spanOf (deployment : Deployment) (serial : Nat) (request : Http.Request) : RequestSpan :=
  ⟨request.method, request.path, (identify deployment serial request).2⟩

theorem spans_beginRequest (serial : Nat) (request : Http.Request) :
    (service.beginRequest deployment serial request).spans =
      service.spans ++ [spanOf deployment serial request] := by
  have logged (line : LogEntry) (same : line.span? = some (spanOf deployment serial request)) :
      ({ service with journal := line :: service.journal } : Service).spans =
        service.spans ++ [spanOf deployment serial request] := by
    rw [spans, List.filterMap_cons_some same, List.reverse_cons]
    rfl
  unfold beginRequest
  dsimp only
  split
  · rw [spans_finish, logged _ rfl]
  · split
    · rw [spans_finish, logged _ rfl]
    · rw [spans_answer, spans_record, logged _ rfl]
    · rw [spans_beginSleep, spans_record, logged _ rfl]
    · rw [spans_beginSleep, logged _ rfl]
    · rw [spans_beginRelay, logged _ rfl]

end Service

/-! ### Runs -/

namespace Start

/-- The request that begins. -/
def request? : Start → Option Http.Request
  | request asked => some asked
  | _ => none

/-- The requests among all that begins one after the other, each with its number; the number of the
first that begins is given. -/
def requestsFrom (serial : Nat) : List Start → List (Nat × Http.Request)
  | [] => []
  | start :: rest => (start.request?.map (serial, ·)).toList ++ requestsFrom (serial + 1) rest

theorem requestsFrom_cons (serial : Nat) (start : Start) (rest : List Start) :
    requestsFrom serial (start :: rest) =
      (start.request?.map (serial, ·)).toList ++ requestsFrom (serial + 1) rest := rfl

/-- Numbers are given out from the first on. -/
theorem le_of_mem_requestsFrom {first serial : Nat} {asked : Http.Request} {starts : List Start}
    (member : (serial, asked) ∈ requestsFrom first starts) : first ≤ serial := by
  induction starts generalizing first with
  | nil => cases member
  | cons start rest inductionHypothesis =>
    rcases List.mem_append.1 member with own | later
    · obtain ⟨known, -, same⟩ := Option.map_eq_some_iff.1 (Option.mem_toList.1 own)
      cases same
      exact Nat.le_refl _
    · exact Nat.le_of_succ_le (inductionHypothesis later)

/-- Where nothing but requests begins, all of them are there. -/
theorem requestsFrom_requests (serial : Nat) (requests : List (Bool × Http.Request)) :
    requestsFrom serial (requests.map fun asked => request asked.2) =
      (requests.zipIdx serial).map fun asked => (asked.2, asked.1.2) := by
  induction requests generalizing serial with
  | nil => rfl
  | cons asked rest inductionHypothesis =>
    rw [List.map_cons, requestsFrom_cons, inductionHypothesis, List.zipIdx_cons, List.map_cons]
    rfl

end Start

/-- The lines of requests that come under their numbers. -/
def spansOf (deployment : Deployment) (requests : List (Nat × Http.Request)) : List RequestSpan :=
  requests.map fun asked => Service.spanOf deployment asked.1 asked.2

theorem spansOf_requestsFrom_cons (deployment : Deployment) (serial : Nat) (start : Start)
    (rest : List Start) :
    spansOf deployment (Start.requestsFrom serial (start :: rest)) =
      start.request?.toList.map (Service.spanOf deployment serial) ++
        spansOf deployment (Start.requestsFrom (serial + 1) rest) := by
  rw [Start.requestsFrom_cons, spansOf, List.map_append]
  cases start.request? <;> rfl

/-- What begins writes the line of the request that it is, if it is one. -/
theorem Service.spans_begin {deployment : Deployment} {service : Service} (start : Start) :
    (service.begin deployment start).spans =
      service.spans ++ start.request?.toList.map (spanOf deployment service.begun) := by
  cases start with
  | request asked => exact spans_beginRequest service.begun asked
  | delay delaySeconds => exact (spans_beginSleep ..).trans (List.append_nil service.spans).symm
  | operation delaySeconds rounds =>
    exact (spans_beginSleep ..).trans (List.append_nil service.spans).symm
  | service policy delaySeconds =>
    exact (spans_beginSleep ..).trans (List.append_nil service.spans).symm
  | wait => exact (spans_beginWait _).trans (List.append_nil service.spans).symm

namespace Scene

variable {deployment : Deployment} {scene : Scene}

/-- What begins in a run, in its order. -/
def starts (actions : List Action) : List Start :=
  actions.filterMap fun action => action.start?.map Prod.snd

/-- The requests of a run, each with its number. -/
def requests (actions : List Action) : List (Nat × Http.Request) :=
  Start.requestsFrom 0 (starts actions)

theorem starts_cons (action : Action) (rest : List Action) :
    starts (action :: rest) = (action.start?.map Prod.snd).toList ++ starts rest := by
  rw [starts, List.filterMap_cons]
  cases action.start? <;> rfl

/-- In a step the line of a request is written if one comes. -/
theorem Sound.spans_step (sound : scene.Sound) (deployment : Deployment) (action : Action) :
    (scene.step deployment action).2.service.spans =
      scene.service.spans ++ (action.start?.bind fun named => named.2.request?).toList.map
        (Service.spanOf deployment scene.service.begun) := by
  have undergone : (scene.undergone deployment action).spans = scene.service.spans :=
    Service.spans_undergo _
  rcases service_step deployment scene action with ⟨named, starts, same⟩ | ⟨starts, _, -, same⟩
  · rw [same, starts, Service.spans_begin, undergone, sound.begun_undergone]
    rfl
  · rw [same, starts]
    exact undergone.trans (List.append_nil scene.service.spans).symm

/-- The lines that a run writes are those of its requests. -/
theorem Sound.spans_after (sound : scene.Sound) (deployment : Deployment)
    (actions : List Action) :
    (scene.after deployment actions).service.spans =
      scene.service.spans ++
        spansOf deployment (Start.requestsFrom scene.service.begun (starts actions)) := by
  induction actions generalizing scene with
  | nil => exact (List.append_nil _).symm
  | cons action rest inductionHypothesis =>
    have begun := sound.begun_step deployment action
    rw [after_cons, inductionHypothesis (sound.step deployment action), sound.spans_step, begun,
      starts_cons, List.append_assoc]
    cases action.start? with
    | some named => exact congrArg _ (spansOf_requestsFrom_cons deployment _ named.2 _).symm
    | none => rfl

end Scene

namespace Service

variable {deployment : Deployment} {service : Service} {held : Nat}

/-- A service that serves a request writes its line. -/
theorem spans_served (request : Http.Request) :
    (service.served deployment request).spans =
      service.spans ++ [spanOf deployment service.begun request] := by
  unfold served waitFor
  rw [passTime_eq_undergo, spans_undergo]
  exact spans_beginRequest service.begun request

/-- The lines of requests that are served one after the other are theirs. -/
theorem Sound.spans_serveAll (sound : service.Sound held) (prompt : service.Prompt)
    (rests : service.Rests) (deployment : Deployment) (requests : List (Bool × Http.Request)) :
    (service.serveAll deployment requests).2.spans =
      service.spans ++ spansOf deployment
        (Start.requestsFrom service.begun (requests.map fun asked => .request asked.2)) := by
  induction requests generalizing service with
  | nil => exact (List.append_nil _).symm
  | cons asked rest inductionHypothesis =>
    obtain ⟨triggers, request⟩ := asked
    obtain ⟨shutdown, readied, -, served⟩ :=
      sound.serve_readied prompt rests deployment triggers request
    rw [serveAll_cons, readied]
    dsimp only
    rw [inductionHypothesis served.sound served.prompt served.rests, served.begun, spans_served,
      List.map_cons, spansOf_requestsFrom_cons, List.append_assoc]
    rfl

end Service

end LatencyService
