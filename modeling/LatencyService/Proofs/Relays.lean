/-
What is counted of relayed calls. A call that ends is counted at its own
counter, under the status that it brought or as one that brought none, and the
answer to its request is counted with it in the same moment. No other answer of
the endpoint has one of the two statuses by which these answers go. So the
counter of calls and that of requests always agree, whatever the calls meet,
and a call that is given up together with its request is found at neither.
-/

import LatencyService.Proofs.Counters
import LatencyService.Proofs.Lockstep
import LatencyService.Proofs.Rejection

namespace LatencyService

/-! ### Totals -/

namespace Tally

variable {Key : Type} [DecidableEq Key]

/-- How often the keys of a kind were counted, all in all. -/
def total (wanted : Key → Bool) (tally : Tally Key) : Nat :=
  ((tally.entries.filter fun entry => wanted entry.1).map Prod.snd).sum

theorem total_add (wanted : Key → Bool) (tally : Tally Key) (key : Key) :
    (tally.add key).total wanted = tally.total wanted + if wanted key then 1 else 0 := by
  obtain ⟨entries⟩ := tally
  simp only [total, add]
  induction entries with
  | nil => cases kind : wanted key <;> simp [increment, kind]
  | cons entry rest inductionHypothesis =>
    obtain ⟨first, times⟩ := entry
    rw [increment]
    by_cases same : first = key
    · rw [if_pos same, same]
      cases kind : wanted key
      · simp [kind]
      · simp only [List.filter_cons, kind, if_true, List.map_cons, List.sum_cons]
        omega
    · rw [if_neg same]
      cases kind : wanted first
      · simpa [kind] using inductionHypothesis
      · simp only [List.filter_cons, kind, if_true, List.map_cons, List.sum_cons,
          inductionHypothesis]
        omega

/-- The total of a kind is the number of its keys among those that were counted. -/
theorem total_ofList (wanted : Key → Bool) (keys : List Key) :
    (ofList keys).total wanted = keys.countP wanted := by
  induction keys using List.reverseRecOn with
  | nil => rfl
  | append_singleton keys last inductionHypothesis =>
    rw [ofList_concat, total_add, inductionHypothesis, List.countP_append, List.countP_singleton]

end Tally

/-! ### The ends of calls -/

/-- Some calls have ended, each with the status that it brought or without one: the counter of calls
is their tally, and of the answers to their requests there is one for each of them. -/
structure Metrics.Settled (ends : List (Option Nat)) (metrics : Metrics) : Prop where
  relays : metrics.relays = .ofList ends
  brought : metrics.requests.count (.relay, 200) = ends.countP Option.isSome
  failed : metrics.requests.count (.relay, 502) = ends.count none

/-- An answer of an endpoint is none to a relayed call that has ended. -/
def Http.Route.Spares (route : Route) (status : Nat) : Prop :=
  route = .relay → status ≠ 200 ∧ status ≠ 502

namespace Metrics

variable {metrics : Metrics} {ends : List (Option Nat)}

/-- An answer that has nothing to do with a call that has ended. -/
theorem Settled.recordRequest (settled : metrics.Settled ends) {route : Http.Route} {status : Nat}
    (spares : route.Spares status) : (metrics.recordRequest route status).Settled ends := by
  have kept (own : Nat) (mine : own = 200 ∨ own = 502) :
      (metrics.recordRequest route status).requests.count (.relay, own) =
        metrics.requests.count (.relay, own) := by
    refine (Tally.count_add metrics.requests (route, status) (.relay, own)).trans ?_
    refine congrArg _ (if_neg fun same => ?_)
    obtain ⟨atRelay, other⟩ := Prod.mk.inj same
    have spared := spares atRelay.symm
    omega
  exact ⟨settled.relays, (kept 200 (.inl rfl)).trans settled.brought,
    (kept 502 (.inr rfl)).trans settled.failed⟩

/-- A call has brought a status, and its request is answered. -/
theorem Settled.relayed (settled : metrics.Settled ends) (status : Nat) :
    ((metrics.recordRelay (some status)).recordRequest .relay 200).Settled
      (ends ++ [some status]) := by
  refine ⟨?_, ?_, ?_⟩
  · rw [Tally.ofList_concat, ← settled.relays]
    rfl
  · rw [List.countP_append, ← settled.brought]
    exact Tally.count_add metrics.requests (.relay, 200) (.relay, 200)
  · rw [List.count_append, ← settled.failed]
    exact Tally.count_add metrics.requests (.relay, 200) (.relay, 502)

/-- A call has failed, and so has its request. -/
theorem Settled.unanswered (settled : metrics.Settled ends) :
    ((metrics.recordRelay none).recordRequest .relay 502).Settled (ends ++ [none]) := by
  refine ⟨?_, ?_, ?_⟩
  · rw [Tally.ofList_concat, ← settled.relays]
    rfl
  · rw [List.countP_append, ← settled.brought]
    exact Tally.count_add metrics.requests (.relay, 502) (.relay, 200)
  · rw [List.count_append, ← settled.failed]
    exact Tally.count_add metrics.requests (.relay, 502) (.relay, 502)

end Metrics

/-- The work for a request is that of the endpoint at which it came. -/
def Purpose.Routed : Purpose → Prop
  | demo exchange _ => exchange.route = .demo
  | demoService exchange => exchange.route = .demoService
  | relay exchange _ => exchange.route = .relay
  | _ => True

namespace Service

/-- The counters of the service agree about the calls that have ended, those among them that brought
a status being known. -/
structure Balanced (brought : List Nat) (service : Service) : Prop where
  settled : ∃ ends, service.metrics.Settled ends ∧ ends.filterMap id = brought
  routed : ∀ task ∈ service.tasks, task.purpose.Routed

variable {deployment : Deployment} {service : Service} {brought : List Nat}

/-! ### Small changes -/

/-- All but the tasks and the counters is of no account. -/
theorem Balanced.congr (balanced : service.Balanced brought) {other : Service}
    (metrics : other.metrics = service.metrics)
    (routed : ∀ task ∈ other.tasks, task.purpose.Routed) : other.Balanced brought :=
  ⟨metrics ▸ balanced.settled, routed⟩

theorem Balanced.record (balanced : service.Balanced brought) (events : List Event) :
    (service.record events).Balanced brought := balanced.congr rfl balanced.routed

theorem Balanced.finish (balanced : service.Balanced brought) (serial : Nat) (ending : Ending) :
    (service.finish serial ending).Balanced brought := balanced.congr rfl balanced.routed

/-! ### The ends of tasks -/

theorem Balanced.answer (balanced : service.Balanced brought) (serial : Nat) {exchange : Exchange}
    {response : Http.Response} (spares : exchange.route.Spares response.status) :
    (service.answer serial exchange response).Balanced brought := by
  obtain ⟨ends, settled, known⟩ := balanced.settled
  exact ⟨⟨ends, settled.recordRequest spares, known⟩, balanced.routed⟩

theorem Balanced.refuse (balanced : service.Balanced brought) (serial : Nat) {exchange : Exchange}
    {problem : Http.Problem} (spares : exchange.route.Spares problem.status) :
    (service.refuse serial exchange problem).Balanced brought :=
  (balanced.record _).answer serial spares

/-- A request that is not for a relayed call may be answered in any way. -/
theorem spares_of_ne {route own : Http.Route} (mine : route = own) (other : own ≠ .relay)
    (status : Nat) : route.Spares status :=
  fun same => absurd (mine.symm.trans same) other

theorem Balanced.endService (balanced : service.Balanced brought) (serial : Nat)
    (policy : AbortPolicy) (isAborted : Bool) :
    (service.endService serial policy isAborted).Balanced brought := by
  unfold Service.endService
  split
  · exact balanced.finish _ _
  · exact (balanced.record _).finish _ _
  · exact balanced.finish _ _

theorem Balanced.abort (balanced : service.Balanced brought) {task : Task}
    (mine : task.purpose.Routed) : (service.abort task).Balanced brought := by
  unfold Service.abort
  split
  · exact balanced.endService _ _ _
  · exact balanced.finish _ _
  · exact balanced.refuse _ fun _ => by decide
  · rename_i same
    rw [same] at mine
    exact (balanced.record _).answer _ (spares_of_ne mine (by decide) _)
  · exact balanced.refuse _ fun _ => by decide
  · exact balanced.finish _ _
  · exact balanced.finish _ _

theorem Balanced.complete (balanced : service.Balanced brought) {task : Task}
    (mine : task.purpose.Routed) : (service.complete deployment task).Balanced brought := by
  unfold Service.complete
  dsimp only
  split
  · exact balanced.finish _ _
  · exact (balanced.record _).finish _ _
  · exact (balanced.record _).endService _ _ _
  · rename_i same
    rw [same] at mine
    exact (balanced.record _).answer _ (spares_of_ne mine (by decide) _)
  · rename_i same
    rw [same] at mine
    exact (balanced.record _).answer _ (spares_of_ne mine (by decide) _)
  · exact balanced
  · exact balanced

/-- A call that fails is counted without a status, and its request with the answer that says so. -/
theorem Balanced.failRelay (balanced : service.Balanced brought) (serial : Nat)
    {exchange : Exchange} (mine : exchange.route = .relay) (failure : CallFailure) :
    (service.failRelay deployment serial exchange failure).Balanced brought := by
  obtain ⟨ends, settled, known⟩ := balanced.settled
  refine ⟨⟨ends ++ [none], ?_, ?_⟩, balanced.routed⟩
  · show ((service.metrics.recordRelay none).recordRequest exchange.route 502).Settled _
    rw [mine]
    exact settled.unanswered
  · rw [List.filterMap_append, known]
    exact List.append_nil brought

/-- A call that brings a response is counted with its status, and its request with the answer that
passes the response on. -/
theorem Balanced.finishRelay (balanced : service.Balanced brought) (serial : Nat)
    {exchange : Exchange} (mine : exchange.route = .relay) (header : Header)
    (relayed : Relay.Relayed) :
    (service.finishRelay serial exchange header relayed).Balanced (brought ++ [relayed.status]) := by
  obtain ⟨ends, settled, known⟩ := balanced.settled
  refine ⟨⟨ends ++ [some relayed.status], ?_, ?_⟩, balanced.routed⟩
  · show ((service.metrics.recordRelay (some relayed.status)).recordRequest exchange.route
      200).Settled _
    rw [mine]
    exact settled.relayed relayed.status
  · rw [List.filterMap_append, known]
    rfl

/-! ### Whatever happens -/

/-- The counters agree about the calls however tasks end. -/
theorem keeps_balanced (deployment : Deployment) (brought : List Nat) :
    KeepsAlways deployment (fun task => task.purpose.Routed) (Balanced brought) where
  suited balanced := balanced.routed
  congr balanced _ metrics _ := balanced.congr metrics
  busy mine := mine
  complete balanced := balanced.complete
  timeout balanced _ _ := balanced.finish _ _
  failRelay balanced mine relays := by
    rw [relays] at mine
    exact balanced.failRelay _ mine
  interrupted balanced _ := balanced.record _
  abort balanced := balanced.abort

end Service

/-! ### Calls begin -/

/-- The status that a call brings, if it brings a response. -/
def Relay.Outcome.status? : Relay.Outcome → Option Nat
  | .relayed response => some response.status
  | _ => none

/-- The status that is brought by the call for which a request asks, if it asks for one and has any
time for it. A call that brings one does so at once. -/
def Start.brought? (deployment : Deployment) (backend : Backend) : Start → Option Nat
  | request asked =>
    if deployment.settings.timeouts.requestSeconds = some 0 then none
    else
      match Http.Dispatch.ofRequest asked with
      | .relay _ => (Relay.run deployment.settings.outbound backend).1.status?
      | _ => none
  | _ => none

/-- No hurdle stops a request with the status of a call that has ended. -/
theorem Http.Hurdle.spares {hurdle : Hurdle} {status : Nat} (known : status ∈ hurdle.statuses)
    (route : Route) : route.Spares status := by
  intro _
  cases hurdle <;> simp [statuses] at known <;> omega

/-- No answer that is ready at once is one to a relayed call that has ended. -/
theorem Http.Dispatch.spares_ofRequest {request : Request} {route : Route} {response : Response}
    {events : List Event} (ready : ofRequest request = .answered route response events) :
    route.Spares response.status := by
  unfold ofRequest at ready
  split at ready
  · cases ready
  · rename_i own _
    split at ready
    · by_cases work : own = .health
      · rw [work] at ready
        cases ready
        exact fun same => by cases same
      · cases first : Hurdle.firstAt? own request with
        | some stopped =>
          obtain ⟨hurdle, problem⟩ := stopped
          rw [ofRoute_of_firstAt? first] at ready
          cases ready
          exact Hurdle.spares (Hurdle.of_firstAt? first).1 route
        | none =>
          have works := works_of_firstAt? first work
          rw [ready] at works
          cases works
          exact fun same => by cases same
    · cases ready
      intro _
      simp [wrongMethod, Response.empty]

namespace Service

variable {deployment : Deployment} {service : Service} {brought : List Nat}

/-- Nothing is brought where no call brings anything. -/
theorem Balanced.unbrought (balanced : service.Balanced brought) :
    service.Balanced (brought ++ (none : Option Nat).toList) := by
  rwa [Option.toList_none, List.append_nil]

theorem Balanced.beginRelay (balanced : service.Balanced brought) (serial : Nat)
    {exchange : Exchange} (mine : exchange.route = .relay) (header : Header) :
    (service.beginRelay deployment serial exchange header).Balanced
      (brought ++ (Relay.run deployment.settings.outbound service.backend).1.status?.toList) := by
  have called (backend : Backend) (events : List Event) :
      (({ service with backend } : Service).record events).Balanced brought :=
    Balanced.congr balanced rfl balanced.routed
  unfold Service.beginRelay
  dsimp only
  cases (Relay.run deployment.settings.outbound service.backend).1 with
  | relayed relayed => exact (called _ _).finishRelay serial mine header relayed
  | failed failure => exact ((called _ _).failRelay serial mine failure).unbrought
  | pending url =>
    have keeps := (keeps_balanced deployment brought).toKeeps
    refine Balanced.unbrought (keeps.runDue (keeps.append (called _ _) ?_ _))
    exact mine

theorem Balanced.beginRequest (balanced : service.Balanced brought) (serial : Nat)
    (request : Http.Request) :
    (service.beginRequest deployment serial request).Balanced
      (brought ++ ((Start.request request).brought? deployment service.backend).toList) := by
  have logged (journal : List LogEntry) : ({ service with journal } : Service).Balanced brought :=
    balanced.congr rfl balanced.routed
  have relayed (exchange : Exchange) (mine : exchange.route = .relay) (header : Header)
      (journal : List LogEntry) :
      (({ service with journal } : Service).beginRelay deployment serial exchange header).Balanced
        (brought ++
          (Relay.run deployment.settings.outbound service.backend).1.status?.toList) :=
    (logged journal).beginRelay serial mine header
  have keeps := keeps_balanced deployment brought
  unfold Service.beginRequest Start.brought?
  dsimp only
  by_cases impatient : deployment.settings.timeouts.requestSeconds = some 0
  · rw [if_pos impatient, if_pos (deadline_spent impatient)]
    exact ((logged _).finish _ _).unbrought
  · rw [if_neg impatient, deadline_left impatient, if_neg Bool.false_ne_true]
    cases dispatched : Http.Dispatch.ofRequest request with
    | relay header => exact relayed _ rfl header _
    | unmatched response =>
      dsimp only
      exact ((logged _).finish _ _).unbrought
    | answered route response events =>
      dsimp only
      refine (Balanced.answer ((logged _).record events) serial ?_).unbrought
      exact Http.Dispatch.spares_ofRequest dispatched
    | demo header order =>
      dsimp only
      exact Balanced.unbrought (keeps.beginSleep ((logged _).record _) fun _ => rfl)
    | demoService order =>
      dsimp only
      exact Balanced.unbrought (keeps.beginSleep (logged _) fun _ => rfl)

/-- Whatever begins, the counters agree about the calls. -/
theorem Balanced.begin (balanced : service.Balanced brought) (deployment : Deployment)
    (start : Start) :
    (service.begin deployment start).Balanced
      (brought ++ (start.brought? deployment service.backend).toList) := by
  have enrolled : service.enroll.Balanced brought := balanced.congr rfl balanced.routed
  have keeps := keeps_balanced deployment brought
  cases start with
  | request request => exact enrolled.beginRequest _ request
  | delay delaySeconds =>
    exact Balanced.unbrought (keeps.beginSleep enrolled fun _ => trivial)
  | operation delaySeconds rounds =>
    exact Balanced.unbrought (keeps.beginSleep enrolled fun _ => trivial)
  | service policy delaySeconds =>
    exact Balanced.unbrought (keeps.beginSleep enrolled fun _ => trivial)
  | wait => exact Balanced.unbrought (keeps.beginWait enrolled fun _ => trivial)

end Service

/-! ### What calls meet -/

/-- A whole response with a status. -/
def BackendReply.Brings (status : Nat) (reply : BackendReply) : Prop :=
  ∃ headers body, reply = .response status headers body false

theorem Backend.nextReply_mem {backend : Backend} {reply : BackendReply}
    (next : backend.nextReply = reply) (answered : reply ≠ .broken) : reply ∈ backend.replies := by
  unfold nextReply at next
  cases replies : backend.replies with
  | nil =>
    rw [replies] at next
    exact absurd next.symm answered
  | cons first rest =>
    rw [replies] at next
    exact next ▸ List.mem_cons_self

theorem Backend.replies_afterConnection (backend : Backend) (transmission : Transmission) :
    (backend.afterConnection transmission).replies ⊆ backend.replies := by
  unfold afterConnection
  dsimp only
  split
  · exact List.Subset.refl _
  · exact List.drop_subset 1 _

namespace Call

/-- The call gets to the service. -/
def Reaches (call : Call) (backend : Backend) : Prop :=
  isCallable call.url = true ∧ backend.accepts call.url = true

/-- A call makes no connection, or one that brings what it brings, or one and then whatever a
redirect asks for. -/
theorem run_cases (backend : Backend) (call : Call) (redirects : Nat) :
    (¬call.Reaches backend ∧
        ∃ failure, call.run backend (redirects + 1) = (.failed failure, backend)) ∨
      (call.Reaches backend ∧ ∃ result,
        call.run backend (redirects + 1) = (result, backend.afterConnection call.transmission) ∧
          ∀ url status headers body, result = .response url status headers body →
            backend.nextReply = .response status headers body false) ∨
      (call.Reaches backend ∧ ∃ status headers body isCutOff url,
        backend.nextReply = .response status headers body isCutOff ∧
          location? call status headers = some url ∧
          call.run backend (redirects + 1) =
            run (backend.afterConnection call.transmission) (redirected call status url)
              redirects) := by
  rw [run]
  split
  · rename_i unusable
    rw [Bool.not_eq_true'] at unusable
    exact .inl ⟨fun reaches => Bool.false_ne_true (unusable.symm.trans reaches.1), _, rfl⟩
  rename_i usable
  rw [Bool.not_eq_true, Bool.not_eq_false'] at usable
  split
  · rename_i elsewhere
    rw [Bool.not_eq_true'] at elsewhere
    exact .inl ⟨fun reaches => Bool.false_ne_true (elsewhere.symm.trans reaches.2), _, rfl⟩
  rename_i here
  rw [Bool.not_eq_true, Bool.not_eq_false'] at here
  have reaches : call.Reaches backend := ⟨usable, here⟩
  refine .inr ?_
  dsimp only
  split
  · exact .inl ⟨reaches, _, rfl, fun _ _ _ _ brings => by cases brings⟩
  · exact .inl ⟨reaches, _, rfl, fun _ _ _ _ brings => by cases brings⟩
  · rename_i status headers body isCutOff next
    split
    · rename_i url sent
      exact .inr ⟨reaches, status, headers, body, isCutOff, url, next, sent, rfl⟩
    · split
      · exact .inl ⟨reaches, _, rfl, fun _ _ _ _ brings => by cases brings⟩
      · rename_i whole
        refine .inl ⟨reaches, _, rfl, fun _ _ _ _ brings => ?_⟩
        cases brings
        rw [next, Bool.eq_false_iff.2 whole]

/-- What every connection keeps is kept by a call, whatever redirects it follows. -/
theorem run_induction (property : Backend → Prop)
    (kept : ∀ (backend : Backend) (call : Call), property backend →
      property (backend.afterConnection call.transmission))
    {backend : Backend} (holds : property backend) (call : Call) (redirects : Nat) :
    property (call.run backend redirects).2 := by
  induction redirects generalizing backend call with
  | zero => exact holds
  | succ redirects inductionHypothesis =>
    rcases run_cases backend call redirects with ⟨-, _, same⟩ | ⟨-, _, same, -⟩ |
      ⟨-, status, -, -, -, url, -, -, same⟩
    · rwa [same]
    · rw [same]
      exact kept backend call holds
    · rw [same]
      exact inductionHypothesis (kept backend call holds) _

/-- No replies are left behind a call but those that were there before it. -/
theorem replies_run_subset (backend : Backend) (call : Call) (redirects : Nat) :
    (call.run backend redirects).2.replies ⊆ backend.replies :=
  run_induction (fun left => left.replies ⊆ backend.replies)
    (fun left call among =>
      List.Subset.trans (left.replies_afterConnection call.transmission) among)
    (List.Subset.refl _) call redirects

/-- A call brings the status of a whole response. -/
theorem response_run {backend : Backend} {call : Call} {redirects : Nat} {url : Url}
    {status : Nat} {headers : List (String × Octets)} {body : Octets}
    (brings : (call.run backend redirects).1 = .response url status headers body) :
    .response status headers body false ∈ backend.replies := by
  induction redirects generalizing backend call with
  | zero => cases brings
  | succ redirects inductionHypothesis =>
    rcases run_cases backend call redirects with ⟨-, failure, same⟩ | ⟨-, result, same, whole⟩ |
      ⟨-, _, -, -, -, _, -, -, same⟩
    · rw [same] at brings
      cases brings
    · rw [same] at brings
      exact Backend.nextReply_mem (whole _ _ _ _ brings) BackendReply.noConfusion
    · rw [same] at brings
      exact backend.replies_afterConnection call.transmission (inductionHypothesis brings)

end Call

theorem Relay.replies_run (settings : OutboundSettings) (backend : Backend) :
    (run settings backend).2.replies ⊆ backend.replies ∧
      ∀ status ∈ (run settings backend).1.status?, ∃ reply ∈ backend.replies,
        reply.Brings status := by
  unfold run
  split
  · exact ⟨List.Subset.refl _, fun _ brings => by cases brings⟩
  · rename_i url _
    have left := Call.replies_run_subset backend (Call.post url) (Call.redirectLimit + 1)
    split
    · rename_i result
      rw [result] at left
      refine ⟨left, fun status brings => ?_⟩
      cases brings
      exact ⟨_, Call.response_run (congrArg Prod.fst result), _, _, rfl⟩
    · rename_i result
      rw [result] at left
      exact ⟨left, fun _ brings => by cases brings⟩
    · rename_i result
      rw [result] at left
      exact ⟨left, fun _ brings => by cases brings⟩

/-- What begins brings no status but that of a whole response. -/
theorem Start.brings_of_brought? {deployment : Deployment} {backend : Backend} {start : Start}
    {status : Nat} (brings : status ∈ start.brought? deployment backend) :
    ∃ reply ∈ backend.replies, reply.Brings status := by
  unfold brought? at brings
  split at brings
  · split at brings
    · cases brings
    · split at brings
      · exact (Relay.replies_run deployment.settings.outbound backend).2 status brings
      · cases brings
  · cases brings

theorem Service.replies_backendAfter (deployment : Deployment) (service : Service)
    (start : Start) :
    (service.backendAfter deployment start).replies ⊆ service.backend.replies := by
  unfold backendAfter
  split
  · split
    · exact List.Subset.refl _
    · split
      · exact (Relay.replies_run deployment.settings.outbound service.backend).1
      · exact List.Subset.refl _
  · exact List.Subset.refl _

/-! ### Calls in a run -/

namespace Scene

variable {deployment : Deployment} {scene : Scene} {past : List Nat}

/-- The status that the call of an action brings, if the action begins one that does. -/
def brought? (deployment : Deployment) (scene : Scene) (action : Action) : Option Nat :=
  action.start?.bind fun named => named.2.brought? deployment scene.service.backend

/-- The statuses that the calls of a run bring, in their order. -/
def brought (deployment : Deployment) (scene : Scene) : List Action → List Nat
  | [] => []
  | action :: rest =>
    (scene.brought? deployment action).toList ++
      brought deployment (scene.step deployment action).2 rest

/-- After a step the counters agree about the calls. -/
theorem Sound.balanced_step (sound : scene.Sound) (deployment : Deployment)
    (balanced : scene.service.Balanced past) (action : Action) :
    (scene.step deployment action).2.service.Balanced
      (past ++ (scene.brought? deployment action).toList) := by
  have quiet : scene.quiet.service.Balanced past := balanced.congr rfl balanced.routed
  have undergone : (scene.undergone deployment action).Balanced past :=
    (Service.keeps_balanced deployment past).undergo quiet _
  rcases service_step deployment scene action with ⟨named, starts, same⟩ | ⟨starts, _, -, same⟩
  · have begun := undergone.begin deployment named.2
    rw [Scene.undergone, sound.quiet.service.backend_undergo] at begun
    rw [same, brought?, starts]
    exact begun
  · rw [same, brought?, starts]
    refine Service.Balanced.unbrought ?_
    exact undergone.congr rfl undergone.routed

/-- No replies are left behind a step but those that were there before it. -/
theorem Sound.replies_step (sound : scene.Sound) (deployment : Deployment) (action : Action) :
    (scene.step deployment action).2.service.backend.replies ⊆ scene.service.backend.replies := by
  obtain ⟨service, same, changes⟩ := sound.backend_step deployment action
  rw [changes, ← same]
  cases action.start? with
  | none => exact List.Subset.refl _
  | some named => exact Service.replies_backendAfter deployment service named.2

/-- After a run the counters agree about its calls. -/
theorem Sound.balanced_after (sound : scene.Sound) (deployment : Deployment)
    (balanced : scene.service.Balanced past) (actions : List Action) :
    (scene.after deployment actions).service.Balanced
      (past ++ scene.brought deployment actions) := by
  induction actions generalizing scene past with
  | nil =>
    rw [brought, List.append_nil]
    exact balanced
  | cons action rest inductionHypothesis =>
    rw [brought, ← List.append_assoc]
    exact inductionHypothesis (sound.step deployment action)
      (sound.balanced_step deployment balanced action)

/-- The calls of a run bring the statuses of whole responses. -/
theorem Sound.brings (sound : scene.Sound) (deployment : Deployment) {actions : List Action}
    {status : Nat} (member : status ∈ scene.brought deployment actions) :
    ∃ reply ∈ scene.service.backend.replies, reply.Brings status := by
  induction actions generalizing scene with
  | nil => cases member
  | cons action rest inductionHypothesis =>
    rw [brought] at member
    rcases List.mem_append.1 member with now | later
    · obtain ⟨named, -, brings⟩ := Option.mem_bind_iff.1 (Option.mem_toList.1 now)
      exact Start.brings_of_brought? brings
    · obtain ⟨reply, left, brings⟩ := inductionHypothesis (sound.step deployment action) later
      exact ⟨reply, sound.replies_step deployment action left, brings⟩

end Scene

/-! ### Calls of requests one after the other -/

namespace Service

variable {deployment : Deployment} {service : Service} {past : List Nat} {held : Nat}

/-- The statuses that the calls bring for which requests ask that are served one after the other. -/
def brought (deployment : Deployment) (service : Service) : List (Bool × Http.Request) → List Nat
  | [] => []
  | (triggers, request) :: rest =>
    ((Start.request request).brought? deployment service.backend).toList ++
      brought deployment ((service.readied triggers).serve deployment request).2 rest

/-- The counters of a service that has served a request agree about the calls. -/
theorem Balanced.served (balanced : service.Balanced past) (deployment : Deployment)
    (request : Http.Request) :
    (service.served deployment request).Balanced
      (past ++ ((Start.request request).brought? deployment service.backend).toList) := by
  have forgetful : ({ service with ended := [] } : Service).Balanced past :=
    balanced.congr rfl balanced.routed
  have asked : (service.asked deployment request).Balanced
      (past ++ ((Start.request request).brought? deployment service.backend).toList) :=
    forgetful.begin deployment (.request request)
  unfold Service.served waitFor
  rw [passTime_eq_undergo]
  exact (keeps_balanced deployment _).undergo asked _

/-- The counters of a service that serves requests one after the other agree about the calls, and
the calls bring the statuses of whole responses. -/
theorem Sound.balanced_serveAll (sound : service.Sound held) (prompt : service.Prompt)
    (rests : service.Rests) (deployment : Deployment) (balanced : service.Balanced past)
    (requests : List (Bool × Http.Request)) :
    (service.serveAll deployment requests).2.Balanced
        (past ++ service.brought deployment requests) ∧
      ∀ status ∈ service.brought deployment requests,
        ∃ reply ∈ service.backend.replies, reply.Brings status := by
  induction requests generalizing service past with
  | nil =>
    rw [brought, List.append_nil]
    exact ⟨balanced, fun status member => by cases member⟩
  | cons asked rest inductionHypothesis =>
    obtain ⟨triggers, request⟩ := asked
    obtain ⟨shutdown, readied, -, served⟩ :=
      sound.serve_readied prompt rests deployment triggers request
    have counted : ({ service with shutdown } : Service).Balanced past :=
      balanced.congr rfl balanced.routed
    obtain ⟨balance, brings⟩ := inductionHypothesis served.sound served.prompt served.rests
      (counted.served deployment request)
    rw [serveAll_cons, brought, readied, serve_eq, ← List.append_assoc]
    refine ⟨balance, fun status member => ?_⟩
    rcases List.mem_append.1 member with now | later
    · exact Start.brings_of_brought? (Option.mem_toList.1 now)
    · obtain ⟨reply, left, brings⟩ := brings status later
      rw [served.backend] at left
      have among := replies_backendAfter deployment { service with shutdown } (.request request)
      exact ⟨reply, among left, brings⟩

end Service

/-! ### The counters agree -/

/-- The counter of calls and that of requests agree, about calls that brought certain statuses and
about answers that were given. -/
structure Metrics.Agree (brought : List Nat) (answers : List (Http.Route × Nat))
    (metrics : Metrics) : Prop where
  relayed : metrics.relays.total Option.isSome = metrics.requests.count (.relay, 200)
  failed : metrics.relays.count none = metrics.requests.count (.relay, 502)
  statuses : ∀ status, metrics.relays.count (some status) = brought.count status
  answered : ∀ status, metrics.requests.count (.relay, status) = answers.count (.relay, status)

theorem Service.Balanced.agree {service : Service} {brought : List Nat}
    (balanced : service.Balanced brought) {answers : List (Http.Route × Nat)}
    (tally : service.metrics.TallyOf answers) : service.metrics.Agree brought answers := by
  obtain ⟨ends, settled, rfl⟩ := balanced.settled
  refine ⟨?_, ?_, fun status => ?_, fun status => ?_⟩
  · rw [settled.relays, Tally.total_ofList, settled.brought]
  · rw [settled.relays, Tally.count_ofList, settled.failed]
  · rw [settled.relays, Tally.count_ofList, List.count_filterMap]
    rfl
  · rw [tally.requests, Tally.count_ofList]

/-- At any time in any run, be it a scene or requests that are served one after the other, the
counter of relayed calls agrees with that of requests: as many calls are counted under a status as
answers that pass a response on, and as many without one as answers that say that a call failed.
Those answers are the ones that were given. Under each status stand the calls that brought it, each
of them a whole response of the network; a body that is cut off brings none. -/
theorem relays_conserved :
    (∀ deployment backend actions,
      let first := Scene.start deployment backend
      (first.after deployment actions).service.metrics.Agree (first.brought deployment actions)
          (Scene.answers deployment backend actions) ∧
        ∀ status ∈ first.brought deployment actions,
          ∃ reply ∈ backend.replies, reply.Brings status) ∧
    ∀ deployment backend requests,
      let first := Service.start deployment backend
      let served := first.serveAll deployment requests
      served.2.metrics.Agree (first.brought deployment requests)
          (Service.answersTo requests served.1) ∧
        ∀ status ∈ first.brought deployment requests,
          ∃ reply ∈ backend.replies, reply.Brings status := by
  have initial (deployment : Deployment) (backend : Backend) :
      (Service.start deployment backend).Balanced [] :=
    ⟨⟨[], ⟨rfl, rfl, rfl⟩, rfl⟩, List.forall_mem_nil _⟩
  refine ⟨fun deployment backend actions => ?_, fun deployment backend requests => ?_⟩
  · have sound := Scene.sound_start deployment backend
    have balanced := sound.balanced_after deployment (initial deployment backend) actions
    exact ⟨balanced.agree (Scene.tally_after deployment backend actions).1,
      fun status member => sound.brings deployment member⟩
  · have start := Scene.sound_start deployment backend
    have rests : (Service.start deployment backend).Rests := List.forall_mem_nil _
    obtain ⟨balanced, brings⟩ := start.service.balanced_serveAll start.prompt rests deployment
      (initial deployment backend) requests
    exact ⟨balanced.agree (Service.tally_served deployment backend requests).1, brings⟩

end LatencyService
