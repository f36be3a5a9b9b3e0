/-
What the counters count. An answer is counted under its endpoint and its
status in the same moment in which it is given, unless no endpoint was found
or the request took too long. So at any time the counters are the tally of the
answers that have been given by then, one after the other. This file shows it
of everything that can happen to the service and of every task that can begin.
The endpoint of a request is told by its path alone, whatever becomes of it.
-/

import LatencyService.Proofs.Answer
import LatencyService.Proofs.Keeping
import Mathlib.Data.List.Induction

namespace LatencyService

/-! ### Tallies -/

namespace Tally

variable {Key : Type} [DecidableEq Key]

/-- The tally of keys that are counted one after the other. -/
def ofList (keys : List Key) : Tally Key := keys.foldl add {}

theorem ofList_concat (keys : List Key) (key : Key) :
    ofList (keys ++ [key]) = (ofList keys).add key := by
  rw [ofList, List.foldl_append]
  rfl

theorem count_ofList [BEq Key] [LawfulBEq Key] (keys : List Key) (key : Key) :
    (ofList keys).count key = keys.count key := by
  induction keys using List.reverseRecOn with
  | nil => rfl
  | append_singleton keys last inductionHypothesis =>
    rw [ofList_concat, count_add, inductionHypothesis, List.count_append, List.count_singleton]
    by_cases same : key = last
    · rw [if_pos same, same, if_pos (beq_self_eq_true last)]
    · rw [if_neg same, if_neg fun equal => same (beq_iff_eq.1 equal).symm]

/-- The keys of the entries when one more is counted: a new one stands behind the others. -/
theorem keys_increment (key : Key) (entries : List (Key × Nat)) :
    (increment key entries).map Prod.fst =
      if key ∈ entries.map Prod.fst then entries.map Prod.fst
      else entries.map Prod.fst ++ [key] := by
  induction entries with
  | nil => rfl
  | cons entry rest inductionHypothesis =>
    obtain ⟨first, times⟩ := entry
    rw [increment]
    by_cases same : first = key
    · have known : key ∈ ((first, times) :: rest).map Prod.fst := same ▸ List.mem_cons_self
      rw [if_pos same, if_pos known]
      rfl
    · rw [if_neg same, List.map_cons, inductionHypothesis]
      by_cases known : key ∈ rest.map Prod.fst
      · have still : key ∈ ((first, times) :: rest).map Prod.fst :=
          List.mem_cons_of_mem _ known
        rw [if_pos known, if_pos still]
        rfl
      · have new : key ∉ ((first, times) :: rest).map Prod.fst := fun member =>
          (List.mem_cons.1 member).elim (fun equal => same equal.symm) known
        rw [if_neg known, if_neg new]
        rfl

/-- No key has two entries. -/
theorem nodup_ofList (keys : List Key) : ((ofList keys).entries.map Prod.fst).Nodup := by
  induction keys using List.reverseRecOn with
  | nil => exact List.nodup_nil
  | append_singleton keys last inductionHypothesis =>
    rw [ofList_concat, add, keys_increment]
    by_cases known : last ∈ (ofList keys).entries.map Prod.fst
    · rw [if_pos known]
      exact inductionHypothesis
    · rw [if_neg known]
      refine List.nodup_append.2 ⟨inductionHypothesis, List.nodup_singleton _, ?_⟩
      intro other among new member same
      rw [same, List.mem_singleton.1 member] at among
      exact known among

/-- An entry shows how often its key was counted. -/
theorem count_of_mem {tally : Tally Key} (distinct : (tally.entries.map Prod.fst).Nodup)
    {key : Key} {times : Nat} (member : (key, times) ∈ tally.entries) :
    tally.count key = times := by
  obtain ⟨entries⟩ := tally
  obtain ⟨before, after, parts⟩ := List.append_of_mem member
  have split : entries = before ++ (key, times) :: after := parts
  have others : before.find? (fun entry => decide (entry.1 = key)) = none := by
    refine List.find?_eq_none.2 fun entry among => ?_
    rw [decide_eq_true_iff]
    intro same
    rw [split, List.map_append, List.map_cons, List.nodup_middle, List.nodup_cons] at distinct
    exact distinct.1 (List.mem_append_left _ (List.mem_map.2 ⟨entry, among, same⟩))
  rw [count, split, List.find?_append, others, Option.none_or, List.find?_cons_of_pos]
  · rfl
  · exact decide_eq_true rfl

end Tally

/-! ### What is counted -/

/-- What is counted when a response is given to a request that was for an endpoint, if it was: the
endpoint and the status, but nothing for a request that took too long. -/
def Http.countKey? (route? : Option Http.Route) (response : Http.Response) :
    Option (Http.Route × Nat) :=
  if response.status = timeoutStatus then none else route?.map (·, response.status)

/-- What is counted when a task ends, where the endpoints of requests are known by their numbers. -/
def Completion.countKey? (routeOf : Nat → Option Http.Route) (completion : Completion) :
    Option (Http.Route × Nat) :=
  match completion.ending with
  | .answered response => Http.countKey? (routeOf completion.serial) response
  | _ => none

/-- The counters of answered requests are the tally of some answers. -/
structure Metrics.TallyOf (answers : List (Http.Route × Nat)) (metrics : Metrics) : Prop where
  requests : metrics.requests = .ofList answers
  durations : metrics.durations = .ofList (answers.map Prod.fst)

theorem Metrics.TallyOf.recordRequest {answers : List (Http.Route × Nat)} {metrics : Metrics}
    (tally : metrics.TallyOf answers) (route : Http.Route) (status : Nat) :
    (metrics.recordRequest route status).TallyOf (answers ++ [(route, status)]) := by
  refine ⟨?_, ?_⟩
  · rw [Tally.ofList_concat, ← tally.requests]
    rfl
  · rw [List.map_append, List.map_singleton, Tally.ofList_concat, ← tally.durations]
    rfl

/-- A response has the status of a request that took too long only if it is the answer to one. -/
def Http.Response.Telling (response : Http.Response) : Prop :=
  response.status = Http.timeoutStatus →
    ∃ isHead identifier, response = Service.sealResponse isHead identifier Service.timedOut

/-- The endpoint for which a task has to find an answer. -/
def Purpose.route? (purpose : Purpose) : Option Http.Route := purpose.exchange?.map Exchange.route

namespace Service

/-- What the counters of the service have to do with what has ended: `past` is what had ended when
that was last asked, in the order of ending. -/
structure Tallied (routeOf : Nat → Option Http.Route) (past : List Completion)
    (service : Service) : Prop where
  tally : service.metrics.TallyOf
    ((past ++ service.ended.reverse).filterMap (Completion.countKey? routeOf))
  telling : ∀ completion ∈ past ++ service.ended.reverse, ∀ response,
    completion.ending = .answered response → response.Telling
  routed : ∀ task ∈ service.tasks, routeOf task.serial = task.purpose.route?

variable {deployment : Deployment} {service : Service} {routeOf : Nat → Option Http.Route}
  {past : List Completion}

/-! ### Small changes -/

/-- All but the tasks, the counters and what has ended is of no account. -/
theorem Tallied.congr (tallied : service.Tallied routeOf past) {other : Service}
    (requests : other.metrics.requests = service.metrics.requests)
    (durations : other.metrics.durations = service.metrics.durations)
    (ended : other.ended = service.ended)
    (routed : ∀ task ∈ other.tasks, routeOf task.serial = task.purpose.route?) :
    other.Tallied routeOf past := by
  refine ⟨⟨?_, ?_⟩, ?_, routed⟩
  · rw [requests, ended, tallied.tally.requests]
  · rw [durations, ended, tallied.tally.durations]
  · rw [ended]
    exact tallied.telling

theorem Tallied.record (tallied : service.Tallied routeOf past) (events : List Event) :
    (service.record events).Tallied routeOf past := tallied.congr rfl rfl rfl tallied.routed

/-- Relayed calls are counted by themselves. -/
theorem Tallied.recordRelay (tallied : service.Tallied routeOf past) (status : Option Nat) :
    ({ service with metrics := service.metrics.recordRelay status } : Service).Tallied routeOf
      past := tallied.congr rfl rfl rfl tallied.routed

/-- What has ended is asked for, and told no more. -/
theorem Tallied.forget (tallied : service.Tallied routeOf past) :
    ({ service with ended := [] } : Service).Tallied routeOf (past ++ service.ended.reverse) := by
  have told : (past ++ service.ended.reverse) ++ [].reverse = past ++ service.ended.reverse :=
    List.append_nil _
  refine ⟨?_, ?_, tallied.routed⟩
  · rw [told]
    exact tallied.tally
  · rw [told]
    exact tallied.telling

/-! ### A task ends -/

theorem telling_concat {ended : List Completion}
    (telling : ∀ completion ∈ past ++ ended.reverse, ∀ response,
      completion.ending = .answered response → response.Telling)
    {completion : Completion} (mine : ∀ response, completion.ending = .answered response →
      response.Telling) :
    ∀ other ∈ past ++ (completion :: ended).reverse, ∀ response,
      other.ending = .answered response → response.Telling := by
  intro other member
  rw [List.reverse_cons, ← List.append_assoc] at member
  rcases List.mem_append.1 member with old | new
  · exact telling other old
  · rw [List.mem_singleton.1 new]
    exact mine

/-- A task ends with something that is not counted. -/
theorem Tallied.finish (tallied : service.Tallied routeOf past) {serial : Nat} {ending : Ending}
    (uncounted : Completion.countKey? routeOf ⟨serial, service.now, ending⟩ = none)
    (telling : ∀ response, ending = .answered response → response.Telling) :
    (service.finish serial ending).Tallied routeOf past := by
  have answers : (past ++ (service.finish serial ending).ended.reverse).filterMap
      (Completion.countKey? routeOf) =
        (past ++ service.ended.reverse).filterMap (Completion.countKey? routeOf) := by
    show (past ++ (_ :: service.ended).reverse).filterMap _ = _
    rw [List.reverse_cons, ← List.append_assoc, List.filterMap_append,
      List.filterMap_cons_none uncounted, List.filterMap_nil, List.append_nil]
  refine ⟨?_, telling_concat tallied.telling telling, tallied.routed⟩
  rw [answers]
  exact tallied.tally

/-- A task ends that is no request. -/
theorem Tallied.finish_other (tallied : service.Tallied routeOf past) {serial : Nat}
    {ending : Ending} (other : ∀ response, ending ≠ .answered response) :
    (service.finish serial ending).Tallied routeOf past := by
  refine tallied.finish ?_ fun response same => absurd same (other response)
  unfold Completion.countKey?
  cases ending with
  | answered response => exact absurd rfl (other response)
  | _ => rfl

/-- A request is answered that took too long. -/
theorem Tallied.finish_timedOut (tallied : service.Tallied routeOf past) (serial : Nat)
    (isHead : Bool) (identifier : Octets) :
    (service.finish serial (.answered (sealResponse isHead identifier timedOut))).Tallied routeOf
      past := by
  refine tallied.finish ?_ ?_
  · have late : (sealResponse isHead identifier timedOut).status = Http.timeoutStatus :=
      status_sealResponse isHead identifier timedOut
    exact if_pos late
  · rintro response ⟨⟩ -
    exact ⟨isHead, identifier, rfl⟩

/-- A request is answered that was for an endpoint. -/
theorem Tallied.answer (tallied : service.Tallied routeOf past) {serial : Nat}
    {exchange : Exchange} {response : Http.Response}
    (found : routeOf serial = some exchange.route)
    (timely : response.status ≠ Http.timeoutStatus) :
    (service.answer serial exchange response).Tallied routeOf past := by
  have status := status_sealResponse exchange.isHead exchange.identifier response
  have counted : Completion.countKey? routeOf ⟨serial, service.now, exchange.answer response⟩ =
      some (exchange.route, response.status) := by
    show Http.countKey? (routeOf serial) (sealResponse exchange.isHead exchange.identifier
      response) = _
    rw [Http.countKey?, found, status, if_neg timely]
    rfl
  have answers : (past ++ (service.answer serial exchange response).ended.reverse).filterMap
      (Completion.countKey? routeOf) =
        (past ++ service.ended.reverse).filterMap (Completion.countKey? routeOf) ++
          [(exchange.route, response.status)] := by
    show (past ++ (_ :: service.ended).reverse).filterMap _ = _
    rw [List.reverse_cons, ← List.append_assoc, List.filterMap_append]
    exact congrArg _ (List.filterMap_cons_some counted)
  refine ⟨?_, telling_concat tallied.telling ?_, tallied.routed⟩
  · rw [answers]
    exact tallied.tally.recordRequest exchange.route response.status
  · rintro other ⟨⟩ late
    exact absurd (status ▸ late) timely

theorem Tallied.refuse (tallied : service.Tallied routeOf past) {serial : Nat}
    {exchange : Exchange} {problem : Http.Problem}
    (found : routeOf serial = some exchange.route)
    (timely : problem.status ≠ Http.timeoutStatus) :
    (service.refuse serial exchange problem).Tallied routeOf past :=
  (tallied.record _).answer found timely

/-! ### The ends of tasks -/

theorem Tallied.endService (tallied : service.Tallied routeOf past) (serial : Nat)
    (policy : AbortPolicy) (isAborted : Bool) :
    (service.endService serial policy isAborted).Tallied routeOf past := by
  unfold Service.endService
  split
  · exact tallied.finish_other nofun
  · exact (tallied.record _).finish_other nofun
  · exact tallied.finish_other nofun

theorem Tallied.abort (tallied : service.Tallied routeOf past) {task : Task}
    (mine : routeOf task.serial = task.purpose.route?) :
    (service.abort task).Tallied routeOf past := by
  unfold Service.abort
  split
  · exact tallied.endService _ _ _
  · exact tallied.finish_other (fun _ => Ending.noConfusion)
  · rename_i same
    rw [same] at mine
    exact tallied.refuse mine (by decide)
  · rename_i same
    rw [same] at mine
    exact (tallied.record _).answer mine (by simp [Http.Response.json, Http.timeoutStatus])
  · rename_i same
    rw [same] at mine
    exact tallied.refuse mine (by decide)
  · exact tallied.finish_other (fun _ => Ending.noConfusion)
  · exact tallied.finish_other (fun _ => Ending.noConfusion)

theorem Tallied.complete (tallied : service.Tallied routeOf past) {task : Task}
    (mine : routeOf task.serial = task.purpose.route?) :
    (service.complete deployment task).Tallied routeOf past := by
  unfold Service.complete
  dsimp only
  split
  · exact tallied.finish_other nofun
  · exact (tallied.record _).finish_other nofun
  · exact (tallied.record _).endService _ _ _
  · rename_i same
    rw [same] at mine
    exact (tallied.record _).answer mine (by simp [Http.Response.json, Http.timeoutStatus])
  · rename_i same
    rw [same] at mine
    exact (tallied.record _).answer mine (by simp [Http.Response.json, Http.timeoutStatus])
  · exact tallied
  · exact tallied

theorem Tallied.failRelay (tallied : service.Tallied routeOf past) {serial : Nat}
    {exchange : Exchange} (found : routeOf serial = some exchange.route)
    (failure : CallFailure) :
    (service.failRelay deployment serial exchange failure).Tallied routeOf past := by
  have recorded := (tallied.record
    [Relay.eventAfterFailure deployment.settings.outbound failure]).recordRelay none
  refine recorded.refuse found ?_
  simp [Relay.problemOf, Http.Problem.status, Http.timeoutStatus]

theorem Tallied.finishRelay (tallied : service.Tallied routeOf past) {serial : Nat}
    {exchange : Exchange} (found : routeOf serial = some exchange.route) (header : Header)
    (relayed : Relay.Relayed) :
    (service.finishRelay serial exchange header relayed).Tallied routeOf past := by
  have recorded := (tallied.record (Relay.eventsAfter relayed)).recordRelay (some relayed.status)
  refine recorded.answer found ?_
  simp [Http.Response.json, Http.timeoutStatus]

/-! ### Whatever happens -/

/-- The counters stay the tally of the answers however tasks end. -/
theorem keeps_tallied (deployment : Deployment) (routeOf : Nat → Option Http.Route)
    (past : List Completion) :
    KeepsAlways deployment (fun task => routeOf task.serial = task.purpose.route?)
      (Tallied routeOf past) where
  suited tallied := tallied.routed
  congr tallied _ metrics ended :=
    tallied.congr (congrArg _ metrics) (congrArg _ metrics) ended
  busy mine := mine
  complete tallied := tallied.complete
  timeout tallied _ _ := tallied.finish_timedOut _ _ _
  failRelay tallied mine relays := by
    rw [relays] at mine
    exact tallied.failRelay mine
  interrupted tallied _ := tallied.record _
  abort tallied := tallied.abort

end Service

/-! ### Tasks begin -/

/-- The endpoint whose answer is asked for. -/
def Http.Dispatch.route? : Http.Dispatch → Option Http.Route
  | unmatched _ => none
  | answered route .. => some route
  | demo .. => some .demo
  | demoService _ => some .demoService
  | relay _ => some .relay

/-- What a request asks for is asked of the endpoint at its path, if there is one. -/
theorem Http.Dispatch.route?_ofRequest (request : Http.Request) :
    (ofRequest request).route? = Http.Route.ofPath? request.path := by
  have asked (route : Http.Route) : (ofRoute route request).route? = some route := by
    cases route with
    | health => rfl
    | _ =>
      simp only [ofRoute]
      split <;> rfl
  unfold ofRequest
  split
  · rename_i absent
    rw [absent]
    rfl
  · rename_i route found
    rw [found]
    split
    · exact asked route
    · rfl

/-- The endpoint for which something is begun: that at the path, for a request. -/
def Start.route? : Start → Option Http.Route
  | .request asked => Http.Route.ofPath? asked.path
  | _ => none

namespace Service

variable {deployment : Deployment} {service : Service} {routeOf : Nat → Option Http.Route}
  {past : List Completion}

theorem Tallied.beginRelay (tallied : service.Tallied routeOf past) {serial : Nat}
    {exchange : Exchange} (found : routeOf serial = some exchange.route) (header : Header) :
    (service.beginRelay deployment serial exchange header).Tallied routeOf past := by
  have called (backend : Backend) (events : List Event) :
      (({ service with backend } : Service).record events).Tallied routeOf past :=
    Tallied.congr tallied rfl rfl rfl tallied.routed
  unfold Service.beginRelay
  dsimp only
  split
  · exact (called _ _).finishRelay found header _
  · exact (called _ _).failRelay found _
  · have keeps := (keeps_tallied deployment routeOf past).toKeeps
    exact keeps.runDue (keeps.append (called _ _) found _)

theorem Tallied.beginRequest (tallied : service.Tallied routeOf past) {serial : Nat}
    {request : Http.Request} (mine : routeOf serial = Http.Route.ofPath? request.path) :
    (service.beginRequest deployment serial request).Tallied routeOf past := by
  have logged (journal : List LogEntry) :
      ({ service with journal } : Service).Tallied routeOf past :=
    tallied.congr rfl rfl rfl tallied.routed
  have keeps := keeps_tallied deployment routeOf past
  rw [← Http.Dispatch.route?_ofRequest] at mine
  unfold Service.beginRequest
  dsimp only
  split
  · exact (logged _).finish_timedOut _ _ _
  · have timely {response : Http.Response}
        (answered : (Http.Dispatch.ofRequest request).response? = some response) :=
      Http.Dispatch.status_ofRequest answered
    cases dispatched : Http.Dispatch.ofRequest request with
    | unmatched response =>
      rw [dispatched] at mine timely
      have status := timely rfl
      refine (logged _).finish ?_ ?_
      · show Http.countKey? (routeOf serial) _ = none
        rw [mine, Http.countKey?]
        split <;> rfl
      · rintro other ⟨⟩ late
        rw [status_sealResponse] at late
        exact absurd late status
    | answered route response events =>
      rw [dispatched] at mine timely
      exact ((logged _).record _).answer mine (timely rfl)
    | demo header order =>
      rw [dispatched] at mine
      exact keeps.beginSleep ((logged _).record _) fun _ => mine
    | demoService order =>
      rw [dispatched] at mine
      exact keeps.beginSleep (logged _) fun _ => mine
    | relay header =>
      rw [dispatched] at mine
      exact (logged _).beginRelay mine header

/-- Whatever begins, the counters stay the tally of the answers. -/
theorem Tallied.begin (tallied : service.Tallied routeOf past) (deployment : Deployment)
    {start : Start} (mine : routeOf service.begun = start.route?) :
    (service.begin deployment start).Tallied routeOf past := by
  have enrolled : service.enroll.Tallied routeOf past := tallied.congr rfl rfl rfl tallied.routed
  have keeps := keeps_tallied deployment routeOf past
  cases start with
  | delay delaySeconds => exact keeps.beginSleep enrolled fun _ => mine
  | operation delaySeconds rounds => exact keeps.beginSleep enrolled fun _ => mine
  | service policy delaySeconds => exact keeps.beginSleep enrolled fun _ => mine
  | wait => exact keeps.beginWait enrolled fun _ => mine
  | request request => exact enrolled.beginRequest mine

end Service

end LatencyService
