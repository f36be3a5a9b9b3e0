/-
What the log says of how tasks end. An ending is logged in the moment in which
it comes: a problem with what it is, a result as a complete operation, and an
abortion that is hidden from whoever asked as what it was. So the log and the
endings can be read side by side, as a ledger: its entries are endings with what
is logged of them, delays that are cut short, and events that tell of neither.
This file says what is counted in a ledger, and that whatever becomes of a task
adds entries to it and nothing else.
-/

import LatencyService.Proofs.Counters
import LatencyService.Proofs.Rejection
import Mathlib.Data.List.Forall2

namespace LatencyService

/-! ### Events -/

namespace Event

/-- The event has a text. -/
def reads (words : String) (event : Event) : Bool := event.text == words

/-- The event tells of a problem with which a request is answered. -/
def tellsProblem (event : Event) : Bool :=
  event.reads "Request failed" || event.reads "Request rejected"

/-- How serious an event is, and its fields. -/
def shown (event : Event) : LogLevel × List (String × Tree) := (event.level, event.fields)

/-- The event tells neither how a task ends nor of a delay that is cut short. -/
def isAside : Event → Bool
  | delayInterrupted _ | operationComplete .. | serviceFailed _ | requestFailed ..
  | requestRejected .. => false
  | _ => true

/-- The texts of the events that tell how a task ends or of a delay that is cut short. -/
def telling : List String :=
  [ "Request failed", "Request rejected", "Delay interrupted by shutdown",
    "Demo operation complete", "Demo service failed; returning default response" ]

/-- No other event has one of their texts. -/
theorem reads_of_isAside {event : Event} (aside : event.isAside = true) {words : String}
    (known : words ∈ telling) : event.reads words = false := by
  refine beq_eq_false_iff_ne.2 fun same => ?_
  rw [← same] at known
  cases event with
  | starting version =>
    -- The text begins with a small letter, whatever the version.
    have first : ∀ other ∈ telling, other.toList.head? ≠ some 'd' := by decide
    exact first _ known (by simp [text, String.toList_append])
  | delayInterrupted | operationComplete | serviceFailed | requestFailed | requestRejected =>
    cases aside
  | _ => simp [telling, text] at known

end Event

/-! ### Endings -/

namespace Ending

/-- A request is answered with a problem: with a status that no other answer has. -/
def isProblem : Ending → Bool
  | answered response => !([200, 404, 405, 408].contains response.status)
  | _ => false

/-- An operation has brought its result. -/
def succeeds : Ending → Bool
  | completed _ | served _ => true
  | answered response => response.status == 200
  | _ => false

/-- The answer is the empty envelope. -/
def IsEmpty (ending : Ending) : Prop :=
  ending = .served .empty ∨ ∃ isHead identifier, ending =
    .answered (Service.sealResponse isHead identifier (.json 200 Reply.empty.render))

theorem isProblem_of_succeeds {ending : Ending} (succeeds : ending.succeeds = true) :
    ending.isProblem = false := by
  cases ending with
  | answered response =>
    have status : response.status = 200 := beq_iff_eq.1 succeeds
    rw [isProblem, status]
    rfl
  | _ => rfl

theorem IsEmpty.succeeds {ending : Ending} (empty : ending.IsEmpty) : ending.succeeds = true := by
  rcases empty with rfl | ⟨isHead, identifier, rfl⟩
  · rfl
  · cases isHead <;> rfl

end Ending

/-- An answer has the status of its response. -/
theorem Exchange.isProblem_answer (exchange : Exchange) (response : Http.Response) :
    (exchange.answer response).isProblem = !([200, 404, 405, 408].contains response.status) := by
  rw [answer, Ending.isProblem, Service.status_sealResponse]

theorem Exchange.succeeds_answer (exchange : Exchange) (response : Http.Response) :
    (exchange.answer response).succeeds = (response.status == 200) := by
  rw [answer, Ending.succeeds, Service.status_sealResponse]

/-- The event reports the problem with which a request is answered: with its text and its status, as
an error of the service if the status says that it is one, and else as a warning. -/
def Event.Reports (event : Event) (ending : Ending) : Prop :=
  ∃ (problem : Http.Problem) (isHead : Bool) (identifier : Octets),
    ending = .answered (Service.sealResponse isHead identifier problem.response) ∧
    event.fields = [("error", .text problem.message), ("status", .integer problem.status)] ∧
    (event.level, event.text) =
      if 500 ≤ problem.status ∧ problem.status < 600 then (.error, "Request failed")
      else (.warn, "Request rejected")

theorem Http.Problem.event_reports (problem : Http.Problem) (exchange : Exchange) :
    problem.event.Reports (exchange.answer problem.response) := by
  refine ⟨problem, _, _, rfl, ?_⟩
  rw [Http.Problem.event]
  by_cases failed : 500 ≤ problem.status ∧ problem.status < 600
  · rw [if_pos failed, if_pos (by simpa using failed)]
    exact ⟨rfl, rfl⟩
  · rw [if_neg failed, if_neg (by simpa using failed)]
    exact ⟨rfl, rfl⟩

theorem Event.Reports.tellsProblem {event : Event} {ending : Ending}
    (reports : event.Reports ending) : event.tellsProblem = true := by
  obtain ⟨problem, -, -, -, -, shown⟩ := reports
  rw [Event.tellsProblem, reads, reads]
  split at shown
  · rw [(Prod.mk.inj shown).2]
    rfl
  · rw [(Prod.mk.inj shown).2]
    rfl

/-! ### Accounts -/

/-- What is to be known of the tasks of a run, by their numbers. -/
structure Books where
  /-- An operation is performed. -/
  operates : Nat → Bool
  /-- If the operation is aborted, that is logged and hidden from whoever asked. -/
  defaults : Nat → Bool
  /-- The shutdown reaches the task: it sleeps when that is triggered, or it begins behind it. -/
  reached : Nat → Bool

namespace Books

/-- The operation is aborted, and that is hidden. -/
def defaulted (books : Books) (serial : Nat) : Bool :=
  books.defaults serial && books.reached serial

/-- An ending is that of an operation with its result, and not just an abortion that is hidden. -/
def completes (books : Books) (ended : Nat × Ending) : Bool :=
  books.operates ended.1 && !books.defaulted ended.1 && ended.2.succeeds

/-- The log accounts for endings and for delays that were cut short. The endings that are problems
are reported one by one in their order, and so are the delays. Of the operations that ended with
their results there are as many as are logged to be complete, and of the aborted ones whose abortion
is hidden as many as are logged as that; each of these is answered with the empty envelope. -/
structure Accounts (books : Books) (delays : List UInt64) (events : List Event)
    (endings : List (Nat × Ending)) : Prop where
  problems : List.Forall₂ Event.Reports (events.filter Event.tellsProblem)
    ((endings.map Prod.snd).filter Ending.isProblem)
  interrupted : (events.filter (Event.reads "Delay interrupted by shutdown")).map Event.shown =
    delays.map fun delaySeconds => (.warn, [("delay_secs", .integer delaySeconds.toNat)])
  complete : events.countP (Event.reads "Demo operation complete") =
    endings.countP books.completes
  defaults :
    (events.filter (Event.reads "Demo service failed; returning default response")).map
        Event.shown =
      List.replicate (endings.countP fun ended => books.defaulted ended.1)
        (.error, [("error", .text Http.Problem.aborted.message)])
  hidden : ∀ ended ∈ endings, books.defaulted ended.1 = true → ended.2.IsEmpty

variable {books : Books} {delays later : List UInt64} {events logged : List Event}
  {endings others : List (Nat × Ending)} {serial : Nat} {ending : Ending}

theorem accounts_nil : books.Accounts [] [] [] := ⟨.nil, rfl, rfl, rfl, List.forall_mem_nil _⟩

/-- As many delays are logged to be cut short as there are. -/
theorem Accounts.countP_interrupted (accounts : books.Accounts delays events endings) :
    events.countP (Event.reads "Delay interrupted by shutdown") = delays.length := by
  have same := congrArg List.length accounts.interrupted
  rw [List.length_map, List.length_map] at same
  rw [List.countP_eq_length_filter, same]

/-- As many abortions are logged as are hidden. -/
theorem Accounts.countP_defaulted (accounts : books.Accounts delays events endings) :
    events.countP (Event.reads "Demo service failed; returning default response") =
      endings.countP fun ended => books.defaulted ended.1 := by
  have same := congrArg List.length accounts.defaults
  rw [List.length_map, List.length_replicate] at same
  rw [List.countP_eq_length_filter, same]

/-- What is accounted for one after the other is accounted for all in all. -/
theorem Accounts.append (first : books.Accounts delays events endings)
    (second : books.Accounts later logged others) :
    books.Accounts (delays ++ later) (events ++ logged) (endings ++ others) := by
  refine ⟨?_, ?_, ?_, ?_, ?_⟩
  · rw [List.filter_append, List.map_append, List.filter_append]
    exact List.rel_append first.problems second.problems
  · rw [List.filter_append, List.map_append, List.map_append, first.interrupted,
      second.interrupted]
  · rw [List.countP_append, List.countP_append, first.complete, second.complete]
  · rw [List.filter_append, List.map_append, first.defaults, second.defaults,
      List.countP_append, List.replicate_add]
  · exact List.forall_mem_append.2 ⟨first.hidden, second.hidden⟩

/-- Whom else the shutdown reaches is of no account, if it is nobody who has ended. -/
theorem Accounts.congr (accounts : books.Accounts delays events endings) {reached : Nat → Bool}
    (agree : ∀ ended ∈ endings, reached ended.1 = books.reached ended.1) :
    ({ books with reached } : Books).Accounts delays events endings := by
  refine ⟨accounts.problems, accounts.interrupted, ?_, ?_, fun ended member hidden => ?_⟩
  · rw [accounts.complete]
    refine List.countP_congr fun ended member => ?_
    simp only [completes, defaulted, agree ended member]
  · rw [accounts.defaults]
    refine congrArg (List.replicate · _) (List.countP_congr fun ended member => ?_)
    simp only [defaulted, agree ended member]
  · simp only [defaulted, agree ended member] at hidden
    exact accounts.hidden ended member hidden

/-- Events that tell neither of an ending nor of a delay. -/
theorem accounts_aside (aside : ∀ event ∈ events, event.isAside = true) :
    books.Accounts [] events [] := by
  have silent (words : String) (known : words ∈ Event.telling) :
      events.filter (Event.reads words) = [] :=
    List.filter_eq_nil_iff.2 fun event member =>
      Bool.eq_false_iff.1 (Event.reads_of_isAside (aside event member) known)
  have fine : events.filter Event.tellsProblem = [] := by
    refine List.filter_eq_nil_iff.2 fun event member => Bool.eq_false_iff.1 ?_
    rw [Event.tellsProblem, Event.reads_of_isAside (aside event member) (by decide),
      Event.reads_of_isAside (aside event member) (by decide)]
    rfl
  refine ⟨?_, ?_, ?_, ?_, List.forall_mem_nil _⟩
  · rw [fine]
    exact .nil
  · rw [silent _ (by decide)]
    rfl
  · rw [List.countP_eq_length_filter, silent _ (by decide)]
    rfl
  · rw [silent _ (by decide)]
    rfl

/-- A delay is cut short. -/
theorem accounts_interrupted (delaySeconds : UInt64) :
    books.Accounts [delaySeconds] [.delayInterrupted delaySeconds] [] :=
  ⟨.nil, rfl, rfl, rfl, List.forall_mem_nil _⟩

/-- One ending, and what is logged of it. -/
theorem accounts_singleton
    (problems : List.Forall₂ Event.Reports (logged.filter Event.tellsProblem)
      (bif ending.isProblem then [ending] else []))
    (interrupted : logged.filter (Event.reads "Delay interrupted by shutdown") = [])
    (complete : logged.countP (Event.reads "Demo operation complete") =
      (books.completes (serial, ending)).toNat)
    (defaults :
      (logged.filter (Event.reads "Demo service failed; returning default response")).map
          Event.shown =
        List.replicate (books.defaulted serial).toNat
          (.error, [("error", .text Http.Problem.aborted.message)]))
    (hidden : books.defaulted serial = true → ending.IsEmpty) :
    books.Accounts [] logged [(serial, ending)] := by
  refine ⟨?_, congrArg (List.map Event.shown) interrupted, ?_, ?_, ?_⟩
  · rwa [List.map_singleton, List.filter_singleton]
  · rw [complete, List.countP_singleton]
    cases books.completes (serial, ending) <;> rfl
  · rw [defaults, List.countP_singleton]
    cases books.defaulted serial <;> rfl
  · rintro ended member
    rw [List.mem_singleton.1 member]
    exact hidden

theorem completes_eq_false_of_not (failed : ending.succeeds = false) :
    books.completes (serial, ending) = false := by
  rw [completes, failed, Bool.and_false]

theorem completes_eq_false_of_idle (idle : books.operates serial = false) :
    books.completes (serial, ending) = false := by
  rw [completes, idle, Bool.false_and, Bool.false_and]

/-- Nothing is logged of an ending. -/
theorem accounts_plain (fine : ending.isProblem = false)
    (incomplete : books.completes (serial, ending) = false)
    (kept : books.defaulted serial = false) : books.Accounts [] [] [(serial, ending)] := by
  refine accounts_singleton ?_ rfl ?_ ?_ ?_
  · rw [fine]
    exact .nil
  · rw [incomplete]
    rfl
  · rw [kept]
    rfl
  · rw [kept]
    exact nofun

/-- An operation brings its result. -/
theorem accounts_completed (delaySeconds rounds : UInt64) (elapsed : Nat)
    (operates : books.operates serial = true) (kept : books.defaulted serial = false)
    (succeeds : ending.succeeds = true) :
    books.Accounts [] [.operationComplete delaySeconds rounds elapsed] [(serial, ending)] := by
  refine accounts_singleton ?_ rfl ?_ ?_ ?_
  · rw [Ending.isProblem_of_succeeds succeeds]
    exact .nil
  · rw [completes, operates, kept, succeeds]
    rfl
  · rw [kept]
    rfl
  · rw [kept]
    exact nofun

/-- The abortion of an operation is logged and hidden. -/
theorem accounts_defaulted (defaults : books.defaults serial = true)
    (reached : books.reached serial = true) (empty : ending.IsEmpty) :
    books.Accounts [] [.serviceFailed Http.Problem.aborted.message] [(serial, ending)] := by
  have hidden : books.defaulted serial = true := Bool.and_eq_true_iff.2 ⟨defaults, reached⟩
  refine accounts_singleton ?_ rfl ?_ ?_ fun _ => empty
  · rw [Ending.isProblem_of_succeeds empty.succeeds]
    exact .nil
  · rw [completes, hidden, Bool.not_true, Bool.and_false]
    rfl
  · rw [hidden]
    rfl

/-- A request is answered with a problem. -/
theorem accounts_refused (exchange : Exchange) {problem : Http.Problem}
    (known : [200, 404, 405, 408].contains problem.status = false)
    (kept : books.defaulted serial = false) :
    books.Accounts [] [problem.event] [(serial, exchange.answer problem.response)] := by
  have isProblem : (exchange.answer problem.response).isProblem = true :=
    (exchange.isProblem_answer problem.response).trans (congrArg (!·) known)
  have failed : (exchange.answer problem.response).succeeds = false := by
    refine Bool.eq_false_iff.2 fun succeeds => ?_
    rw [Ending.isProblem_of_succeeds succeeds] at isProblem
    cases isProblem
  have reports := problem.event_reports exchange
  have other (words : String) (apart : words ∉ ["Request failed", "Request rejected"]) :
      problem.event.reads words = false := by
    refine beq_eq_false_iff_ne.2 fun same => apart ?_
    rw [← same, Http.Problem.event]
    split
    · exact List.mem_cons_self
    · exact List.mem_cons_of_mem _ List.mem_cons_self
  refine accounts_singleton ?_ ?_ ?_ ?_ ?_
  · rw [List.filter_singleton, reports.tellsProblem, isProblem]
    exact .cons reports .nil
  · rw [List.filter_singleton, other _ (by decide)]
    rfl
  · rw [List.countP_singleton, other _ (by decide), completes, failed, Bool.and_false]
    rfl
  · rw [List.filter_singleton, other _ (by decide), kept]
    rfl
  · rw [kept]
    exact nofun

end Books

/-! ### Answers that are ready at once -/

namespace Http.Dispatch

variable {request : Request} {route : Route} {response : Response} {events : List Event}

theorem status_of_unmatched (nothing : ofRequest request = .unmatched response) :
    response.status = 404 := by
  unfold ofRequest at nothing
  split at nothing
  · cases nothing
    unfold nothingAt
    split <;> rfl
  · rename_i own _
    split at nothing
    · by_cases work : own = .health
      · rw [work] at nothing
        cases nothing
      · cases first : Hurdle.firstAt? own request with
        | some stopped =>
          rw [ofRoute_of_firstAt? first] at nothing
          cases nothing
        | none =>
          have works := works_of_firstAt? first work
          rw [nothing] at works
          cases works
    · cases nothing

/-- An answer that is ready at once is none to an operation, and logged as the problem that it tells
if it tells one. -/
theorem ready_cases (ready : ofRequest request = .answered route response events) :
    ([200, 404, 405, 408].contains response.status = true ∧
        ∀ event ∈ events, event.isAside = true) ∨
      ∃ problem : Problem, [200, 404, 405, 408].contains problem.status = false ∧
        response = problem.response ∧ events = [problem.event] := by
  unfold ofRequest at ready
  split at ready
  · cases ready
  · rename_i own _
    split at ready
    · by_cases work : own = .health
      · rw [work] at ready
        cases ready
        exact .inl ⟨rfl, by simp [Event.isAside]⟩
      · cases first : Hurdle.firstAt? own request with
        | some stopped =>
          obtain ⟨hurdle, problem⟩ := stopped
          rw [ofRoute_of_firstAt? first] at ready
          cases ready
          have known : ∀ status ∈ hurdle.statuses,
              [200, 404, 405, 408].contains status = false := by
            cases hurdle <;> decide
          exact .inr ⟨problem, known _ (Hurdle.of_firstAt? first).1, rfl, rfl⟩
        | none =>
          have works := works_of_firstAt? first work
          rw [ready] at works
          cases works
          exact .inl ⟨rfl, by simp [Event.isAside]⟩
    · cases ready
      exact .inl ⟨rfl, List.forall_mem_nil _⟩

end Http.Dispatch

/-! ### Tasks -/

namespace Purpose

/-- An operation is performed for it. -/
def operates : Purpose → Bool
  | operation | service _ | demo .. | demoService _ => true
  | _ => false

/-- The abortion of its operation is logged and hidden. -/
def defaults : Purpose → Bool
  | service .logAndDefault | demoService _ => true
  | _ => false

/-- What is logged when the shutdown reaches a task. -/
def abortionEvents : Purpose → List Event
  | service .logAndDefault | demoService _ => [.serviceFailed Http.Problem.aborted.message]
  | demo .. | relay .. => [Http.Problem.aborted.event]
  | _ => []

end Purpose

namespace Books

variable {books : Books} {task : Task}

/-- The books say of a task what it is for. -/
structure Lists (books : Books) (task : Task) : Prop where
  operates : books.operates task.serial = task.purpose.operates
  defaults : books.defaults task.serial = task.purpose.defaults

/-- The books say of a task what it is for, and that its abortion will not be hidden. -/
structure Knows (books : Books) (task : Task) : Prop extends books.Lists task where
  kept : books.defaulted task.serial = false

/-- Where an abortion would not be hidden, nothing else is to be known. -/
theorem Lists.knows (lists : books.Lists task) (shown : task.purpose.defaults = false) :
    books.Knows task := by
  refine ⟨lists, ?_⟩
  rw [defaulted, lists.defaults, shown, Bool.false_and]

/-- A task that the shutdown has not reached is known. -/
theorem Lists.knows_spared (lists : books.Lists task)
    (spared : books.reached task.serial = false) : books.Knows task := by
  refine ⟨lists, ?_⟩
  rw [defaulted, spared, Bool.and_false]

/-- A task that is reached is aborted. -/
theorem Lists.accounts_abortion (lists : books.Lists task)
    (reached : task.purpose.operates = true → books.reached task.serial = true) :
    books.Accounts [] task.purpose.abortionEvents [(task.serial, task.purpose.abortion)] := by
  obtain ⟨serial, purpose, delaySeconds, rounds, started, stage⟩ := task
  have defaults : books.defaults serial = purpose.defaults := lists.defaults
  have kept (shown : purpose.defaults = false) : books.defaulted serial = false := by
    rw [defaulted, defaults, shown, Bool.false_and]
  have plain (ending : Ending) (fine : ending.isProblem = false)
      (failed : ending.succeeds = false) (shown : purpose.defaults = false) :
      books.Accounts [] [] [(serial, ending)] :=
    accounts_plain fine (completes_eq_false_of_not failed) (kept shown)
  cases purpose with
  | delay => exact plain .aborted rfl rfl rfl
  | operation => exact plain .aborted rfl rfl rfl
  | wait => exact plain .woken rfl rfl rfl
  | service policy =>
    cases policy with
    | propagate => exact plain .aborted rfl rfl rfl
    | logAndDefault => exact accounts_defaulted defaults (reached rfl) (.inl rfl)
  | demo exchange header => exact accounts_refused exchange (by decide) (kept rfl)
  | demoService exchange => exact accounts_defaulted defaults (reached rfl) (.inr ⟨_, _, rfl⟩)
  | relay exchange header => exact accounts_refused exchange (by decide) (kept rfl)

/-- A task has done what it is for. -/
theorem Knows.accounts_success (knows : books.Knows task) (settings : OperationSettings)
    (elapsed : Nat) :
    books.Accounts []
      (if task.purpose.operates then Service.completionEvents settings task elapsed else [])
      ((task.purpose.success? (Service.reportOf settings elapsed)).toList.map
        (task.serial, ·)) := by
  obtain ⟨serial, purpose, delaySeconds, rounds, started, stage⟩ := task
  have operates : books.operates serial = purpose.operates := knows.operates
  have complete (ending : Ending) (active : purpose.operates = true)
      (succeeds : ending.succeeds = true) :
      books.Accounts []
        (Service.completionEvents settings
          ⟨serial, purpose, delaySeconds, rounds, started, stage⟩ elapsed)
        [(serial, ending)] := by
    have aside : books.Accounts []
        (if rounds = 0 then []
          else [.busyLoopFinished rounds (BusyLoop.burn rounds settings.burnIterations)]) [] := by
      refine accounts_aside fun event member => ?_
      split at member
      · cases member
      · rw [List.mem_singleton.1 member]
        rfl
    exact aside.append (accounts_completed delaySeconds rounds elapsed (operates.trans active)
      knows.kept succeeds)
  cases purpose with
  | delay => exact accounts_plain rfl (completes_eq_false_of_not rfl) knows.kept
  | operation => exact complete _ rfl rfl
  | service policy => exact complete _ rfl rfl
  | wait => exact accounts_nil
  | demo exchange header => exact complete _ rfl (exchange.succeeds_answer _)
  | demoService exchange => exact complete _ rfl (exchange.succeeds_answer _)
  | relay exchange header => exact accounts_nil

variable {serial : Nat}

/-- A request took too long. -/
theorem accounts_timeout (exchange : Exchange) (kept : books.defaulted serial = false) :
    books.Accounts [] [] [(serial, exchange.answer Service.timedOut)] :=
  accounts_plain (exchange.isProblem_answer _)
    (completes_eq_false_of_not (exchange.succeeds_answer _)) kept

/-- A relayed call has failed. -/
theorem accounts_failure (settings : OutboundSettings) (failure : CallFailure)
    (exchange : Exchange) (kept : books.defaulted serial = false) :
    books.Accounts []
      ([Relay.eventAfterFailure settings failure] ++ [(Relay.problemOf settings failure).event])
      [(serial, exchange.answer (Relay.problemOf settings failure).response)] := by
  have aside : books.Accounts [] [Relay.eventAfterFailure settings failure] [] :=
    accounts_aside fun event member => by rw [List.mem_singleton.1 member]; rfl
  exact aside.append (accounts_refused exchange (by rfl) kept)

/-- A relayed call has brought a response. -/
theorem accounts_relayed (relayed : Relay.Relayed) (exchange : Exchange) (document : String)
    (idle : books.operates serial = false) (kept : books.defaulted serial = false) :
    books.Accounts [] (Relay.eventsAfter relayed)
      [(serial, exchange.answer (.json 200 document))] := by
  have aside : books.Accounts [] (Relay.eventsAfter relayed) [] := by
    refine accounts_aside ?_
    simp [Relay.eventsAfter, Event.isAside]
  rw [← List.append_nil (Relay.eventsAfter relayed)]
  exact aside.append (accounts_plain (exchange.isProblem_answer _)
    (completes_eq_false_of_idle idle) kept)

/-- Nothing is there at the path of a request. -/
theorem accounts_unmatched {request : Http.Request} {response : Http.Response}
    (nothing : Http.Dispatch.ofRequest request = .unmatched response) (exchange : Exchange)
    (kept : books.defaulted serial = false) :
    books.Accounts [] [] [(serial, exchange.answer response)] := by
  have status := Http.Dispatch.status_of_unmatched nothing
  refine accounts_plain ?_ (completes_eq_false_of_not ?_) kept
  · rw [exchange.isProblem_answer, status]
    rfl
  · rw [exchange.succeeds_answer, status]
    rfl

/-- An answer is ready at once. -/
theorem accounts_ready {request : Http.Request} {route : Http.Route} {response : Http.Response}
    {events : List Event}
    (ready : Http.Dispatch.ofRequest request = .answered route response events)
    (exchange : Exchange) (idle : books.operates serial = false)
    (kept : books.defaulted serial = false) :
    books.Accounts [] events [(serial, exchange.answer response)] := by
  rcases Http.Dispatch.ready_cases ready with ⟨fine, aside⟩ | ⟨problem, known, rfl, rfl⟩
  · have plain : books.Accounts [] [] [(serial, exchange.answer response)] :=
      accounts_plain ((exchange.isProblem_answer response).trans (congrArg (!·) fine))
        (completes_eq_false_of_idle idle) kept
    rw [← List.append_nil events]
    exact (accounts_aside aside).append plain
  · exact accounts_refused exchange known kept

end Books

end LatencyService
