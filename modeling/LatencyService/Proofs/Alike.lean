/-
Tasks that differ in their numbers, in the identifiers of their requests and in
the messages that their receivers have accounted for, and in nothing else. What
happens to the one happens to the other: nothing of all that has a part in what
becomes of a task. So what is left of tasks without it is a value by itself,
and everything that is said of tasks here goes through that value.
-/

import LatencyService.Proofs.Effects
import LatencyService.Proofs.Lockstep

namespace LatencyService

/-! ### What is left without numbers and identifiers -/

/-- The response without the identifier of its request. -/
def Http.Response.anonymous (response : Http.Response) : Http.Response :=
  { response with headers := response.headers.filter (·.1 != Service.identifierHeader) }

/-- An ending without the identifier of a request. -/
def Ending.anonymous : Ending → Ending
  | .answered response => .answered response.anonymous
  | other => other

/-- What is told of a task, without its number and the identifier of its request. -/
def Completion.anonymous (completion : Completion) : Completion :=
  { completion with serial := 0, ending := completion.ending.anonymous }

def Exchange.anonymous (exchange : Exchange) : Exchange := { exchange with identifier := [] }

def Purpose.anonymous : Purpose → Purpose
  | .demo exchange header => .demo exchange.anonymous header
  | .demoService exchange => .demoService exchange.anonymous
  | .relay exchange header => .relay exchange.anonymous header
  | other => other

def Task.anonymous (task : Task) : Task :=
  { task with serial := 0, purpose := task.purpose.anonymous, stage := task.stage.unread }

def Fate.anonymous : Fate → Fate
  | .ends ending => .ends (ending.map Ending.anonymous)
  | other => other

def Birth.anonymous : Birth → Birth
  | .atOnce ending => .atOnce ending.anonymous
  | .begins task => .begins task.anonymous

def Course.anonymous (course : Course) : Course := ⟨course.now, course.task?.map Task.anonymous⟩

/-! ### Endings -/

/-- The identifier is the last header of a response, and is left out with it. -/
theorem Exchange.anonymous_answer (exchange : Exchange) (response : Http.Response) :
    (exchange.anonymous.answer response).anonymous = (exchange.answer response).anonymous := by
  have sealed (identifier : Octets) :
      (Service.sealResponse exchange.isHead identifier response).anonymous =
        (if exchange.isHead then response.headOnly else response).anonymous := by
    rw [Service.sealResponse, Http.Response.anonymous, Http.Response.withHeader]
    simp [List.filter_append, Http.Response.anonymous]
  show Ending.answered (Service.sealResponse exchange.isHead [] response).anonymous = _
  rw [sealed, ← sealed exchange.identifier]
  rfl

namespace Purpose

variable (purpose : Purpose)

theorem anonymous_success (report : Report) :
    (purpose.anonymous.success? report).map Ending.anonymous =
      (purpose.success? report).map Ending.anonymous := by
  cases purpose with
  | demo exchange header => exact congrArg some (exchange.anonymous_answer _)
  | demoService exchange => exact congrArg some (exchange.anonymous_answer _)
  | _ => rfl

theorem anonymous_abortion :
    purpose.anonymous.abortion.anonymous = purpose.abortion.anonymous := by
  cases purpose with
  | demo exchange header => exact exchange.anonymous_answer _
  | demoService exchange => exact exchange.anonymous_answer _
  | relay exchange header => exact exchange.anonymous_answer _
  | _ => rfl

theorem anonymous_exchange? :
    purpose.anonymous.exchange? = purpose.exchange?.map Exchange.anonymous := by
  cases purpose <;> rfl

end Purpose

/-! ### Fates -/

namespace Task

variable (deployment : Deployment) (now : Nat) (task : Task)

theorem anonymous_deadline? : task.anonymous.deadline? = task.deadline? := by
  obtain ⟨serial, purpose, delaySeconds, rounds, started, stage⟩ := task
  cases purpose <;> rfl

theorem anonymous_due? : task.anonymous.due? = task.due? := by
  rw [due?, due?, anonymous_deadline?]
  obtain ⟨serial, purpose, delaySeconds, rounds, started, stage⟩ := task
  cases stage <;> rfl

theorem anonymous_holds : task.anonymous.holds = task.holds := by
  obtain ⟨serial, purpose, delaySeconds, rounds, started, stage⟩ := task
  cases stage <;> rfl

theorem anonymous_busy : task.anonymous.stage = .busy ↔ task.stage = .busy := by
  obtain ⟨serial, purpose, delaySeconds, rounds, started, stage⟩ := task
  cases stage <;> simp [anonymous, Stage.unread]

theorem anonymous_completionFate (settings : OperationSettings) :
    (task.anonymous.completionFate settings now).anonymous =
      (task.completionFate settings now).anonymous :=
  congrArg Fate.ends (task.purpose.anonymous_success _)

theorem anonymous_wakeFate :
    (task.anonymous.wakeFate deployment now).anonymous =
      (task.wakeFate deployment now).anonymous := by
  have completes := task.anonymous_completionFate now deployment.settings.operation
  obtain ⟨serial, purpose, delaySeconds, rounds, started, stage⟩ := task
  cases stage with
  | asleep wake receiver =>
    cases purpose with
    | delay => rfl
    | _ =>
      by_cases none : rounds = 0
      · exact (congrArg Fate.anonymous (if_pos none)).trans
          (completes.trans (congrArg Fate.anonymous (if_pos none)).symm)
      · exact (congrArg Fate.anonymous (if_neg none)).trans
          (congrArg Fate.anonymous (if_neg none)).symm
  | busy => cases purpose <;> exact completes
  | listening receiver => cases purpose <;> rfl
  | relaying url giveUp =>
    cases purpose with
    | relay exchange header =>
      exact congrArg (fun ending => Fate.ends (some ending)) (exchange.anonymous_answer _)
    | _ => rfl

theorem anonymous_attendFate :
    (task.anonymous.attendFate deployment now).anonymous =
      (task.attendFate deployment now).anonymous := by
  have late : task.anonymous.isLateAt now = task.isLateAt now := by
    rw [isLateAt, isLateAt, anonymous_deadline?]
  have request : task.anonymous.purpose.exchange? =
      task.purpose.exchange?.map Exchange.anonymous := task.purpose.anonymous_exchange?
  rw [attendFate, attendFate, request, late]
  cases task.purpose.exchange? with
  | none => exact task.anonymous_wakeFate deployment now
  | some exchange =>
    dsimp only [Option.map_some]
    split
    · exact congrArg (fun ending => Fate.ends (some ending)) (exchange.anonymous_answer _)
    · exact task.anonymous_wakeFate deployment now

theorem anonymous_dueFate :
    (task.anonymous.dueFate deployment now).anonymous =
      (task.dueFate deployment now).anonymous := by
  have due : task.anonymous.isDueAt now = task.isDueAt now := by
    rw [isDueAt, isDueAt, anonymous_due?]
  rw [dueFate, dueFate, due]
  split
  · exact task.anonymous_attendFate deployment now
  · rfl

/-- Whatever happens, unless a task is cancelled by its number, numbers and identifiers have no part
in what becomes of a task. -/
theorem anonymous_fate {happening : Happening} (free : ∀ serial, happening ≠ .cancel serial) :
    (task.anonymous.fate deployment now happening).anonymous =
      (task.fate deployment now happening).anonymous := by
  cases happening with
  | settle =>
    simp only [fate, settleFate, anonymous_busy]
    split
    · exact task.anonymous_wakeFate deployment now
    · rfl
  | move clock => exact task.anonymous_dueFate deployment now
  | trigger =>
    simp only [fate, anonymous_holds]
    split
    · exact congrArg (fun ending => Fate.ends (some ending)) task.purpose.anonymous_abortion
    · rfl
  | cancel serial => exact absurd rfl (free serial)

end Task

namespace Fate

variable (task : Task) (fate : Fate)

theorem anonymous_rest :
    (fate.rest task).map Task.anonymous = fate.anonymous.rest task.anonymous := by
  cases fate <;> rfl

theorem anonymous_completions (now : Nat) :
    (fate.completions task now).map Completion.anonymous =
      fate.anonymous.completions task.anonymous now := by
  rcases fate with _ | _ | _ | _ <;> rfl

end Fate

/-! ### Tasks that are alike -/

namespace Course

variable {deployment : Deployment} {first second : Course} {happening : Happening}
  {happenings : List Happening}

/-- What happens to one task happens to another one that is like it. -/
theorem next_alike (deployment : Deployment) (alike : first.anonymous = second.anonymous)
    (free : ∀ serial, happening ≠ .cancel serial) :
    (first.next deployment happening).anonymous = (second.next deployment happening).anonymous ∧
      (first.completions deployment happening).map Completion.anonymous =
        (second.completions deployment happening).map Completion.anonymous := by
  obtain ⟨now, one⟩ := first
  obtain ⟨now', other⟩ := second
  obtain ⟨rfl, tasks⟩ := Course.mk.inj alike
  cases one with
  | none =>
    cases other with
    | none => exact ⟨rfl, rfl⟩
    | some task => cases tasks
  | some task =>
    cases other with
    | none => cases tasks
    | some task' =>
      have same : task.anonymous = task'.anonymous := Option.some.inj tasks
      have fates : (task.fate deployment (happening.clock now) happening).anonymous =
          (task'.fate deployment (happening.clock now) happening).anonymous := by
        rw [← task.anonymous_fate deployment _ free, same, task'.anonymous_fate deployment _ free]
      refine ⟨congrArg (Course.mk _) ?_, ?_⟩
      · show (Fate.rest task _).map Task.anonymous = (Fate.rest task' _).map Task.anonymous
        rw [Fate.anonymous_rest, Fate.anonymous_rest, fates, same]
      · show (Fate.completions task _ _).map Completion.anonymous =
          (Fate.completions task' _ _).map Completion.anonymous
        rw [Fate.anonymous_completions, Fate.anonymous_completions, fates, same]

theorem follow_alike (deployment : Deployment) (alike : first.anonymous = second.anonymous)
    (free : ∀ serial, .cancel serial ∉ happenings) :
    (first.follow deployment happenings).anonymous =
        (second.follow deployment happenings).anonymous ∧
      (first.told deployment happenings).map Completion.anonymous =
        (second.told deployment happenings).map Completion.anonymous := by
  induction happenings generalizing first second with
  | nil => exact ⟨alike, rfl⟩
  | cons happening rest inductionHypothesis =>
    have step := next_alike deployment alike
      fun serial same => free serial (same ▸ List.mem_cons_self)
    have later := inductionHypothesis step.1
      fun serial member => free serial (List.mem_cons_of_mem _ member)
    rw [follow_cons, follow_cons, told, told, List.map_append, List.map_append, step.2, later.2]
    exact ⟨later.1, rfl⟩

end Course

/-! ### What an action does to tasks that are alike -/

namespace Task

variable {deployment : Deployment} {first second awaited awaited' : Task}

theorem due?_alike (alike : first.anonymous = second.anonymous) : first.due? = second.due? := by
  rw [← first.anonymous_due?, alike, anonymous_due?]

theorem arrival_alike (alike : first.anonymous = second.anonymous) (last : Nat) :
    first.arrival last = second.arrival last := by
  rw [arrival, arrival, due?_alike alike]

theorem outlasts_alike (alike : first.anonymous = second.anonymous) (time : Nat) :
    first.outlasts deployment time = second.outlasts deployment time := by
  have rests (task : Task) : task.outlasts deployment time =
      ((task.dueFate deployment time).anonymous.rest task.anonymous).isSome := by
    rw [← Fate.anonymous_rest, Option.isSome_map]
    rfl
  rw [rests, rests, ← first.anonymous_dueFate, alike, second.anonymous_dueFate]

theorem meanwhile_alike (alike : first.anonymous = second.anonymous)
    (awaited_alike : awaited.anonymous = awaited'.anonymous) (last : Nat) :
    first.meanwhile deployment last awaited = second.meanwhile deployment last awaited' := by
  rw [meanwhile, meanwhile, due?_alike alike, arrival_alike awaited_alike]
  simp only [outlasts_alike awaited_alike]

end Task

namespace Action

variable {deployment : Deployment} {now : Nat} {first second : Task}
  {awaited? awaited?' : Option Task}

theorem effects_alike (action : Action) (alike : first.anonymous = second.anonymous)
    (awaited_alike : awaited?.map Task.anonymous = awaited?'.map Task.anonymous) :
    action.effects deployment now awaited? first =
      action.effects deployment now awaited?' second := by
  cases action with
  | join name =>
    cases awaited? with
    | none =>
      cases awaited?' with
      | none => rfl
      | some awaited' => cases awaited_alike
    | some awaited =>
      cases awaited?' with
      | none => cases awaited_alike
      | some awaited' =>
        exact Task.meanwhile_alike alike (Option.some.inj awaited_alike) (now + Scene.patience)
  | _ => rfl

/-- The same is done to tasks that are alike, if they are there. -/
theorem elim_effects_alike (action : Action) {one other : Option Task}
    (alike : one.map Task.anonymous = other.map Task.anonymous)
    (awaited_alike : awaited?.map Task.anonymous = awaited?'.map Task.anonymous) :
    one.elim [] (action.effects deployment now awaited? ·) =
      other.elim [] (action.effects deployment now awaited?' ·) := by
  cases one with
  | none =>
    cases other with
    | none => rw [Option.elim_none, Option.elim_none]
    | some task => cases alike
  | some task =>
    cases other with
    | none => cases alike
    | some task' => exact action.effects_alike (Option.some.inj alike) awaited_alike

theorem arrival_alike (action : Action)
    (awaited_alike : awaited?.map Task.anonymous = awaited?'.map Task.anonymous) :
    action.arrival now awaited? = action.arrival now awaited?' := by
  cases action with
  | join name =>
    cases awaited? with
    | none =>
      cases awaited?' with
      | none => rfl
      | some awaited' => cases awaited_alike
    | some awaited =>
      cases awaited?' with
      | none => cases awaited_alike
      | some awaited' => exact Task.arrival_alike (Option.some.inj awaited_alike) _
  | _ => rfl

/-- No action does anything to a task by its number, unless it cancels it. -/
theorem free_effects (action : Action) (awaited? : Option Task) (task : Task) (serial : Nat) :
    .cancel serial ∉ action.effects deployment now awaited? task := by
  cases action with
  | join name =>
    cases awaited? with
    | none => exact List.not_mem_nil
    | some awaited =>
      simp only [effects, Option.elim_some, Task.meanwhile]
      cases task.due? with
      | none => exact List.not_mem_nil
      | some due =>
        rw [Option.elim_some]
        split
        · exact List.not_mem_nil
        · split <;> simp
  | _ => simp [effects]

end Action

/-! ### What is born alike -/

namespace Backend

/-- The same service listens, has the same replies left, and is read in the same way. -/
structure Peer (first second : Backend) : Prop where
  address : first.address = second.address
  replies : first.replies = second.replies
  charsets : first.charsets = second.charsets

/-- Every connection is treated in the same way. -/
def Steady (backend : Backend) : Prop := backend.replies.length ≤ 1

variable {first second : Backend}

theorem Peer.refl (backend : Backend) : backend.Peer backend := ⟨rfl, rfl, rfl⟩

theorem Peer.symm (peer : first.Peer second) : second.Peer first :=
  ⟨peer.address.symm, peer.replies.symm, peer.charsets.symm⟩

theorem Peer.trans {third : Backend} (peer : first.Peer second) (other : second.Peer third) :
    first.Peer third :=
  ⟨peer.address.trans other.address, peer.replies.trans other.replies,
    peer.charsets.trans other.charsets⟩

theorem Peer.accepts (peer : first.Peer second) (url : Url) :
    first.accepts url = second.accepts url := by
  rw [Backend.accepts, Backend.accepts, peer.address]

theorem Peer.nextReply (peer : first.Peer second) : first.nextReply = second.nextReply := by
  rw [Backend.nextReply, Backend.nextReply, peer.replies]

theorem Peer.steady (peer : first.Peer second) (steady : first.Steady) : second.Steady := by
  rw [Steady, ← peer.replies]
  exact steady

theorem Steady.afterConnection (steady : first.Steady) (transmission : Transmission) :
    (first.afterConnection transmission).Peer first :=
  ⟨rfl, if_pos steady, rfl⟩

end Backend

/-- Behind a call a steady backend is as before, and whatever it has received before, the same comes
of the call. -/
theorem Call.run_steady {first second : Backend} (peer : first.Peer second)
    (steady : first.Steady) (call : Call) (redirects : Nat) :
    (call.run first redirects).1 = (call.run second redirects).1 ∧
      (call.run first redirects).2.Peer first := by
  induction redirects generalizing first second call with
  | zero => exact ⟨rfl, .refl first⟩
  | succ redirects inductionHypothesis =>
    have apart := steady.afterConnection call.transmission
    have apartSecond := (peer.steady steady).afterConnection call.transmission
    rw [Call.run, Call.run, peer.accepts, peer.nextReply]
    split
    · exact ⟨rfl, .refl first⟩
    · split
      · exact ⟨rfl, .refl first⟩
      · dsimp only
        split
        · exact ⟨rfl, apart⟩
        · exact ⟨rfl, apart⟩
        · split
          · have again := inductionHypothesis (apart.trans (peer.trans apartSecond.symm))
              (apart.symm.steady steady)
            exact ⟨(again _).1, (again _).2.trans apart⟩
          · split <;> exact ⟨rfl, apart⟩

/-- The same comes of a relayed call. -/
theorem Relay.run_steady (settings : OutboundSettings) {first second : Backend}
    (peer : first.Peer second) (steady : first.Steady) :
    (Relay.run settings first).1 = (Relay.run settings second).1 ∧
      (Relay.run settings first).2.Peer first := by
  unfold Relay.run
  cases Call.urlOf (target settings) with
  | error failure => exact ⟨rfl, .refl first⟩
  | ok url =>
    dsimp only
    rw [peer.charsets]
    have both := Call.run_steady peer steady (Call.post url) (Call.redirectLimit + 1)
    generalize Call.run first _ _ = one at both ⊢
    generalize Call.run second _ _ = other at both ⊢
    obtain ⟨result, backend⟩ := one
    obtain ⟨result', backend'⟩ := other
    obtain ⟨rfl, kept⟩ := both
    cases result <;> exact ⟨rfl, kept⟩

namespace Service

variable {deployment : Deployment} {first second : Service}

/-- Two services at which the same can begin: at the same time, under the same shutdown, and with
the same backend. -/
structure Peers (first second : Service) : Prop where
  now : first.now = second.now
  isTriggered : first.shutdown.isTriggered = second.shutdown.isTriggered
  backend : first.backend.Peer second.backend
  steady : first.backend.Steady

theorem Peers.sleepBirth (peers : first.Peers second) {purpose purpose' : Purpose}
    (alike : purpose.anonymous = purpose'.anonymous) (delaySeconds rounds : UInt64) :
    (first.sleepBirth purpose delaySeconds rounds).anonymous =
      (second.sleepBirth purpose' delaySeconds rounds).anonymous := by
  rw [Service.sleepBirth, Service.sleepBirth, peers.isTriggered]
  split
  · exact congrArg Birth.atOnce (by
      rw [← purpose.anonymous_abortion, alike, purpose'.anonymous_abortion])
  · simp only [Birth.anonymous, Task.anonymous, alike, peers.now]
    rfl

theorem Peers.waitBirth (peers : first.Peers second) :
    first.waitBirth.anonymous = second.waitBirth.anonymous := by
  rw [Service.waitBirth, Service.waitBirth, peers.isTriggered]
  split
  · rfl
  · simp only [Birth.anonymous, Task.anonymous, peers.now]
    rfl

/-- Two exchanges that differ in the identifier alone are answered alike. -/
theorem answer_alike {exchange exchange' : Exchange}
    (alike : exchange.anonymous = exchange'.anonymous) (response : Http.Response) :
    (exchange.answer response).anonymous = (exchange'.answer response).anonymous := by
  rw [← exchange.anonymous_answer, alike, exchange'.anonymous_answer]

theorem Peers.relayBirth (peers : first.Peers second) {exchange exchange' : Exchange}
    (alike : exchange.anonymous = exchange'.anonymous) (header : Header) :
    (first.relayBirth deployment exchange header).anonymous =
      (second.relayBirth deployment exchange' header).anonymous := by
  have same := (Relay.run_steady deployment.settings.outbound peers.backend peers.steady).1
  rw [Service.relayBirth, Service.relayBirth, same]
  dsimp only
  split
  · exact congrArg Birth.atOnce (answer_alike alike _)
  · exact congrArg Birth.atOnce (answer_alike alike _)
  · simp only [Birth.anonymous, Task.anonymous, Purpose.anonymous, alike, peers.now]

/-- Whatever begins at the one service and at the other is born alike. -/
theorem Peers.birth (peers : first.Peers second) (deployment : Deployment) (start : Start) :
    (first.birth deployment start).anonymous = (second.birth deployment start).anonymous := by
  have deadline : first.deadlineOf deployment = second.deadlineOf deployment := by
    rw [deadlineOf, deadlineOf, peers.now]
  have exchanges (request : Http.Request) (route : Http.Route) :
      (first.exchangeOf deployment request route).anonymous =
        (second.exchangeOf deployment request route).anonymous := by
    simp only [exchangeOf, Exchange.anonymous, deadline]
  cases start with
  | delay delaySeconds => exact peers.sleepBirth rfl _ _
  | operation delaySeconds rounds => exact peers.sleepBirth rfl _ _
  | service policy delaySeconds => exact peers.sleepBirth rfl _ _
  | wait => exact peers.waitBirth
  | request request =>
    simp only [Service.birth, requestBirth, deadline, peers.now]
    split
    · exact congrArg Birth.atOnce (answer_alike (exchanges request .health) _)
    · simp only [orderBirth]
      cases Http.Dispatch.ofRequest request with
      | unmatched response =>
        exact congrArg Birth.atOnce (answer_alike (exchanges request .health) _)
      | answered route response events =>
        exact congrArg Birth.atOnce (answer_alike (exchanges request route) _)
      | demo header order =>
        have same : (Purpose.demo (first.exchangeOf deployment request .demo) header).anonymous =
            (Purpose.demo (second.exchangeOf deployment request .demo) header).anonymous :=
          congrArg (Purpose.demo · header) (exchanges request .demo)
        exact peers.sleepBirth same _ _
      | demoService order =>
        have same :
            (Purpose.demoService (first.exchangeOf deployment request .demoService)).anonymous =
              (Purpose.demoService (second.exchangeOf deployment request .demoService)).anonymous :=
          congrArg Purpose.demoService (exchanges request .demoService)
        exact peers.sleepBirth same _ _
      | relay header => exact peers.relayBirth (exchanges request .relay) header

/-- Whatever begins, a steady backend is left as it was, but for what it has received. -/
theorem backendAfter_steady (deployment : Deployment) (steady : first.backend.Steady)
    (start : Start) :
    (first.backendAfter deployment start).Peer first.backend := by
  cases start with
  | request request =>
    rw [backendAfter]
    split
    · exact .refl _
    · split
      · exact (Relay.run_steady deployment.settings.outbound (.refl _) steady).2
      · exact .refl _
  | _ => exact .refl _

end Service

/-- What is born alike is left alike when what is due for it has been attended to, and the same is
told of it. -/
theorem Birth.alike (deployment : Deployment) {first second : Birth}
    (alike : first.anonymous = second.anonymous) (serial serial' now : Nat) :
    (first.rest deployment now).map Task.anonymous =
        (second.rest deployment now).map Task.anonymous ∧
      (first.completions deployment serial now).map Completion.anonymous =
        (second.completions deployment serial' now).map Completion.anonymous := by
  cases first with
  | atOnce ending =>
    cases second with
    | atOnce ending' =>
      have same : ending.anonymous = ending'.anonymous := Birth.atOnce.inj alike
      refine ⟨rfl, ?_⟩
      simp only [Birth.completions, List.map_cons, List.map_nil, Completion.anonymous, same]
    | begins task => cases alike
  | begins task =>
    cases second with
    | atOnce ending => cases alike
    | begins task' =>
      have same : task.anonymous = task'.anonymous := Birth.begins.inj alike
      have fates : (task.dueFate deployment now).anonymous =
          (task'.dueFate deployment now).anonymous := by
        rw [← task.anonymous_dueFate, same, task'.anonymous_dueFate]
      simp only [Birth.rest, Birth.completions, Fate.anonymous_rest, Fate.anonymous_completions,
        fates, same, and_self]

end LatencyService
