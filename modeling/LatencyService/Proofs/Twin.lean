/-
A run beside the same run without a timeout for requests. Whoever is asked for
something in both is asked at the same time, as long as the clocks of the two
agree, and the tasks that begin differ in their deadlines alone. From then on
the two tasks are led in lockstep, from one end of busy loops to the next, until
the deadline has come or both have ended in the same way.
-/

import LatencyService.Proofs.Passing

namespace LatencyService

/-! ### Deadlines are left out -/

/-- The service without a timeout for requests. -/
def Deployment.untimed (deployment : Deployment) : Deployment :=
  { deployment with
    settings := { deployment.settings with
      timeouts := { deployment.settings.timeouts with requestSeconds := none } } }

/-- A request without a deadline. -/
def Exchange.undated (exchange : Exchange) : Exchange := { exchange with deadline := none }

def Purpose.undated : Purpose → Purpose
  | .demo exchange header => .demo exchange.undated header
  | .demoService exchange => .demoService exchange.undated
  | .relay exchange header => .relay exchange.undated header
  | other => other

/-- What a task waits for, whatever messages its receiver has accounted for. -/
def Stage.unread : Stage → Stage
  | .asleep wake _ => .asleep wake ⟨0⟩
  | .listening _ => .listening ⟨0⟩
  | other => other

namespace Task

/-- A task without its deadline. -/
def undated (task : Task) : Task :=
  { task with purpose := task.purpose.undated, stage := task.stage.unread }

variable (deployment : Deployment) (now : Nat) (task : Task)

theorem due?_undated : task.undated.stage.due? = task.stage.due? := by
  obtain ⟨serial, purpose, delaySeconds, rounds, started, stage⟩ := task
  cases stage <;> rfl

theorem holds_undated : task.undated.holds = task.holds := by
  obtain ⟨serial, purpose, delaySeconds, rounds, started, stage⟩ := task
  cases stage <;> rfl

theorem abortion_undated : task.undated.purpose.abortion = task.purpose.abortion := by
  obtain ⟨serial, purpose, delaySeconds, rounds, started, stage⟩ := task
  cases purpose <;> rfl

theorem completionFate_undated (settings : OperationSettings) :
    task.undated.completionFate settings now = task.completionFate settings now := by
  obtain ⟨serial, purpose, delaySeconds, rounds, started, stage⟩ := task
  cases purpose <;> rfl

theorem wakeFate_undated :
    task.undated.wakeFate deployment now = task.wakeFate deployment now := by
  obtain ⟨serial, purpose, delaySeconds, rounds, started, stage⟩ := task
  cases stage <;> cases purpose <;> rfl

theorem wakeFate_untimed :
    task.wakeFate deployment.untimed now = task.wakeFate deployment now := rfl

end Task

/-- A task beside the same task with a deadline. -/
structure Task.Dated (deadline : Nat) (plain dated : Task) : Prop where
  same : plain.undated = dated.undated
  free : plain.deadline? = none
  given : dated.deadline? = some deadline

namespace Task.Dated

variable {deployment : Deployment} {deadline now : Nat} {plain dated : Task}

theorem serial (twins : Dated deadline plain dated) : plain.serial = dated.serial := by
  show plain.undated.serial = dated.undated.serial
  rw [twins.same]

theorem holds (twins : Dated deadline plain dated) : plain.holds = dated.holds := by
  rw [← plain.holds_undated, twins.same, holds_undated]

theorem abortion (twins : Dated deadline plain dated) :
    plain.purpose.abortion = dated.purpose.abortion := by
  rw [← plain.abortion_undated, twins.same, abortion_undated]

theorem due? (twins : Dated deadline plain dated) :
    dated.due? = earlier? plain.due? (some deadline) := by
  rw [Task.due?, Task.due?, twins.free, twins.given, ← plain.due?_undated, twins.same,
    due?_undated]
  cases dated.stage.due? <;> rfl

/-- Before the deadline the same is due for both. -/
theorem isDueAt (twins : Dated deadline plain dated) (early : now < deadline) :
    dated.isDueAt now = plain.isDueAt now := by
  rw [Task.isDueAt, Task.isDueAt, twins.due?]
  cases plain.due? with
  | none => simpa [earlier?] using early
  | some due =>
    have both : min due deadline ≤ now ↔ due ≤ now := by omega
    simp [earlier?, both]

/-- If the one is attended to before the deadline, the other is at the same time. -/
theorem moment (twins : Dated deadline plain dated) {action : Action}
    (due : plain.isDueAt now = true) (early : action.moment now plain < deadline) :
    action.moment now dated = action.moment now plain := by
  obtain ⟨time, found, -⟩ := isDueAt_iff.1 due
  cases action with
  | join name =>
    have there : plain.due? = some time := found
    simp only [Action.moment, twins.due?, there, Option.getD_some, earlier?] at early ⊢
    omega
  | _ => rfl

/-- Before the deadline the same is told of both. -/
theorem conclusion (twins : Dated deadline plain dated) (early : now < deadline) :
    dated.conclusion deployment now = plain.conclusion deployment.untimed now := by
  have timely : dated.isLateAt now = false := by
    refine isLateAt_eq_false_iff.2 fun time there => ?_
    rw [twins.given] at there
    exact Option.some.inj there ▸ early
  have free : plain.isLateAt now = false := by
    rw [isLateAt, twins.free]
    rfl
  have wake : dated.wakeFate deployment now = plain.wakeFate deployment.untimed now :=
    by rw [wakeFate_untimed, ← plain.wakeFate_undated, twins.same, wakeFate_undated]
  have complete : dated.completionFate deployment.settings.operation now =
      plain.completionFate deployment.settings.operation now := by
    rw [← plain.completionFate_undated, twins.same, completionFate_undated]
  have told (fate : Fate) : fate.completions dated now = fate.completions plain now := by
    unfold Fate.completions
    rw [twins.serial]
  rw [Task.conclusion, Task.conclusion, attendFate_of_timely _ timely,
    attendFate_of_timely _ free, wake]
  simp only [told, complete]
  rfl

end Task.Dated

/-! ### What is born beside each other -/

/-- A birth beside the same birth with a deadline. -/
inductive Birth.Dated (deadline : Nat) : Birth → Birth → Prop where
  | atOnce (ending : Ending) : Dated deadline (.atOnce ending) (.atOnce ending)
  | begins {plain dated : Task} (twins : plain.Dated deadline dated) :
      Dated deadline (.begins plain) (.begins dated)

namespace Service

/-- Two services at which the next task begins with the same number, at the same time, and under the
same shutdown and backend. -/
structure Twins (plain timed : Service) : Prop where
  now : plain.now = timed.now
  begun : plain.begun = timed.begun
  backend : plain.backend = timed.backend
  isTriggered : plain.shutdown.isTriggered = timed.shutdown.isTriggered

variable {deployment : Deployment} {seconds : UInt64} {plain timed : Service}

theorem deadlineOf_untimed : plain.deadlineOf deployment.untimed = none := rfl

theorem deadlineOf_ne_now (given : deployment.settings.timeouts.requestSeconds = some seconds)
    (positive : 0 < seconds.toNat) : timed.deadlineOf deployment ≠ some timed.now := by
  intro spent
  have same := Option.some.inj ((deadlineOf_eq given).symm.trans spent)
  omega

theorem Twins.exchangeOf (twins : plain.Twins timed) (request : Http.Request)
    (route : Http.Route) :
    plain.exchangeOf deployment.untimed request route =
      (timed.exchangeOf deployment request route).undated := by
  rw [Service.exchangeOf, Service.exchangeOf, twins.begun]
  rfl

theorem Twins.sleepBirth (twins : plain.Twins timed) {deadline : Nat} (purpose : Purpose)
    (given : purpose.exchange?.bind Exchange.deadline = some deadline)
    (free : purpose.undated.exchange?.bind Exchange.deadline = none)
    (delaySeconds rounds : UInt64) :
    Birth.Dated deadline (plain.sleepBirth purpose.undated delaySeconds rounds)
      (timed.sleepBirth purpose delaySeconds rounds) := by
  unfold Service.sleepBirth
  rw [twins.isTriggered]
  split
  · have same : purpose.undated.abortion = purpose.abortion := by
      cases purpose <;> rfl
    rw [same]
    exact .atOnce _
  · refine .begins ⟨?_, free, given⟩
    have again : purpose.undated.undated = purpose.undated := by
      cases purpose <;> rfl
    simp only [Task.undated, twins.now, twins.begun, again]
    rfl

theorem Twins.relayBirth (twins : plain.Twins timed) {deadline : Nat} {exchange : Exchange}
    (given : exchange.deadline = some deadline) (header : Header) :
    Birth.Dated deadline (plain.relayBirth deployment.untimed exchange.undated header)
      (timed.relayBirth deployment exchange header) := by
  unfold Service.relayBirth
  have settings : deployment.untimed.settings.outbound = deployment.settings.outbound := rfl
  rw [settings, twins.backend]
  dsimp only
  split
  · exact .atOnce _
  · exact .atOnce _
  · refine .begins ⟨?_, rfl, given⟩
    simp only [Task.undated, twins.now, twins.begun]
    rfl

/-- What is born as a request differs in its deadline alone. -/
theorem Twins.birth (twins : plain.Twins timed)
    (given : deployment.settings.timeouts.requestSeconds = some seconds)
    (positive : 0 < seconds.toNat) (request : Http.Request) :
    Birth.Dated (timed.now + 1000 * seconds.toNat)
      (plain.birth deployment.untimed (.request request))
      (timed.birth deployment (.request request)) := by
  have dated (route : Http.Route) : (timed.exchangeOf deployment request route).deadline =
      some (timed.now + 1000 * seconds.toNat) := deadlineOf_eq given
  show Birth.Dated _ (plain.requestBirth deployment.untimed request)
    (timed.requestBirth deployment request)
  rw [requestBirth, requestBirth, deadlineOf_untimed, if_neg (Option.some_ne_none _).symm,
    if_neg (deadlineOf_ne_now given positive)]
  unfold orderBirth
  dsimp only
  simp only [twins.exchangeOf]
  cases Http.Dispatch.ofRequest request with
  | unmatched response => exact .atOnce _
  | answered route response events => exact .atOnce _
  | demo header order => exact twins.sleepBirth (.demo _ header) (dated .demo) rfl _ _
  | demoService order => exact twins.sleepBirth (.demoService _) (dated .demoService) rfl _ _
  | relay header => exact twins.relayBirth (dated .relay) header

/-- The timeout is nothing to the backend. -/
theorem backendAfter_untimed (given : deployment.settings.timeouts.requestSeconds = some seconds)
    (positive : 0 < seconds.toNat) (same : plain.backend = timed.backend) (start : Start) :
    plain.backendAfter deployment.untimed start = timed.backendAfter deployment start := by
  cases start with
  | request request =>
    rw [backendAfter, backendAfter, deadlineOf_untimed, if_neg (Option.some_ne_none _).symm,
      if_neg (deadlineOf_ne_now given positive), same]
    rfl
  | _ => exact same

end Service

end LatencyService
