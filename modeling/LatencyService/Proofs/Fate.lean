/-
What becomes of a task when something happens: it goes on waiting, it begins
to be busy, or it ends. This file says it for one task by itself, as a value,
and shows that the running service does just that to the task and nothing to
any other. The log and the counters are left out of account: `bare` is the
service without them, and no task is ever treated by what they hold.
-/

import LatencyService.Session.Scenario

namespace LatencyService

/-! ### Endings -/

/-- The ending of a request that is answered with a response. -/
def Exchange.answer (exchange : Exchange) (response : Http.Response) : Ending :=
  .answered (Service.sealResponse exchange.isHead exchange.identifier response)

namespace Purpose

/-- How a task ends that has slept, and been busy if it had to; waits and relayed calls never do. -/
def success? (report : Report) : Purpose → Option Ending
  | delay => some .slept
  | operation => some (.completed report)
  | service _ => some (.served .empty)
  | demo exchange header => some (exchange.answer (.json 200 (Reply.full header report).render))
  | demoService exchange => some (exchange.answer (.json 200 Reply.empty.render))
  | wait | relay .. => none

/-- A task sleeps for its purpose. -/
def sleeps : Purpose → Bool
  | wait | relay .. => false
  | _ => true

theorem exists_success {purpose : Purpose} (sleeps : purpose.sleeps = true)
    (report : Report) : ∃ ending, purpose.success? report = some ending := by
  cases purpose with
  | wait => cases sleeps
  | relay exchange header => cases sleeps
  | _ => exact ⟨_, rfl⟩

/-- How a task ends that the shutdown reaches. -/
def abortion : Purpose → Ending
  | delay | operation | service .propagate => .aborted
  | service .logAndDefault => .served .empty
  | wait => .woken
  | demo exchange _ | relay exchange _ => exchange.answer Http.Problem.aborted.response
  | demoService exchange => exchange.answer (.json 200 Reply.empty.render)

end Purpose

/-! ### Fates -/

/-- What becomes of a task when something happens. -/
inductive Fate where
  /-- It goes on waiting. -/
  | waits
  /-- Its delay is over, and a busy loop follows. -/
  | works
  /-- It ends, if there is a way for it to end. -/
  | ends (ending : Option Ending)
  deriving DecidableEq

namespace Task

/-- The task holds a receiver of the shutdown. -/
def holds (task : Task) : Bool := task.stage.receiver?.isSome

/-- The task sleeps and watches the shutdown. -/
def isAsleep (task : Task) : Bool :=
  match task.stage with
  | .asleep .. => true
  | _ => false

/-- The task waits for the shutdown and for nothing else. -/
def isListening (task : Task) : Bool :=
  match task.stage with
  | .listening _ => true
  | _ => false

/-- The delay is over, and the busy loop too. -/
def completionFate (settings : OperationSettings) (now : Nat) (task : Task) : Fate :=
  .ends (task.purpose.success? (Service.reportOf settings (now - task.started)))

/-- What a task waited for is there. -/
def wakeFate (deployment : Deployment) (now : Nat) (task : Task) : Fate :=
  match task.stage, task.purpose with
  | .asleep .., .delay => task.completionFate deployment.settings.operation now
  | .asleep .., _ =>
    if task.rounds = 0 then task.completionFate deployment.settings.operation now else .works
  | .busy, _ => task.completionFate deployment.settings.operation now
  | .relaying url _, .relay exchange _ =>
    .ends (some (exchange.answer
      (Relay.problemOf deployment.settings.outbound (.unanswered url)).response))
  | _, _ => .waits

/-- Something is due for a task. -/
def attendFate (deployment : Deployment) (now : Nat) (task : Task) : Fate :=
  match task.purpose.exchange? with
  | some exchange =>
    if task.isLateAt now then .ends (some (exchange.answer Service.timedOut))
    else task.wakeFate deployment now
  | none => task.wakeFate deployment now

/-- The clock shows a time. -/
def dueFate (deployment : Deployment) (now : Nat) (task : Task) : Fate :=
  if task.isDueAt now then task.attendFate deployment now else .waits

/-- Busy loops come to their end. -/
def settleFate (deployment : Deployment) (now : Nat) (task : Task) : Fate :=
  if task.stage = .busy then task.wakeFate deployment now else .waits

/-- The shutdown has sent messages. -/
def interruptFate (signals : Broadcast) (task : Task) : Fate :=
  match task.stage with
  | .asleep _ receiver | .listening receiver =>
    if receiver.isReady signals then .ends (some task.purpose.abortion) else .waits
  | _ => .waits

end Task

/-! ### A task meets its fate -/

namespace Service

/-- The service without its log and its counters. -/
def bare (service : Service) : Service := { service with metrics := {}, journal := [] }

/-- The task of a number ends, if there is a way for it to end. -/
def conclude (service : Service) (serial : Nat) : Option Ending → Service
  | some ending => service.finish serial ending
  | none => service

/-- A task meets its fate. -/
def meet (service : Service) (task : Task) : Fate → Service
  | .waits => service
  | .works =>
    { service.replace { task with stage := .busy } with
      shutdown := if task.holds then service.shutdown.release else service.shutdown }
  | .ends ending => (service.remove task).conclude task.serial ending

variable (deployment : Deployment) (service : Service) (task : Task) (serial : Nat)

@[simp] theorem bare_record (events : List Event) : (service.record events).bare = service.bare :=
  rfl

@[simp] theorem bare_finish (ending : Ending) :
    (service.finish serial ending).bare = service.bare.finish serial ending := rfl

@[simp] theorem bare_answer (exchange : Exchange) (response : Http.Response) :
    (service.answer serial exchange response).bare =
      service.bare.finish serial (exchange.answer response) := rfl

@[simp] theorem bare_refuse (exchange : Exchange) (problem : Http.Problem) :
    (service.refuse serial exchange problem).bare =
      service.bare.finish serial (exchange.answer problem.response) := rfl

theorem bare_abort :
    (service.abort task).bare = service.bare.finish task.serial task.purpose.abortion := by
  unfold abort
  split
  · rename_i policy same
    rw [same]
    cases policy <;> rfl
  all_goals
    rename_i same
    simp only [same, Purpose.abortion, bare_refuse, bare_answer, bare_record, bare_finish]

theorem bare_complete :
    (service.complete deployment task).bare =
      service.bare.conclude task.serial
        (task.purpose.success? (reportOf deployment.settings.operation
          (service.now - task.started))) := by
  unfold complete
  simp only
  split
  all_goals
    rename_i same
    simp only [same, Purpose.success?, conclude, bare_answer, bare_record, bare_finish]
  rfl

/-- A task is taken away to be completed. -/
theorem bare_complete_remove :
    ((service.remove task).complete deployment task).bare =
      service.bare.meet task
        (task.completionFate deployment.settings.operation service.now) := by
  rw [bare_complete]
  rfl

/-- The delay of a task is over and it has to be busy. -/
theorem bare_replace_busy (holds : task.holds = true) :
    ({ service.replace { task with stage := .busy } with
        shutdown := service.shutdown.release } : Service).bare = service.bare.meet task .works := by
  rw [meet, if_pos holds]
  rfl

/-- What a task waited for is there, and it meets its fate. -/
theorem bare_wake :
    (service.wake deployment task).bare =
      service.bare.meet task (task.wakeFate deployment service.now) := by
  obtain ⟨serial, purpose, delaySeconds, rounds, started, stage⟩ := task
  cases stage with
  | asleep wake receiver =>
    cases purpose with
    | delay => exact bare_complete_remove deployment service _
    | _ =>
      simp only [Service.wake, Task.wakeFate]
      split
      · exact bare_complete_remove deployment service _
      · refine bare_replace_busy service ⟨serial, _, delaySeconds, rounds, started, _⟩ ?_
        rfl
  | busy => exact bare_complete_remove deployment service _
  | listening receiver => rfl
  | relaying url giveUp => cases purpose <;> rfl

/-- Something is due for a task, and it meets its fate. -/
theorem bare_attend :
    (service.attend deployment task).bare =
      service.bare.meet task (task.attendFate deployment service.now) := by
  unfold attend Task.attendFate
  cases task.purpose.exchange? with
  | none => exact bare_wake deployment service task
  | some exchange =>
    simp only
    split
    · rfl
    · exact bare_wake deployment service task

/-- The shutdown has sent messages, and a task meets its fate. -/
theorem bare_interrupt :
    (service.interrupt task).bare =
      service.bare.meet task (task.interruptFate service.shutdown.signals) := by
  unfold interrupt Task.interruptFate
  cases task.stage with
  | asleep wake receiver =>
    simp only
    split
    · rw [bare_abort]
      rfl
    · rfl
  | listening receiver =>
    simp only
    split
    · rw [bare_abort]
      rfl
    · rfl
  | busy => rfl
  | relaying url giveUp => rfl

end Service

end LatencyService
