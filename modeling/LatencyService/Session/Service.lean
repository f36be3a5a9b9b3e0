/-
The running service: a clock, the shutdown, the tasks that have not ended, and
what has been counted and logged. Time stands still while tasks run; it moves
only when the clock is moved, and then everything that is due happens.

Of a busy loop no more is known than that it takes no time: it ends when the
next thing is about to happen.
-/

import LatencyService.Http.Dispatch
import LatencyService.Operation.BusyLoop
import LatencyService.Operation.Elapsed
import LatencyService.Outbound.Relay
import LatencyService.Session.Task

namespace LatencyService

/-- What stays the same while the service runs. -/
structure Deployment where
  settings : Settings
  /-- The identifier for the request with a serial number, if it brings none. -/
  identifiers : Nat → String

/-- The running service. -/
structure Service where
  backend : Backend
  /-- The clock, in milliseconds. -/
  now : Nat := 0
  shutdown : Shutdown := {}
  /-- The tasks that have not ended, in the order in which they began. -/
  tasks : List Task := []
  metrics : Metrics := {}
  /-- The log, latest first. -/
  journal : List LogEntry := []
  /-- What has ended since this was last asked, latest first. -/
  ended : List Completion := []
  /-- How many tasks have begun. -/
  begun : Nat := 0

namespace Service

/-! ### Small changes -/

/-- Log events in their order. -/
def record (service : Service) (events : List Event) : Service :=
  { service with journal := (events.map LogEntry.event).reverse ++ service.journal }

/-- The task of a number ends. -/
def finish (service : Service) (serial : Nat) (ending : Ending) : Service :=
  { service with ended := ⟨serial, service.now, ending⟩ :: service.ended }

/-- Take a task away, with the receiver that it holds. -/
def remove (service : Service) (task : Task) : Service :=
  { service with
    tasks := service.tasks.filter (·.serial != task.serial)
    shutdown := if task.stage.receiver?.isSome then service.shutdown.release else service.shutdown }

/-- Put a task in the place of the one of its number. -/
def replace (service : Service) (task : Task) : Service :=
  { service with
    tasks := service.tasks.map fun other => if other.serial == task.serial then task else other }

/-- One more task begins; its number is how many had begun before. -/
def enroll (service : Service) : Service := { service with begun := service.begun + 1 }

/-! ### Answers -/

/-- The header that carries the identifier of a request. -/
def identifierHeader : String := "x-request-id"

/-- The response as it leaves the service. -/
def sealResponse (isHead : Bool) (identifier : Octets) (response : Http.Response) :
    Http.Response :=
  (if isHead then response.headOnly else response).withHeader identifierHeader identifier

/-- Answer a request that has found its endpoint, and count the answer. -/
def answer (service : Service) (serial : Nat) (exchange : Exchange) (response : Http.Response) :
    Service :=
  let counted :=
    { service with metrics := service.metrics.recordRequest exchange.route response.status }
  counted.finish serial (.answered (sealResponse exchange.isHead exchange.identifier response))

/-- Answer a request with a problem. -/
def refuse (service : Service) (serial : Nat) (exchange : Exchange) (problem : Http.Problem) :
    Service :=
  (service.record [problem.event]).answer serial exchange problem.response

/-- The response to a request that took too long, which is counted nowhere. -/
def timedOut : Http.Response := .empty 408 []

/-! ### The ends of tasks -/

/-- The end of a service call whose operation was aborted, or was not. -/
def endService (service : Service) (serial : Nat) (policy : AbortPolicy) (isAborted : Bool) :
    Service :=
  match isAborted, policy with
  | true, .propagate => service.finish serial .aborted
  | true, .logAndDefault =>
    (service.record [.serviceFailed Http.Problem.aborted.message]).finish serial (.served .empty)
  | false, _ => service.finish serial (.served .empty)

/-- A task is aborted. -/
def abort (service : Service) (task : Task) : Service :=
  match task.purpose with
  | .service policy => service.endService task.serial policy true
  | .wait => service.finish task.serial .woken
  | .demo exchange _ => service.refuse task.serial exchange .aborted
  | .demoService exchange =>
    (service.record [.serviceFailed Http.Problem.aborted.message]).answer task.serial exchange
      (.json 200 Reply.empty.render)
  | .relay exchange _ => service.refuse task.serial exchange .aborted
  | .delay | .operation => service.finish task.serial .aborted

/-- The report of an operation that took so many milliseconds. -/
def reportOf (settings : OperationSettings) (elapsed : Nat) : Report where
  environment := some settings.environment
  data := some (Elapsed.message (Span.ofMilliseconds elapsed).wholeSeconds)

/-- What is logged when an operation is complete. -/
def completionEvents (settings : OperationSettings) (task : Task) (elapsed : Nat) : List Event :=
  (if task.rounds = 0 then []
    else [.busyLoopFinished task.rounds (BusyLoop.burn task.rounds settings.burnIterations)]) ++
    [.operationComplete task.delaySeconds task.rounds elapsed]

/-- A task has slept, and been busy if it had to. -/
def complete (deployment : Deployment) (service : Service) (task : Task) : Service :=
  let settings := deployment.settings.operation
  let elapsed := service.now - task.started
  let report := reportOf settings elapsed
  let logged := service.record (completionEvents settings task elapsed)
  match task.purpose with
  | .delay => service.finish task.serial .slept
  | .operation => logged.finish task.serial (.completed report)
  | .service policy => logged.endService task.serial policy false
  | .demo exchange header =>
    logged.answer task.serial exchange (.json 200 (Reply.full header report).render)
  | .demoService exchange => logged.answer task.serial exchange (.json 200 Reply.empty.render)
  | .wait | .relay .. => service

/-- A relayed call has failed. -/
def failRelay (deployment : Deployment) (service : Service) (serial : Nat) (exchange : Exchange)
    (failure : CallFailure) : Service :=
  let settings := deployment.settings.outbound
  let service := service.record [Relay.eventAfterFailure settings failure]
  { service with metrics := service.metrics.recordRelay none }.refuse serial exchange
    (Relay.problemOf settings failure)

/-- A relayed call has brought a response. -/
def finishRelay (service : Service) (serial : Nat) (exchange : Exchange) (header : Header)
    (relayed : Relay.Relayed) : Service :=
  let service := service.record (Relay.eventsAfter relayed)
  let counted := { service with metrics := service.metrics.recordRelay (some relayed.status) }
  counted.answer serial exchange (.json 200 (Reply.full header (.ofData relayed.body)).render)

/-! ### What happens to a task -/

/-- What a task waits for is there. -/
def wake (deployment : Deployment) (service : Service) (task : Task) : Service :=
  match task.stage, task.purpose with
  | .asleep .., .delay => (service.remove task).complete deployment task
  | .asleep .., _ =>
    if task.rounds = 0 then (service.remove task).complete deployment task
    else
      let service := service.replace { task with stage := .busy }
      { service with shutdown := service.shutdown.release }
  | .busy, _ => (service.remove task).complete deployment task
  | .relaying url _, .relay exchange _ =>
    (service.remove task).failRelay deployment task.serial exchange (.unanswered url)
  | _, _ => service

/-- What is due for a task happens: its deadline counts before anything else. -/
def attend (deployment : Deployment) (service : Service) (task : Task) : Service :=
  match task.purpose.exchange? with
  | some exchange =>
    if task.isLateAt service.now then
      (service.remove task).finish task.serial
        (.answered (sealResponse exchange.isHead exchange.identifier timedOut))
    else service.wake deployment task
  | none => service.wake deployment task

/-- Everything that is due happens, in the order of time and then of beginning. -/
def runDue (deployment : Deployment) (service : Service) : Service :=
  let due := service.tasks.filter (·.isDueAt service.now)
  (due.mergeSort fun first second => first.due?.getD 0 ≤ second.due?.getD 0).foldl
    (attend deployment) service

/-- All busy loops end. -/
def endBusy (deployment : Deployment) (service : Service) : Service :=
  (service.tasks.filter (·.stage == .busy)).foldl (wake deployment) service

/-- The shutdown reaches a task that has a message to receive. -/
def interrupt (service : Service) (task : Task) : Service :=
  match task.stage with
  | .asleep _ receiver =>
    if receiver.isReady service.shutdown.signals then
      ((service.remove task).record [.delayInterrupted task.delaySeconds]).abort task
    else service
  | .listening receiver =>
    if receiver.isReady service.shutdown.signals then (service.remove task).abort task else service
  | _ => service

/-- The shutdown is triggered, and reaches all tasks in the order in which they began. -/
def trigger (service : Service) : Service :=
  let service := { service with shutdown := service.shutdown.trigger }
  service.tasks.foldl interrupt service

/-! ### The beginnings of tasks -/

/-- A task that sleeps begins: it subscribes to the shutdown, looks whether that has been triggered,
and goes to sleep if not. -/
def beginSleep (deployment : Deployment) (service : Service) (serial : Nat) (purpose : Purpose)
    (delaySeconds rounds : UInt64) : Service :=
  let (receiver, shutdown) := service.shutdown.subscribe
  let stage := Stage.asleep (service.now + 1000 * delaySeconds.toNat) receiver
  let task : Task := { serial, purpose, delaySeconds, rounds, started := service.now, stage }
  let service := { service with shutdown, tasks := service.tasks ++ [task] }
  if shutdown.isTriggered then (service.remove task).abort task
  else service.runDue deployment

/-- A task that waits for the shutdown begins in the same way. -/
def beginWait (service : Service) (serial : Nat) : Service :=
  let (receiver, shutdown) := service.shutdown.subscribe
  let task : Task :=
    { serial, purpose := .wait, started := service.now, stage := .listening receiver }
  let service := { service with shutdown, tasks := service.tasks ++ [task] }
  if shutdown.isTriggered then (service.remove task).abort task else service

/-- The number of seconds or rounds that an order asks for; a negative one asks for none. -/
def atLeastZero (value : Int32) : UInt64 := value.toInt.toNat.toUInt64

/-- A relayed call begins, and ends at once unless no response comes. -/
def beginRelay (deployment : Deployment) (service : Service) (serial : Nat) (exchange : Exchange)
    (header : Header) : Service :=
  let settings := deployment.settings.outbound
  let (outcome, backend) := Relay.run settings service.backend
  let service := { service with backend }.record (Relay.eventsBefore settings)
  match outcome with
  | .relayed relayed => service.finishRelay serial exchange header relayed
  | .failed failure => service.failRelay deployment serial exchange failure
  | .pending url =>
    let giveUp := settings.timeoutSeconds.map fun seconds => service.now + 1000 * seconds.toNat
    let task : Task :=
      { serial, purpose := .relay exchange header, started := service.now
        stage := .relaying url giveUp }
    { service with tasks := service.tasks ++ [task] }.runDue deployment

/-- The identifier of a request, and what the log calls it: the first one that it brings, or else a
new one. -/
def identify (deployment : Deployment) (serial : Nat) (request : Http.Request) :
    Octets × String :=
  match Http.header? request.headers identifierHeader with
  | some value => (value, (Http.visible? value).getD "unknown")
  | none =>
    let identifier := deployment.identifiers serial
    (Octets.ofText identifier, identifier)

/-- A request comes. When no time at all is left for it, it is not even looked at. -/
def beginRequest (deployment : Deployment) (service : Service) (serial : Nat)
    (request : Http.Request) : Service :=
  let (identifier, shown) := identify deployment serial request
  let service :=
    { service with journal := .span request.method request.path shown :: service.journal }
  let isHead := request.method == "HEAD"
  let deadline := deployment.settings.timeouts.requestSeconds.map fun seconds =>
    service.now + 1000 * seconds.toNat
  if deadline == some service.now then
    service.finish serial (.answered (sealResponse isHead identifier timedOut))
  else
    let exchange := fun (route : Http.Route) => (⟨route, identifier, isHead, deadline⟩ : Exchange)
    match Http.Dispatch.ofRequest request with
    | .unmatched response =>
      service.finish serial (.answered (sealResponse isHead identifier response))
    | .answered route response events =>
      (service.record events).answer serial (exchange route) response
    | .demo header order =>
      (service.record
        [.demoRequest header.messageId header.transaction order.delay order.rounds]).beginSleep
        deployment serial (.demo (exchange .demo) header) (atLeastZero order.delay)
        (atLeastZero order.rounds)
    | .demoService order =>
      service.beginSleep deployment serial (.demoService (exchange .demoService))
        (atLeastZero order.delay) 0
    | .relay header => service.beginRelay deployment serial (exchange .relay) header

/-- A request comes, and gets the next number. -/
def admitRequest (deployment : Deployment) (service : Service) (request : Http.Request) : Service :=
  service.enroll.beginRequest deployment service.begun request

/-! ### Time -/

/-- The next time at which something happens by itself. -/
def nextDue? (service : Service) : Option Nat :=
  service.tasks.foldl (fun due task => earlier? due task.due?) none

/-- A task has not ended. -/
def isLive (service : Service) (serial : Nat) : Bool := service.tasks.any (·.serial == serial)

/-- Move the clock, and let happen what is due. -/
def moveTo (deployment : Deployment) (service : Service) (now : Nat) : Service :=
  { service with now := max service.now now }.runDue deployment

/-- Let time pass, from one moment at which something happens to the next, until a task has ended or
the last moment has come; nothing moves the clock when nothing is left to happen. Every round ends
a wait of at least one task, and a task waits at most twice by itself, which bounds `fuel`. -/
def passTime (deployment : Deployment) (serial : Nat) (last : Option Nat) (fuel : Nat)
    (service : Service) : Service :=
  match fuel with
  | 0 => service
  | fuel + 1 =>
    if !service.isLive serial then service
    else
      let service := service.endBusy deployment
      if !service.isLive serial then service
      else
        let stop := (last.map (service.moveTo deployment)).getD service
        match service.nextDue? with
        | none => stop
        | some due =>
          if last.any (· < due) then stop
          else passTime deployment serial last fuel (service.moveTo deployment due)

/-- Let time pass until a task has ended. -/
def waitFor (deployment : Deployment) (service : Service) (serial : Nat) (last : Option Nat) :
    Service :=
  service.passTime deployment serial last (3 * service.tasks.length + 3)

/-! ### Requests one after the other -/

/-- Answer a request, however long it takes. -/
def serve (deployment : Deployment) (service : Service) (request : Http.Request) :
    Option Http.Response × Service :=
  let begun := ({ service with ended := [] } : Service).admitRequest deployment request
  let service := begun.waitFor deployment service.begun none
  match service.ended with
  | ⟨_, _, .answered response⟩ :: _ => (some response, service)
  | _ => (none, service)

/-- The service as it starts. -/
def start (deployment : Deployment) (backend : Backend) : Service :=
  let settings := deployment.settings
  { backend
    journal :=
      [.event (.serverInitialized settings.operation.environment settings.outbound.url)] }

end Service

end LatencyService
