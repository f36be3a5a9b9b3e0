/-
Scenarios: what is done to the running service, step by step, and what is
observed after each step. Busy loops that were still turning end before the
next step does anything, except that a task can be cancelled before.
-/

import LatencyService.Session.Service

namespace LatencyService

/-- Something that is done to the service. -/
inductive Action where
  | request (name : String) (request : Http.Request)
  | operation (name : String) (delaySeconds rounds : UInt64)
  | delay (name : String) (delaySeconds : UInt64)
  | service (name : String) (policy : AbortPolicy) (order : Order)
  | wait (name : String)
  /-- Hold a receiver of the shutdown. -/
  | subscribe (name : String)
  /-- Receive without waiting. -/
  | receive (name : String)
  /-- Let go of a receiver. -/
  | letGo (name : String)
  /-- Stop a task. -/
  | cancel (name : String)
  | trigger
  /-- Look, and do nothing. -/
  | look
  /-- Move the clock. -/
  | advance (milliseconds : Nat)
  /-- Let time pass until a task has ended. -/
  | join (name : String)
  deriving Repr

/-- What an action tells. -/
inductive Verdict where
  | nothing
  | received (received : Received)
  /-- Whether there was such a receiver. -/
  | hadReceiver (existed : Bool)
  /-- Whether the task was stopped before its end. -/
  | stopped (early : Bool)
  | joined
  | neverEnded
  deriving DecidableEq, Repr

/-- What is observed after a step. -/
structure Observation where
  verdict : Verdict
  /-- What ended during the step, under its name, in the order of ending. -/
  ended : List (String × Completion)
  isTriggered : Bool
  receiverCount : Nat
  now : Nat
  deriving Repr

/-- A running service, and the names of what was begun and is held there. -/
structure Scene where
  service : Service
  /-- The names of all tasks that have begun, by their numbers. -/
  names : List (Nat × String) := []
  /-- The numbers of the tasks that can be joined and cancelled, by their names. -/
  handles : List (String × Nat) := []
  /-- Receivers of the shutdown that are held by name. -/
  receivers : List (String × Receiver) := []

namespace Scene

/-! ### Names -/

/-- A task begins under a name, which then stands for no other. -/
def startTask (scene : Scene) (name : String) (start : Nat → Service → Service) : Scene :=
  let serial := scene.service.begun
  { scene with
    service := start serial scene.service.enroll
    names := (serial, name) :: scene.names
    handles := (name, serial) :: scene.handles.filter (·.1 != name) }

/-- Nobody asks for the task of a name any more. -/
def forget (scene : Scene) (name : String) : Scene :=
  { scene with handles := scene.handles.filter (·.1 != name) }

/-- Something happens to the service. -/
def change (scene : Scene) (step : Service → Service) : Scene :=
  { scene with service := step scene.service }

/-! ### Tasks -/

/-- Stop the task of a name. -/
def cancel (scene : Scene) (name : String) : Verdict × Scene :=
  match scene.handles.lookup name with
  | none => (.nothing, scene)
  | some serial =>
    match scene.service.tasks.find? (·.serial == serial) with
    | some task => (.stopped true, (scene.forget name).change (·.remove task))
    | none => (.stopped false, scene.forget name)

/-- How long a task is waited for, in milliseconds. -/
def patience : Nat := 1000000000

/-- Let time pass until the task of a name has ended. -/
def join (deployment : Deployment) (scene : Scene) (name : String) : Verdict × Scene :=
  match scene.handles.lookup name with
  | none => (.nothing, scene)
  | some serial =>
    let last := scene.service.now + patience
    let later := scene.change fun service => service.waitFor deployment serial (some last)
    if later.service.isLive serial then (.neverEnded, later) else (.joined, later.forget name)

/-! ### Receivers -/

/-- Let go of the receiver of a name. -/
def letGo (scene : Scene) (name : String) : Scene :=
  if (scene.receivers.lookup name).isSome then
    { scene with
      service := { scene.service with shutdown := scene.service.shutdown.release }
      receivers := scene.receivers.filter (·.1 != name) }
  else scene

/-- Hold a receiver under a name; one that was held under it before is let go. -/
def hold (scene : Scene) (name : String) : Scene :=
  let scene := scene.letGo name
  let (receiver, shutdown) := scene.service.shutdown.subscribe
  { scene with
    service := { scene.service with shutdown }
    receivers := scene.receivers ++ [(name, receiver)] }

/-- Receive from the receiver of a name. -/
def receive (scene : Scene) (name : String) : Verdict × Scene :=
  match scene.receivers.lookup name with
  | none => (.nothing, scene)
  | some receiver =>
    let (received, receiver) := receiver.receive scene.service.shutdown.signals
    (.received received,
      { scene with
        receivers := scene.receivers.map fun entry =>
          if entry.1 == name then (name, receiver) else entry })

/-! ### Actions -/

/-- Carry out an action when no busy loop is turning. -/
def act (deployment : Deployment) (scene : Scene) (action : Action) : Verdict × Scene :=
  match action with
  | .request name request =>
    (.nothing, scene.startTask name fun serial service =>
      service.beginRequest deployment serial request)
  | .operation name delaySeconds rounds =>
    (.nothing, scene.startTask name fun serial service =>
      service.beginSleep deployment serial .operation delaySeconds rounds)
  | .delay name delaySeconds =>
    (.nothing, scene.startTask name fun serial service =>
      service.beginSleep deployment serial .delay delaySeconds 0)
  | .service name policy order =>
    (.nothing, scene.startTask name fun serial service =>
      service.beginSleep deployment serial (.service policy) (Service.atLeastZero order.delay) 0)
  | .wait name =>
    (.nothing, scene.startTask name fun serial service => service.beginWait serial)
  | .subscribe name => (.nothing, scene.hold name)
  | .receive name => scene.receive name
  | .letGo name => (.hadReceiver (scene.receivers.lookup name).isSome, scene.letGo name)
  | .cancel name => scene.cancel name
  | .trigger => (.nothing, scene.change Service.trigger)
  | .look => (.nothing, scene)
  | .advance milliseconds =>
    (.nothing, scene.change fun service =>
      service.moveTo deployment (service.now + milliseconds))
  | .join name => scene.join deployment name

/-- Carry out an action. Busy loops end before it, unless it stops a task: then they end behind. -/
def perform (deployment : Deployment) (scene : Scene) (action : Action) : Verdict × Scene :=
  match action with
  | .cancel name =>
    let (verdict, scene) := scene.cancel name
    (verdict, scene.change (·.endBusy deployment))
  | action => (scene.change (·.endBusy deployment)).act deployment action

/-- What is observed in a scene, when an action has told something. -/
def observe (scene : Scene) (verdict : Verdict) : Observation where
  verdict := verdict
  ended := scene.service.ended.reverse.map fun completion =>
    ((scene.names.lookup completion.serial).getD "", completion)
  isTriggered := scene.service.shutdown.isTriggered
  receiverCount := scene.service.shutdown.receiverCount
  now := scene.service.now

/-- Carry out an action and observe what has become of the service. -/
def step (deployment : Deployment) (scene : Scene) (action : Action) : Observation × Scene :=
  let quiet := scene.change fun service => { service with ended := [] }
  let (verdict, scene) := quiet.perform deployment action
  (scene.observe verdict, scene)

/-- Carry out actions one after the other. -/
def play (deployment : Deployment) (scene : Scene) : List Action → List Observation × Scene
  | [] => ([], scene)
  | action :: rest =>
    let (observation, scene) := scene.step deployment action
    let (observations, scene) := play deployment scene rest
    (observation :: observations, scene)

end Scene

end LatencyService
