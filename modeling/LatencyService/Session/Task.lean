/-
The tasks of the service: what each is for, and what it waits for. A task that
sleeps or listens holds a receiver of the shutdown; one that is busy, or waits
for a relayed call, holds none. A request has a deadline of its own, at which
it is answered whatever its task waits for.
-/

import LatencyService.Envelope.Reply
import LatencyService.Http.Message
import LatencyService.Http.Route
import LatencyService.Outbound.Backend
import LatencyService.Shutdown.Basic

namespace LatencyService

/-- What becomes of a service call whose operation is aborted. -/
inductive AbortPolicy where
  /-- It is aborted, too. -/
  | propagate
  /-- The abortion is logged, and the call answered as if nothing had happened. -/
  | logAndDefault
  deriving DecidableEq, Repr

/-- A request that is being answered. -/
structure Exchange where
  route : Http.Route
  /-- The identifier that the response has to carry. -/
  identifier : Octets
  /-- The head of the response is all that is asked for. -/
  isHead : Bool
  /-- When the request is given up, in milliseconds. -/
  deadline : Option Nat
  deriving DecidableEq, Repr

/-- What a task is for. -/
inductive Purpose where
  | delay
  | operation
  | service (policy : AbortPolicy)
  | wait
  | demo (exchange : Exchange) (header : Header)
  | demoService (exchange : Exchange)
  | relay (exchange : Exchange) (header : Header)
  deriving DecidableEq, Repr

/-- What a task waits for. -/
inductive Stage where
  /-- The end of its delay, or the shutdown. -/
  | asleep (wake : Nat) (receiver : Receiver)
  /-- The end of its busy loop. -/
  | busy
  /-- The shutdown. -/
  | listening (receiver : Receiver)
  /-- A response from a URL; the call may be given up. -/
  | relaying (url : Url) (giveUp : Option Nat)
  deriving DecidableEq, Repr

/-- A task that has begun and not ended. -/
structure Task where
  /-- How many tasks had begun before; no other task has the same number. -/
  serial : Nat
  purpose : Purpose
  /-- Seconds to sleep. -/
  delaySeconds : UInt64 := 0
  /-- Rounds of the busy loop. -/
  rounds : UInt64 := 0
  /-- When it began, in milliseconds. -/
  started : Nat
  stage : Stage
  deriving DecidableEq, Repr

/-- How a task ends. -/
inductive Ending where
  | slept
  | completed (report : Report)
  | served (reply : Reply)
  | aborted
  | woken
  | answered (response : Http.Response)
  deriving DecidableEq, Repr

/-- A task that has ended: its number, when it ended in milliseconds, and how. -/
structure Completion where
  serial : Nat
  time : Nat
  ending : Ending
  deriving DecidableEq, Repr

namespace Purpose

/-- The request that a task answers. -/
def exchange? : Purpose → Option Exchange
  | demo exchange _ | demoService exchange | relay exchange _ => some exchange
  | _ => none

end Purpose

namespace Stage

/-- The receiver that a task holds. -/
def receiver? : Stage → Option Receiver
  | asleep _ receiver | listening receiver => some receiver
  | _ => none

/-- When the wait ends by itself. -/
def due? : Stage → Option Nat
  | asleep wake _ => some wake
  | relaying _ giveUp => giveUp
  | _ => none

end Stage

/-- The earlier of two times, either of which may be missing. -/
def earlier? : Option Nat → Option Nat → Option Nat
  | some first, some second => some (min first second)
  | first, none => first
  | none, second => second

namespace Task

/-- When the request of a task is given up. -/
def deadline? (task : Task) : Option Nat := task.purpose.exchange?.bind Exchange.deadline

/-- When something happens to a task by itself. -/
def due? (task : Task) : Option Nat := earlier? task.stage.due? task.deadline?

/-- Something happens to the task at a time. -/
def isDueAt (task : Task) (now : Nat) : Bool := task.due?.any (· ≤ now)

/-- The request of a task is given up at a time. -/
def isLateAt (task : Task) (now : Nat) : Bool := task.deadline?.any (· ≤ now)

end Task

end LatencyService
