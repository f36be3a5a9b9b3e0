/-
The shutdown of the service: a flag that is raised once and for all, and a
broadcast that wakes whoever waits. Whoever waits subscribes first and looks
at the flag then, and the flag is raised before the broadcast is sent; so a
shutdown is either seen in the flag or received.
-/

import LatencyService.Shutdown.Broadcast

namespace LatencyService

/-- The state of the shutdown. -/
structure Shutdown where
  isTriggered : Bool := false
  signals : Broadcast := {}
  deriving DecidableEq, Repr, Inhabited

namespace Shutdown

/-- A new receiver of the shutdown. -/
def subscribe (shutdown : Shutdown) : Receiver × Shutdown :=
  (shutdown.signals.subscribe.1, { shutdown with signals := shutdown.signals.subscribe.2 })

/-- One receiver is gone. -/
def release (shutdown : Shutdown) : Shutdown :=
  { shutdown with signals := shutdown.signals.release }

/-- Raise the flag. -/
def raise (shutdown : Shutdown) : Shutdown := { shutdown with isTriggered := true }

/-- Wake all receivers. -/
def announce (shutdown : Shutdown) : Shutdown :=
  { shutdown with signals := shutdown.signals.send }

/-- Trigger the shutdown: raise the flag, then wake all receivers. -/
def trigger (shutdown : Shutdown) : Shutdown := shutdown.raise.announce

/-- How many receivers there are. -/
def receiverCount (shutdown : Shutdown) : Nat := shutdown.signals.receivers

@[simp] theorem isTriggered_trigger (shutdown : Shutdown) : shutdown.trigger.isTriggered = true :=
  rfl

@[simp] theorem isTriggered_subscribe (shutdown : Shutdown) :
    shutdown.subscribe.2.isTriggered = shutdown.isTriggered := rfl

@[simp] theorem isTriggered_release (shutdown : Shutdown) :
    shutdown.release.isTriggered = shutdown.isTriggered := rfl

@[simp] theorem receiverCount_subscribe (shutdown : Shutdown) :
    shutdown.subscribe.2.receiverCount = shutdown.receiverCount + 1 := rfl

@[simp] theorem receiverCount_release (shutdown : Shutdown) :
    shutdown.release.receiverCount = shutdown.receiverCount - 1 := rfl

@[simp] theorem receiverCount_trigger (shutdown : Shutdown) :
    shutdown.trigger.receiverCount = shutdown.receiverCount := by
  by_cases alone : shutdown.signals.receivers = 0 <;>
    simp [receiverCount, trigger, announce, raise, Broadcast.send, alone]

end Shutdown

end LatencyService
