/-
Waiters and signallers of one shutdown, action by action. A waiter subscribes,
looks at the flag, and then waits for a message, unless it gives up before; a
signaller raises the flag and then announces it. Any number of them act, and
their actions come in any order.
-/

import LatencyService.Shutdown.Basic

namespace LatencyService

/-- How far a waiter has come. -/
inductive Waiter where
  | fresh
  /-- It has yet to look at the flag. -/
  | subscribed (receiver : Receiver)
  /-- It did not see the flag, and waits for a message. -/
  | blocked (receiver : Receiver)
  /-- It has seen the flag, received a message or given up. -/
  | finished
  deriving DecidableEq, Repr

/-- How far a signaller has come. -/
inductive Signaller where
  | fresh
  /-- It has yet to announce what it has raised. -/
  | raised
  | finished
  deriving DecidableEq, Repr

/-- A shutdown, and all who wait for it or bring it about. -/
structure Interleaving where
  shutdown : Shutdown := {}
  waiters : List Waiter
  signallers : List Signaller
  deriving DecidableEq, Repr

namespace Interleaving

/-- An action of the waiter or the signaller with an index. -/
inductive Action where
  | subscribe (index : Nat)
  | look (index : Nat)
  | receive (index : Nat)
  /-- A delay comes to its end, or whoever waits is cancelled. -/
  | giveUp (index : Nat)
  | raise (index : Nat)
  | announce (index : Nat)
  deriving DecidableEq, Repr

/-- Nobody has done anything yet. -/
def start (waiters signallers : Nat) : Interleaving where
  waiters := List.replicate waiters .fresh
  signallers := List.replicate signallers .fresh

/-- The waiter with an index has come to a point, and the shutdown with it. -/
def moveWaiter (state : Interleaving) (index : Nat) (waiter : Waiter) (shutdown : Shutdown) :
    Interleaving :=
  { state with shutdown, waiters := state.waiters.set index waiter }

/-- The signaller with an index has come to a point, and the shutdown with it. -/
def moveSignaller (state : Interleaving) (index : Nat) (signaller : Signaller)
    (shutdown : Shutdown) : Interleaving :=
  { state with shutdown, signallers := state.signallers.set index signaller }

/-- What an action leads to, if it can be taken. -/
def step? (state : Interleaving) (action : Action) : Option Interleaving :=
  match action with
  | .subscribe index =>
    match state.waiters[index]? with
    | some .fresh =>
      let (receiver, shutdown) := state.shutdown.subscribe
      some (state.moveWaiter index (.subscribed receiver) shutdown)
    | _ => none
  | .look index =>
    match state.waiters[index]? with
    | some (.subscribed receiver) =>
      if state.shutdown.isTriggered then
        some (state.moveWaiter index .finished state.shutdown.release)
      else some (state.moveWaiter index (.blocked receiver) state.shutdown)
    | _ => none
  | .receive index =>
    match state.waiters[index]? with
    | some (.blocked receiver) =>
      if receiver.isReady state.shutdown.signals then
        some (state.moveWaiter index .finished state.shutdown.release)
      else none
    | _ => none
  | .giveUp index =>
    match state.waiters[index]? with
    | some (.subscribed _) | some (.blocked _) =>
      some (state.moveWaiter index .finished state.shutdown.release)
    | _ => none
  | .raise index =>
    match state.signallers[index]? with
    | some .fresh => some (state.moveSignaller index .raised state.shutdown.raise)
    | _ => none
  | .announce index =>
    match state.signallers[index]? with
    | some .raised => some (state.moveSignaller index .finished state.shutdown.announce)
    | _ => none

/-- The states that actions lead to. -/
inductive Reachable (waiters signallers : Nat) : Interleaving → Prop where
  | start : Reachable waiters signallers (start waiters signallers)
  | step {state next : Interleaving} {action : Action} (before : Reachable waiters signallers state)
      (taken : state.step? action = some next) : Reachable waiters signallers next

end Interleaving

end LatencyService
