/-
A broadcast with room for one message. Every receiver gets every message sent
after it subscribed, as long as it reads each before the next is sent; of the
messages that were overwritten it learns the number alone. Messages carry
nothing, so that the broadcast only counts them, and a receiver remembers how
many it has accounted for.
-/

namespace LatencyService

/-- A receiver: how many messages were sent before it subscribed, or that it has read or missed. -/
structure Receiver where
  seen : Nat
  deriving DecidableEq, Repr

/-- What a receiver is told when it asks without waiting. -/
inductive Received where
  | empty
  | signal
  /-- So many messages were overwritten before they were read. -/
  | lagged (missed : Nat)
  deriving DecidableEq, Repr

/-- A broadcast: how many messages were sent, and how many receivers there are. -/
structure Broadcast where
  sent : Nat := 0
  receivers : Nat := 0
  deriving DecidableEq, Repr, Inhabited

namespace Broadcast

/-- A new receiver, for which nothing has been sent yet. -/
def subscribe (broadcast : Broadcast) : Receiver × Broadcast :=
  (⟨broadcast.sent⟩, { broadcast with receivers := broadcast.receivers + 1 })

/-- One receiver is gone. -/
def release (broadcast : Broadcast) : Broadcast :=
  { broadcast with receivers := broadcast.receivers - 1 }

/-- Send a message to all receivers; without receivers there is nobody to keep it for. -/
def send (broadcast : Broadcast) : Broadcast :=
  if broadcast.receivers = 0 then broadcast else { broadcast with sent := broadcast.sent + 1 }

end Broadcast

namespace Receiver

/-- How many messages the receiver has not accounted for. -/
def unread (receiver : Receiver) (broadcast : Broadcast) : Nat := broadcast.sent - receiver.seen

/-- There is something to receive. -/
def isReady (receiver : Receiver) (broadcast : Broadcast) : Bool := receiver.unread broadcast != 0

/-- Receive without waiting. A receiver that lags is told how many messages it missed, and the
newest is then still to be read. -/
def receive (receiver : Receiver) (broadcast : Broadcast) : Received × Receiver :=
  match receiver.unread broadcast with
  | 0 => (.empty, receiver)
  | 1 => (.signal, ⟨receiver.seen + 1⟩)
  | missed + 1 => (.lagged missed, ⟨receiver.seen + missed⟩)

end Receiver

/-! ### What the operations do to the unread messages -/

/-- A new receiver has nothing to read. -/
@[simp] theorem Receiver.unread_subscribe (broadcast : Broadcast) :
    broadcast.subscribe.1.unread broadcast.subscribe.2 = 0 := by
  simp [Broadcast.subscribe, Receiver.unread]

/-- Receivers that come or go change nothing for the others. -/
@[simp] theorem Receiver.unread_subscribe_other (receiver : Receiver) (broadcast : Broadcast) :
    receiver.unread broadcast.subscribe.2 = receiver.unread broadcast := rfl

@[simp] theorem Receiver.unread_release (receiver : Receiver) (broadcast : Broadcast) :
    receiver.unread broadcast.release = receiver.unread broadcast := rfl

/-- A message is one more to read for every receiver that has not read ahead. -/
theorem Receiver.unread_send {receiver : Receiver} {broadcast : Broadcast}
    (present : broadcast.receivers ≠ 0) (behind : receiver.seen ≤ broadcast.sent) :
    receiver.unread broadcast.send = receiver.unread broadcast + 1 := by
  simp only [Broadcast.send, present, if_false, Receiver.unread]
  omega

end LatencyService
