/-
This file shows that no wake-up of the shutdown is lost, whatever the order in
which waiters and signallers act. A waiter subscribes before it looks at the
flag, and a signaller raises the flag before it announces it. Hence a waiter
that found the flag lowered had subscribed before anything was raised, let
alone announced, and every announcement reaches it.

The announcement reaches somebody only because the broadcast counts the
receivers that are held: with none of them it keeps nothing. That count is
part of the invariant.
-/

import LatencyService.Shutdown.Interleaving

namespace LatencyService

namespace Waiter

/-- The receiver that a waiter holds. -/
def receiver? : Waiter → Option Receiver
  | subscribed receiver | blocked receiver => some receiver
  | fresh | finished => none

/-- A waiter holds a receiver. -/
def holds (waiter : Waiter) : Bool := waiter.receiver?.isSome

/-- What is left to do for the waiter with an index until it has finished. -/
def remaining (index : Nat) : Waiter → List Interleaving.Action
  | fresh => [.subscribe index, .look index]
  | subscribed _ => [.look index]
  | blocked _ => [.receive index]
  | finished => []

end Waiter

namespace Interleaving

/-! ### What an action can do -/

/-- Actions one after the other. -/
def run? (state : Interleaving) (actions : List Action) : Option Interleaving :=
  actions.foldlM step? state

/-- The actions with what has to be the case before them and what is the case behind. -/
inductive Step (state : Interleaving) : Action → Interleaving → Prop where
  | subscribe {index : Nat} (found : state.waiters[index]? = some .fresh) :
      Step state (.subscribe index)
        (state.moveWaiter index (.subscribed state.shutdown.subscribe.1) state.shutdown.subscribe.2)
  | seeFlag {index : Nat} {receiver : Receiver}
      (found : state.waiters[index]? = some (.subscribed receiver))
      (raised : state.shutdown.isTriggered = true) :
      Step state (.look index) (state.moveWaiter index .finished state.shutdown.release)
  | seeNoFlag {index : Nat} {receiver : Receiver}
      (found : state.waiters[index]? = some (.subscribed receiver))
      (lowered : state.shutdown.isTriggered = false) :
      Step state (.look index) (state.moveWaiter index (.blocked receiver) state.shutdown)
  | receive {index : Nat} {receiver : Receiver}
      (found : state.waiters[index]? = some (.blocked receiver))
      (ready : receiver.isReady state.shutdown.signals = true) :
      Step state (.receive index) (state.moveWaiter index .finished state.shutdown.release)
  | giveUp {index : Nat} {waiter : Waiter} (found : state.waiters[index]? = some waiter)
      (holding : waiter.holds = true) :
      Step state (.giveUp index) (state.moveWaiter index .finished state.shutdown.release)
  | raise {index : Nat} (found : state.signallers[index]? = some .fresh) :
      Step state (.raise index) (state.moveSignaller index .raised state.shutdown.raise)
  | announce {index : Nat} (found : state.signallers[index]? = some .raised) :
      Step state (.announce index) (state.moveSignaller index .finished state.shutdown.announce)

theorem Step.of_step? {state next : Interleaving} {action : Action}
    (taken : state.step? action = some next) : Step state action next := by
  cases action with
  | subscribe index =>
    simp only [step?] at taken
    split at taken
    next found => exact Option.some.inj taken ▸ .subscribe found
    next => cases taken
  | look index =>
    simp only [step?] at taken
    split at taken
    next receiver found =>
      split at taken
      next raised => exact Option.some.inj taken ▸ .seeFlag found raised
      next lowered => exact Option.some.inj taken ▸ .seeNoFlag found (by simpa using lowered)
    next => cases taken
  | receive index =>
    simp only [step?] at taken
    split at taken
    next receiver found =>
      split at taken
      next ready => exact Option.some.inj taken ▸ .receive found ready
      next => cases taken
    next => cases taken
  | giveUp index =>
    simp only [step?] at taken
    split at taken
    next found => exact Option.some.inj taken ▸ .giveUp found rfl
    next found => exact Option.some.inj taken ▸ .giveUp found rfl
    next => cases taken
  | raise index =>
    simp only [step?] at taken
    split at taken
    next found => exact Option.some.inj taken ▸ .raise found
    next => cases taken
  | announce index =>
    simp only [step?] at taken
    split at taken
    next found => exact Option.some.inj taken ▸ .announce found
    next => cases taken

/-! ### The invariant -/

/-- What holds in every state that actions lead to. -/
structure Sound (state : Interleaving) : Prop where
  /-- The broadcast counts the receivers that waiters hold. -/
  counted : state.shutdown.receiverCount = state.waiters.countP Waiter.holds
  /-- No receiver has accounted for a message that was not sent. -/
  behind : ∀ waiter ∈ state.waiters, ∀ receiver ∈ waiter.receiver?,
    receiver.seen ≤ state.shutdown.signals.sent
  /-- Whoever has begun to signal has raised the flag. -/
  raised : ∀ signaller ∈ state.signallers, signaller ≠ .fresh → state.shutdown.isTriggered = true
  /-- Whoever has announced has reached all who wait for a message. -/
  heard : .finished ∈ state.signallers → ∀ receiver, .blocked receiver ∈ state.waiters →
    receiver.seen < state.shutdown.signals.sent

theorem sound_start (waiters signallers : Nat) : (start waiters signallers).Sound where
  counted := by
    rw [start, List.countP_replicate]
    rfl
  behind waiter member receiver held := by
    rw [(List.mem_replicate.1 member).2] at held
    cases held
  raised signaller member begun := absurd (List.mem_replicate.1 member).2 begun
  heard member := absurd (List.mem_replicate.1 member).2 (by decide)

/-- A waiter moves on. It may come to wait for a message only while nobody has announced. -/
theorem Sound.moveWaiter {state : Interleaving} (sound : state.Sound) {index : Nat}
    {before after : Waiter} {shutdown : Shutdown} (found : state.waiters[index]? = some before)
    (flag : shutdown.isTriggered = state.shutdown.isTriggered)
    (sent : shutdown.signals.sent = state.shutdown.signals.sent)
    (count : shutdown.receiverCount =
      state.shutdown.receiverCount - before.holds.toNat + after.holds.toNat)
    (behind : ∀ receiver ∈ after.receiver?, receiver.seen ≤ state.shutdown.signals.sent)
    (early : ∀ receiver, after = .blocked receiver → .finished ∉ state.signallers) :
    (state.moveWaiter index after shutdown).Sound := by
  obtain ⟨bound, value⟩ := List.getElem?_eq_some_iff.1 found
  have counted : shutdown.receiverCount = (state.waiters.set index after).countP Waiter.holds := by
    rw [List.countP_set bound, value, count, sound.counted]
    cases before.holds <;> cases after.holds <;> rfl
  refine ⟨counted, fun waiter member receiver held => ?_, fun signaller member begun => ?_,
    fun announced receiver member => ?_⟩
  · rw [show (state.moveWaiter index after shutdown).shutdown.signals.sent =
      state.shutdown.signals.sent from sent]
    rcases List.mem_or_eq_of_mem_set member with old | rfl
    · exact sound.behind waiter old receiver held
    · exact behind receiver held
  · exact flag.trans (sound.raised signaller member begun)
  · rw [show (state.moveWaiter index after shutdown).shutdown.signals.sent =
      state.shutdown.signals.sent from sent]
    rcases List.mem_or_eq_of_mem_set member with old | new
    · exact sound.heard announced receiver old
    · exact absurd announced (early receiver new.symm)

/-- A waiter that holds a receiver finishes and lets go of it. -/
theorem Sound.finish {state : Interleaving} (sound : state.Sound) {index : Nat} {waiter : Waiter}
    (found : state.waiters[index]? = some waiter) (holding : waiter.holds = true) :
    (state.moveWaiter index .finished state.shutdown.release).Sound := by
  refine sound.moveWaiter found rfl rfl ?_ (fun _ held => nomatch held) (fun _ same => nomatch same)
  rw [holding, Shutdown.receiverCount_release]
  rfl

/-- While a receiver is held, whatever is announced is sent. -/
theorem Sound.sent_announce {state : Interleaving} (sound : state.Sound) {waiter : Waiter}
    (member : waiter ∈ state.waiters) (holding : waiter.holds = true) :
    state.shutdown.announce.signals.sent = state.shutdown.signals.sent + 1 := by
  have present : state.shutdown.signals.receivers ≠ 0 := by
    have positive : 0 < state.waiters.countP Waiter.holds :=
      List.countP_pos_iff.2 ⟨waiter, member, holding⟩
    rw [← sound.counted] at positive
    exact Nat.ne_of_gt positive
  rw [Shutdown.announce, Broadcast.send, if_neg present]

theorem Sound.step {state next : Interleaving} {action : Action} (sound : state.Sound)
    (taken : Step state action next) : next.Sound := by
  cases taken with
  | subscribe found =>
    refine sound.moveWaiter found rfl rfl rfl (fun receiver held => ?_) (fun _ same => nomatch same)
    cases held
    exact Nat.le_refl _
  | seeFlag found raised => exact sound.finish found rfl
  | seeNoFlag found lowered =>
    refine sound.moveWaiter found rfl rfl ?_ (fun receiver held => ?_) (fun _ _ announced => ?_)
    · have member := List.mem_of_getElem? found
      have positive : 0 < state.shutdown.receiverCount := by
        rw [sound.counted]
        exact List.countP_pos_iff.2 ⟨_, member, rfl⟩
      exact (Nat.sub_add_cancel positive).symm
    · exact sound.behind _ (List.mem_of_getElem? found) receiver held
    · have raised := sound.raised _ announced (by decide)
      rw [lowered] at raised
      cases raised
  | receive found ready => exact sound.finish found rfl
  | giveUp found holding => exact sound.finish found holding
  | raise found =>
    refine ⟨sound.counted, sound.behind, fun _ _ _ => rfl, fun announced => ?_⟩
    rcases List.mem_or_eq_of_mem_set announced with old | new
    · exact sound.heard old
    · cases new
  | announce found =>
    have raised := sound.raised _ (List.mem_of_getElem? found) (by decide)
    refine ⟨?_, fun waiter member receiver held => ?_, fun _ _ _ => raised,
      fun _ receiver member => ?_⟩
    · exact (Shutdown.receiverCount_trigger state.shutdown).trans sound.counted
    · have holding : waiter.holds = true := by
        rw [Waiter.holds, held]
        rfl
      have behind := sound.behind waiter member receiver held
      rw [show (state.moveSignaller _ _ state.shutdown.announce).shutdown.signals.sent = _ from
        sound.sent_announce member holding]
      exact Nat.le_succ_of_le behind
    · have behind := sound.behind _ member receiver rfl
      rw [show (state.moveSignaller _ _ state.shutdown.announce).shutdown.signals.sent = _ from
        sound.sent_announce member rfl]
      exact Nat.lt_succ_of_le behind

theorem Reachable.sound {waiters signallers : Nat} {state : Interleaving}
    (reachable : Reachable waiters signallers state) : state.Sound := by
  induction reachable with
  | start => exact sound_start waiters signallers
  | step _ taken inductionHypothesis => exact inductionHypothesis.step (.of_step? taken)

/-! ### Runs -/

theorem run?_cons {state next : Interleaving} {action : Action} (actions : List Action)
    (taken : state.step? action = some next) :
    state.run? (action :: actions) = next.run? actions := by
  rw [run?, List.foldlM_cons, taken]
  rfl

theorem Reachable.run? {waiters signallers : Nat} {state later : Interleaving}
    {actions : List Action} (reachable : Reachable waiters signallers state)
    (run : state.run? actions = some later) : Reachable waiters signallers later := by
  induction actions generalizing state with
  | nil => exact Option.some.inj run ▸ reachable
  | cons action rest inductionHypothesis =>
    cases taken : state.step? action with
    | none =>
      rw [Interleaving.run?, List.foldlM_cons, taken] at run
      cases run
    | some next =>
      rw [run?_cons rest taken] at run
      exact inductionHypothesis (reachable.step taken) run

/-- Whoever has announced takes no more actions. -/
theorem Step.announced {state next : Interleaving} {action : Action} (step : Step state action next)
    (announced : .finished ∈ state.signallers) : .finished ∈ next.signallers := by
  have kept {index : Nat} {before after : Signaller}
      (found : state.signallers[index]? = some before)
      (moving : before ≠ .finished) : .finished ∈ state.signallers.set index after := by
    obtain ⟨place, there⟩ := List.mem_iff_getElem?.1 announced
    refine List.mem_iff_getElem?.2 ⟨place, ?_⟩
    rw [List.getElem?_set_ne, there]
    rintro rfl
    exact moving (Option.some.inj (found.symm.trans there))
  cases step with
  | raise found => exact kept found (by decide)
  | announce found => exact kept found (by decide)
  | _ => exact announced

theorem announced_run? {state later : Interleaving} {actions : List Action}
    (announced : .finished ∈ state.signallers) (run : state.run? actions = some later) :
    .finished ∈ later.signallers := by
  induction actions generalizing state with
  | nil => exact Option.some.inj run ▸ announced
  | cons action rest inductionHypothesis =>
    cases taken : state.step? action with
    | none =>
      rw [run?, List.foldlM_cons, taken] at run
      cases run
    | some next =>
      rw [run?_cons rest taken] at run
      exact inductionHypothesis ((Step.of_step? taken).announced announced) run

/-- Whoever waits for a message after an announcement has one. -/
theorem Sound.isReady {state : Interleaving} (sound : state.Sound)
    (announced : .finished ∈ state.signallers) {receiver : Receiver}
    (member : .blocked receiver ∈ state.waiters) :
    receiver.isReady state.shutdown.signals = true := by
  have behind := sound.heard announced receiver member
  rw [Receiver.isReady, Receiver.unread, bne_iff_ne]
  omega

theorem getElem?_moveWaiter {state : Interleaving} {index : Nat} {before : Waiter}
    (found : state.waiters[index]? = some before) (after : Waiter) (shutdown : Shutdown) :
    (state.moveWaiter index after shutdown).waiters[index]? = some after :=
  List.getElem?_set_self (List.getElem?_eq_some_iff.1 found).1

/-- A waiter that looks at the raised flag has finished. -/
theorem look_finishes {state : Interleaving} {index : Nat} {receiver : Receiver}
    (found : state.waiters[index]? = some (.subscribed receiver))
    (raised : state.shutdown.isTriggered = true) :
    ∃ final, state.run? [.look index] = some final ∧ final.waiters[index]? = some .finished := by
  have taken : state.step? (.look index) =
      some (state.moveWaiter index .finished state.shutdown.release) := by
    simp only [step?, found, raised, if_true]
  exact ⟨_, run?_cons [] taken, getElem?_moveWaiter found _ _⟩

/-! ### No wake-up is lost -/

/-- Once one trigger is complete, and whatever has been done since, no waiter is stuck that has not
finished: either it has yet to look at the flag, which is raised, or it holds a receiver with
something to receive. Either way its own next actions can be taken and finish it. -/
theorem no_lost_wakeup {waiters signallers : Nat} {state later : Interleaving}
    {actions : List Action} (reachable : Reachable waiters signallers state)
    (announced : .finished ∈ state.signallers) (run : state.run? actions = some later)
    {index : Nat} {waiter : Waiter} (found : later.waiters[index]? = some waiter)
    (unfinished : waiter ≠ .finished) :
    ((waiter = .fresh ∨ ∃ receiver, waiter = .subscribed receiver) ∧
          later.shutdown.isTriggered = true ∨
        ∃ receiver, waiter = .blocked receiver ∧
          receiver.isReady later.shutdown.signals = true) ∧
      ∃ final, later.run? (waiter.remaining index) = some final ∧
        final.waiters[index]? = some .finished := by
  have sound := (reachable.run? run).sound
  have announced := announced_run? announced run
  have raised := sound.raised _ announced (by decide)
  cases waiter with
  | fresh =>
    refine ⟨.inl ⟨.inl rfl, raised⟩, ?_⟩
    have taken : later.step? (.subscribe index) =
        some (later.moveWaiter index (.subscribed later.shutdown.subscribe.1)
          later.shutdown.subscribe.2) := by
      simp only [step?, found]
    rw [Waiter.remaining, run?_cons _ taken]
    exact look_finishes (getElem?_moveWaiter found _ _) raised
  | subscribed receiver => exact ⟨.inl ⟨.inr ⟨receiver, rfl⟩, raised⟩, look_finishes found raised⟩
  | blocked receiver =>
    have ready := sound.isReady announced (List.mem_of_getElem? found)
    have taken : later.step? (.receive index) =
        some (later.moveWaiter index .finished later.shutdown.release) := by
      simp only [step?, found, ready, if_true]
    exact ⟨.inr ⟨receiver, rfl, ready⟩, _, run?_cons [] taken, getElem?_moveWaiter found _ _⟩
  | finished => exact absurd rfl unfinished

/-- Two triggers overlap. The first waiter looked at the flag before either of them and has missed
one of their messages by the end. -/
theorem no_lost_wakeup_lagging :
    let state : Interleaving :=
      ⟨⟨true, ⟨1, 2⟩⟩, [.blocked ⟨0⟩, .subscribed ⟨0⟩, .fresh], [.raised, .finished]⟩
    let later : Interleaving :=
      ⟨⟨true, ⟨2, 2⟩⟩, [.blocked ⟨0⟩, .subscribed ⟨0⟩, .fresh], [.finished, .finished]⟩
    (start 3 2).run?
        [.subscribe 0, .look 0, .raise 0, .subscribe 1, .raise 1, .announce 1] = some state ∧
      Signaller.finished ∈ state.signallers ∧ state.run? [.announce 0] = some later ∧
      later.waiters[0]? = some (.blocked ⟨0⟩) ∧
      (((Waiter.blocked ⟨0⟩ = .fresh ∨ ∃ receiver, Waiter.blocked ⟨0⟩ = .subscribed receiver) ∧
            later.shutdown.isTriggered = true ∨
          ∃ receiver, Waiter.blocked ⟨0⟩ = .blocked receiver ∧
            receiver.isReady later.shutdown.signals = true) ∧
        ∃ final, later.run? [.receive 0] = some final ∧ final.waiters[0]? = some .finished) := by
  intro state later
  have reached : (start 3 2).run?
      [.subscribe 0, .look 0, .raise 0, .subscribe 1, .raise 1, .announce 1] = some state := by
    decide
  have run : state.run? [.announce 0] = some later := by decide
  exact ⟨reached, by decide, run, by decide,
    no_lost_wakeup (Reachable.start.run? reached) (by decide) run (by decide) (by decide)⟩

end Interleaving

end LatencyService
