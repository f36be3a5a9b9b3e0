/-
What receivers that are held by name have to read. Each has as many messages as
were sent since it was taken, less those that it has accounted for; and as long
as somebody holds a receiver, every trigger sends one. So this file shows that
the actions alone tell what there is to read, whatever tasks there are.
-/

import LatencyService.Proofs.Receivers

namespace LatencyService

/-! ### Reading -/

namespace Receiver

/-- What a receiver is told that has so many messages to read. -/
def telling : Nat → Received
  | 0 => .empty
  | 1 => .signal
  | missed + 1 => .lagged missed

/-- How many messages are left to read behind that. -/
def leaving : Nat → Nat
  | 0 | 1 => 0
  | _ + 2 => 1

theorem receive_eq {receiver : Receiver} {broadcast : Broadcast}
    (behind : receiver.seen ≤ broadcast.sent) :
    (receiver.receive broadcast).1 = telling (receiver.unread broadcast) ∧
      (receiver.receive broadcast).2.unread broadcast = leaving (receiver.unread broadcast) ∧
      (receiver.receive broadcast).2.seen ≤ broadcast.sent := by
  have unread : receiver.unread broadcast = broadcast.sent - receiver.seen := rfl
  rw [receive]
  split
  · rename_i none_left
    rw [none_left]
    exact ⟨rfl, rfl, behind⟩
  · rename_i one
    rw [one]
    refine ⟨rfl, ?_, ?_⟩
    · show broadcast.sent - (receiver.seen + 1) = 0
      omega
    · show receiver.seen + 1 ≤ broadcast.sent
      omega
  · rename_i missed other several
    have positive : missed ≠ 0 := fun none => other (by rw [none])
    obtain ⟨more, rfl⟩ := Nat.exists_eq_succ_of_ne_zero positive
    rw [several]
    refine ⟨rfl, ?_, ?_⟩
    · show broadcast.sent - (receiver.seen + (more + 1)) = 1
      omega
    · show receiver.seen + (more + 1) ≤ broadcast.sent
      omega

end Receiver

/-- What there is to read behind an action, by the names of the receivers. -/
def Action.mailAfter (mail : List (String × Nat)) : Action → List (String × Nat)
  | .subscribe name => mail.filter (·.1 != name) ++ [(name, 0)]
  | .letGo name => mail.filter (·.1 != name)
  | .receive name =>
    match mail.lookup name with
    | none => mail
    | some unread =>
      mail.map fun entry => if entry.1 == name then (name, Receiver.leaving unread) else entry
  | .trigger => mail.map fun entry => (entry.1, entry.2 + 1)
  | _ => mail

/-- What an action tells of receivers. -/
def Action.mailVerdict (mail : List (String × Nat)) : Action → Verdict
  | .receive name =>
    (mail.lookup name).elim .nothing fun unread => .received (Receiver.telling unread)
  | .letGo name => .hadReceiver (mail.lookup name).isSome
  | _ => .nothing

/-! ### Sending -/

namespace Service

variable {deployment : Deployment} {service : Service} {held : Nat}

/-- Nothing is sent but by a trigger. -/
theorem Sound.sent_undergo (sound : service.Sound held) {happenings : List Happening}
    (calm : .trigger ∉ happenings) :
    (service.undergo deployment happenings).shutdown.signals.sent =
      service.shutdown.signals.sent := by
  induction happenings generalizing service with
  | nil => rfl
  | cons happening rest inductionHypothesis =>
    rw [undergo_cons, inductionHypothesis (sound.happen deployment happening)
      fun member => calm (List.mem_cons_of_mem _ member), sound.sent_happen]
    cases happening with
    | trigger => exact absurd List.mem_cons_self calm
    | _ => rfl

/-- Nothing is sent when a task begins. -/
theorem Sound.sent_begin (sound : service.Sound held) (prompt : service.Prompt)
    (deployment : Deployment) (start : Start) :
    (service.begin deployment start).shutdown.signals.sent = service.shutdown.signals.sent := by
  have same := congrArg (fun service => service.shutdown.signals.sent)
    (sound.bare_begin prompt deployment start)
  have born := (sound.born deployment start).sent_happen deployment
    (.move (service.born deployment start).now)
  rw [happen_now] at born
  refine (Eq.trans same born).trans ?_
  show (service.born deployment start).shutdown.signals.sent = _
  rw [Service.born]
  cases service.birth deployment start with
  | atOnce ending => rfl
  | begins task =>
    rw [Service.takeIn]
    split <;> rfl

end Service

/-! ### What the names stand for -/

/-- What receivers have to read when so many messages have been sent. -/
def mailOf (sent : Nat) (receivers : List (String × Receiver)) : List (String × Nat) :=
  receivers.map fun entry => (entry.1, sent - entry.2.seen)

/-- What stands under the names may change, but each name keeps its own. -/
theorem lookup_map_entries {First Second : Type} (change : String → First → Second)
    (entries : List (String × First)) (name : String) :
    (entries.map fun entry => (entry.1, change entry.1 entry.2)).lookup name =
      (entries.lookup name).map (change name) := by
  induction entries with
  | nil => rfl
  | cons entry rest inductionHypothesis =>
    obtain ⟨other, value⟩ := entry
    rw [List.map_cons, List.lookup_cons, List.lookup_cons]
    cases same : name == other with
    | true =>
      rw [beq_iff_eq.1 same]
      rfl
    | false => exact inductionHypothesis

/-- What stands under one name is replaced, and nothing else. -/
theorem lookup_replace {Value : Type} (entries : List (String × Value)) (other name : String)
    (value : Value) :
    (entries.map fun entry => if entry.1 == other then (other, value) else entry).lookup name =
      if other == name then (entries.lookup name).map fun _ => value else entries.lookup name := by
  have kept : entries.map (fun entry => if entry.1 == other then (other, value) else entry) =
      entries.map fun entry => (entry.1, if entry.1 == other then value else entry.2) := by
    refine List.map_congr_left fun entry _ => ?_
    by_cases same : entry.1 = other
    · rw [if_pos (beq_iff_eq.2 same), if_pos (beq_iff_eq.2 same), same]
    · rw [if_neg (by simpa using same), if_neg (by simpa using same)]
  rw [kept, lookup_map_entries fun key old => if key == other then value else old]
  by_cases mine : other = name
  · simp only [mine, beq_self_eq_true, if_true]
  · have apart : (name == other) = false := beq_eq_false_iff_ne.2 (Ne.symm mine)
    simp only [apart, Bool.false_eq_true, if_false, Option.map_id', beq_iff_eq, mine]

theorem lookup_mailOf (sent : Nat) (receivers : List (String × Receiver)) (name : String) :
    (mailOf sent receivers).lookup name =
      (receivers.lookup name).map fun receiver => sent - receiver.seen :=
  lookup_map_entries (fun _ (receiver : Receiver) => sent - receiver.seen) receivers name

theorem filter_mailOf (sent : Nat) (receivers : List (String × Receiver)) (name : String) :
    (mailOf sent receivers).filter (·.1 != name) =
      mailOf sent (receivers.filter (·.1 != name)) := by
  rw [mailOf, List.filter_map]
  rfl

/-- A receiver takes the place of the one of its name. -/
theorem mailOf_replace (sent : Nat) (receivers : List (String × Receiver)) (name : String)
    (receiver : Receiver) :
    mailOf sent (receivers.map fun entry => if entry.1 == name then (name, receiver) else entry) =
      (mailOf sent receivers).map fun entry =>
        if entry.1 == name then (name, sent - receiver.seen) else entry := by
  rw [mailOf, mailOf, List.map_map, List.map_map]
  refine List.map_congr_left fun entry _ => ?_
  cases mine : entry.1 == name with
  | true => simp only [Function.comp_apply, mine, if_true]
  | false => simp only [Function.comp_apply, mine, Bool.false_eq_true, if_false]

/-- One more message is sent. -/
theorem mailOf_succ {sent : Nat} {receivers : List (String × Receiver)}
    (behind : ∀ entry ∈ receivers, entry.2.seen ≤ sent) :
    mailOf (sent + 1) receivers =
      (mailOf sent receivers).map fun entry => (entry.1, entry.2 + 1) := by
  rw [mailOf, mailOf, List.map_map]
  refine List.map_congr_left fun entry member => ?_
  exact congrArg (Prod.mk entry.1) (Nat.succ_sub (behind entry member))

namespace Scene

variable {deployment : Deployment} {scene : Scene}

/-- How many messages have been sent. -/
def sent (scene : Scene) : Nat := scene.service.shutdown.signals.sent

/-- How many messages each receiver that is held by name has to read. -/
def mail (scene : Scene) : List (String × Nat) := mailOf scene.sent scene.receivers

/-- No receiver that is held by name has accounted for a message that was not sent. -/
def Reads (scene : Scene) : Prop := ∀ entry ∈ scene.receivers, entry.2.seen ≤ scene.sent

theorem Reads.of_lookup (reads : scene.Reads) {name : String} {receiver : Receiver}
    (found : scene.receivers.lookup name = some receiver) : receiver.seen ≤ scene.sent := by
  obtain ⟨front, back, parts, -⟩ := List.lookup_eq_some_iff.1 found
  exact reads (name, receiver) (parts ▸ List.mem_append_right _ List.mem_cons_self)

theorem reads_start {backend : Backend} : (start deployment backend).Reads :=
  fun _ member => nomatch member

/-- The receivers that are left when that of a name is let go. -/
theorem receivers_letGo (name : String) :
    (scene.letGo name).receivers = scene.receivers.filter (·.1 != name) := by
  rw [letGo]
  split
  · rfl
  · rename_i absent
    rw [isSome_lookup_iff] at absent
    refine (List.filter_eq_self.2 fun entry member => ?_).symm
    rw [bne_iff_ne]
    exact fun same => absent (same ▸ List.mem_map_of_mem member)

/-- What is sent in a step is sent by a trigger. -/
theorem Sound.sent_step (sound : scene.Sound) {action : Action} (other : action ≠ .trigger) :
    (scene.step deployment action).2.sent = scene.sent := by
  have silent : .trigger ∉ scene.quiet.happenings deployment action :=
    fun member => other (trigger_mem_happenings.1 member)
  have before : (scene.undergone deployment action).shutdown.signals.sent = scene.sent :=
    sound.quiet.service.sent_undergo silent
  have performed := service_perform deployment scene.quiet action
  cases starts : action.start? with
  | some named =>
    obtain ⟨undergone, calm⟩ := sound.undergone deployment action
    rw [aftermath_of_start? starts] at performed
    have begun := undergone.sent_begin calm deployment named.2
    exact (congrArg (·.shutdown.signals.sent) performed).trans (begun.trans before)
  | none =>
    refine (congrArg (·.shutdown.signals.sent) performed).trans (Eq.trans ?_ before)
    cases action with
    | subscribe name | letGo name =>
      simp only [aftermath, Action.start?, releaseOf]
      split <;> rfl
    | request | operation | delay | service | wait => cases starts
    | receive | cancel | trigger | look | advance | join => rfl

/-- A trigger sends one message if there is anybody to receive it. -/
theorem Sound.sent_trigger (sound : scene.Sound) (present : scene.receivers ≠ []) :
    (scene.step deployment .trigger).2.sent = scene.sent + 1 := by
  have settles := sound.quiet.service.happen deployment .settle
  have counted : (scene.quiet.settled deployment).shutdown.signals.receivers =
      scene.held.length + _ := settles.counted
  have positive : 0 < scene.held.length := by
    rw [held, List.length_map]
    exact List.length_pos_iff.2 present
  have somebody : (scene.quiet.settled deployment).shutdown.signals.receivers ≠ 0 := by omega
  have sends := settles.sent_happen deployment .trigger
  have before := sound.quiet.service.sent_happen deployment .settle
  have one : (scene.quiet.settled deployment).shutdown.trigger.signals.sent =
      (scene.quiet.settled deployment).shutdown.signals.sent + 1 := by
    rw [Shutdown.trigger, Shutdown.announce, Shutdown.raise, Broadcast.send, if_neg somebody]
  exact sends.trans (one.trans (congrArg (· + 1) before))

/-! ### What a step does to receivers -/

/-- Whoever holds a receiver under a name, a step leaves it as the action says. -/
theorem receivers_step (action : Action)
    (other : ∀ name, action ≠ .subscribe name ∧ action ≠ .receive name ∧ action ≠ .letGo name) :
    (scene.step deployment action).2.receivers = scene.receivers := by
  cases action with
  | subscribe name => exact absurd rfl (other name).1
  | receive name => exact absurd rfl (other name).2.1
  | letGo name => exact absurd rfl (other name).2.2
  | cancel name =>
    simp only [step, perform, cancel]
    split
    · rfl
    · split <;> rfl
  | join name =>
    simp only [step, perform, act, join]
    split
    · rfl
    · split <;> rfl
  | _ => rfl

/-- Whoever subscribes has the last receiver, and it has nothing to read. -/
theorem Sound.receivers_subscribe (sound : scene.Sound) (name : String) :
    (scene.step deployment (.subscribe name)).2.receivers =
      scene.receivers.filter (·.1 != name) ++ [(name, ⟨scene.sent⟩)] := by
  let settled := scene.quiet.change (·.endBusy deployment)
  have now : settled.sent = scene.sent := sound.quiet.service.sent_happen deployment .settle
  have released : (settled.letGo name).sent = settled.sent := by
    rw [letGo]
    split <;> rfl
  show (settled.letGo name).receivers ++ [(name, ⟨(settled.letGo name).sent⟩)] = _
  rw [settled.receivers_letGo name, released, now]
  rfl

/-- What a receiver is told in a step, and what is left to it. -/
theorem Sound.receive_settled (sound : scene.Sound) (reads : scene.Reads)
    (deployment : Deployment) {name : String} {receiver : Receiver}
    (found : scene.receivers.lookup name = some receiver) :
    let received := receiver.receive (scene.quiet.settled deployment).shutdown.signals
    received.1 = Receiver.telling (scene.sent - receiver.seen) ∧
      scene.sent - received.2.seen = Receiver.leaving (scene.sent - receiver.seen) ∧
      received.2.seen ≤ scene.sent := by
  have now : (scene.quiet.settled deployment).shutdown.signals.sent = scene.sent :=
    sound.quiet.service.sent_happen deployment .settle
  have received := Receiver.receive_eq (now ▸ reads.of_lookup found)
  unfold Receiver.unread at received
  rwa [now] at received

/-- What there is to read behind a step, and what is told of it, is told by the actions alone. -/
theorem Sound.mail_step (sound : scene.Sound) (reads : scene.Reads) (action : Action) :
    (scene.step deployment action).2.mail = action.mailAfter scene.mail ∧
      (scene.step deployment action).2.Reads := by
  have sent (silent : action ≠ .trigger) : (scene.step deployment action).2.sent = scene.sent :=
    sound.sent_step silent
  have kept (free : ∀ name, action ≠ .subscribe name ∧ action ≠ .receive name ∧
        action ≠ .letGo name) (silent : action ≠ .trigger) :
      (scene.step deployment action).2.mail = scene.mail ∧
        (scene.step deployment action).2.Reads := by
    rw [mail, Reads, sent silent, receivers_step action free]
    exact ⟨rfl, reads⟩
  cases action with
  | subscribe name =>
    rw [mail, Reads, sent Action.noConfusion, sound.receivers_subscribe]
    refine ⟨?_, fun entry member => ?_⟩
    · rw [mailOf, List.map_append, List.map_singleton, Nat.sub_self]
      exact congrArg (· ++ [(name, 0)]) (filter_mailOf scene.sent scene.receivers name).symm
    · rcases List.mem_append.1 member with old | new
      · exact reads entry (List.mem_filter.1 old).1
      · exact Nat.le_of_eq (congrArg (fun entry => entry.2.seen) (List.mem_singleton.1 new))
  | letGo name =>
    have receivers : (scene.step deployment (.letGo name)).2.receivers =
        scene.receivers.filter (·.1 != name) :=
      (scene.quiet.change (·.endBusy deployment)).receivers_letGo name
    rw [mail, Reads, sent Action.noConfusion, receivers]
    exact ⟨(filter_mailOf scene.sent scene.receivers name).symm,
      fun entry member => reads entry (List.mem_filter.1 member).1⟩
  | receive name =>
    let settled := scene.quiet.change (·.endBusy deployment)
    have after : (scene.step deployment (.receive name)).2 = (settled.receive name).2 := rfl
    rw [mail, Reads, sent Action.noConfusion, after, receive, Action.mailAfter, mail,
      lookup_mailOf]
    cases found : scene.receivers.lookup name with
    | none =>
      have absent : settled.receivers.lookup name = none := found
      rw [absent]
      exact ⟨rfl, reads⟩
    | some receiver =>
      have there : settled.receivers.lookup name = some receiver := found
      obtain ⟨-, left, seen⟩ := sound.receive_settled reads deployment found
      rw [there, Option.map_some]
      dsimp only
      rw [← left]
      refine ⟨mailOf_replace scene.sent scene.receivers name _, fun entry member => ?_⟩
      obtain ⟨old, known, rfl⟩ := List.mem_map.1 member
      split
      · exact seen
      · exact reads old known
  | trigger =>
    have receivers : (scene.step deployment .trigger).2.receivers = scene.receivers := rfl
    rw [mail, Reads, receivers]
    by_cases nobody : scene.receivers = []
    · rw [mail, nobody]
      exact ⟨rfl, List.forall_mem_nil _⟩
    · rw [sound.sent_trigger nobody]
      exact ⟨mailOf_succ reads, fun entry member => Nat.le_succ_of_le (reads entry member)⟩
  | _ => exact kept (by simp) (by simp)

/-- What a step tells of receivers, it tells by what there was to read. -/
theorem Sound.verdict_step (sound : scene.Sound) (reads : scene.Reads) {action : Action}
    (other : ∀ name, action ≠ .cancel name ∧ action ≠ .join name) :
    (scene.step deployment action).1.verdict = action.mailVerdict scene.mail := by
  cases action with
  | cancel name => exact absurd rfl (other name).1
  | join name => exact absurd rfl (other name).2
  | letGo name =>
    show Verdict.hadReceiver (scene.receivers.lookup name).isSome =
      .hadReceiver (scene.mail.lookup name).isSome
    rw [mail, lookup_mailOf, Option.isSome_map]
  | receive name =>
    let settled := scene.quiet.change (·.endBusy deployment)
    have told : (scene.step deployment (.receive name)).1.verdict = (settled.receive name).1 := rfl
    rw [told, receive, Action.mailVerdict, mail, lookup_mailOf]
    cases found : scene.receivers.lookup name with
    | none =>
      have absent : settled.receivers.lookup name = none := found
      rw [absent]
      rfl
    | some receiver =>
      have there : settled.receivers.lookup name = some receiver := found
      rw [there]
      exact congrArg Verdict.received (sound.receive_settled reads deployment found).1
  | _ => rfl

/-- What there is to read behind a run is told by its actions. -/
theorem Sound.mail_after (sound : scene.Sound) (reads : scene.Reads) (actions : List Action) :
    (scene.after deployment actions).mail = actions.foldl Action.mailAfter scene.mail ∧
      (scene.after deployment actions).Reads := by
  induction actions generalizing scene with
  | nil => exact ⟨rfl, reads⟩
  | cons action rest inductionHypothesis =>
    have first : (scene.step deployment action).2.mail = _ ∧ _ := sound.mail_step reads action
    rw [after_cons, List.foldl_cons, ← first.1]
    exact inductionHypothesis (sound.step deployment action) first.2

end Scene

end LatencyService
