/-
What becomes of the messages that a receiver gets. A trigger sends one message,
and the broadcast keeps no more than the newest. What a receiver has been told
and what it has left to read make up the triggers since it subscribed, at every
point of every run: it is told of each message that it reads, and of the others
how many there were. Nobody else has a part in that, neither those who read from
receivers of their own nor the tasks that hold one.
-/

import LatencyService.Proofs.Effects
import LatencyService.Proofs.Mail
import Mathlib.Algebra.GroupWithZero.Nat

namespace LatencyService

/-! ### The message that is kept -/

/-- A broadcast with the message that it keeps: each new one takes the place of the one before. -/
structure Buffer where
  /-- The position of the next message. -/
  next : Nat
  /-- The position of the message that is kept. -/
  kept : Option Nat
  receivers : Nat
  deriving DecidableEq, Repr

namespace Buffer

/-- A new receiver reads from the next message on. -/
def subscribe (buffer : Buffer) : Nat × Buffer :=
  (buffer.next, { buffer with receivers := buffer.receivers + 1 })

/-- One receiver is gone. -/
def release (buffer : Buffer) : Buffer := { buffer with receivers := buffer.receivers - 1 }

/-- A message is kept in place of the one before; without receivers there is nobody to keep it
for. -/
def send (buffer : Buffer) : Buffer :=
  if buffer.receivers = 0 then buffer
  else { buffer with next := buffer.next + 1, kept := some buffer.next }

/-- Read from a position on without waiting. When the message there is not kept any more, those that
are gone are counted, and the one that is kept is still to be read. -/
def read (buffer : Buffer) (position : Nat) : Received × Nat :=
  match buffer.kept with
  | none => (.empty, position)
  | some kept =>
    if kept < position then (.empty, position)
    else if kept = position then (.signal, position + 1)
    else (.lagged (kept - position), kept)

/-- What is kept when so many messages were sent. -/
def ofBroadcast (broadcast : Broadcast) : Buffer where
  next := broadcast.sent
  kept := if broadcast.sent = 0 then none else some (broadcast.sent - 1)
  receivers := broadcast.receivers

variable {broadcast : Broadcast} {receiver : Receiver}

theorem subscribe_ofBroadcast :
    (ofBroadcast broadcast).subscribe =
      (broadcast.subscribe.1.seen, ofBroadcast broadcast.subscribe.2) := rfl

theorem release_ofBroadcast :
    (ofBroadcast broadcast).release = ofBroadcast broadcast.release := rfl

theorem send_ofBroadcast : (ofBroadcast broadcast).send = ofBroadcast broadcast.send := by
  rw [send, Broadcast.send]
  by_cases alone : broadcast.receivers = 0
  · rw [if_pos alone, if_pos (show (ofBroadcast broadcast).receivers = 0 from alone)]
  · rw [if_neg alone, if_neg (show (ofBroadcast broadcast).receivers ≠ 0 from alone)]
    rfl

/-- A receiver that counts messages is told what the buffer tells. -/
theorem read_ofBroadcast (behind : receiver.seen ≤ broadcast.sent) :
    (ofBroadcast broadcast).read receiver.seen =
      ((receiver.receive broadcast).1, (receiver.receive broadcast).2.seen) := by
  rw [Receiver.receive, Receiver.unread, read, ofBroadcast]
  by_cases none_sent : broadcast.sent = 0
  · have unread : broadcast.sent - receiver.seen = 0 := by omega
    simp only [none_sent, if_true, Nat.zero_sub]
  · simp only [none_sent, if_false]
    by_cases past : broadcast.sent - 1 < receiver.seen
    · have unread : broadcast.sent - receiver.seen = 0 := by omega
      rw [if_pos past, unread]
    · rw [if_neg past]
      by_cases newest : broadcast.sent - 1 = receiver.seen
      · have unread : broadcast.sent - receiver.seen = 1 := by omega
        rw [if_pos newest, unread]
        rfl
      · obtain ⟨missed, unread⟩ : ∃ missed, broadcast.sent - receiver.seen = missed + 2 :=
          ⟨broadcast.sent - receiver.seen - 2, by omega⟩
        have gone : broadcast.sent - 1 - receiver.seen = missed + 1 := by omega
        have oldest : broadcast.sent - 1 = receiver.seen + (missed + 1) := by omega
        rw [if_neg newest, unread, gone, oldest]
        rfl

end Buffer

/-! ### Accounting for messages -/

/-- How many messages a receiver has accounted for by what it is told. -/
def Received.worth : Received → Nat
  | empty => 0
  | signal => 1
  | lagged missed => missed

namespace Receiver

variable {unread : Nat}

/-- Whatever is not accounted for is left to read. -/
theorem worth_telling (unread : Nat) : (telling unread).worth + leaving unread = unread := by
  match unread with
  | 0 | 1 => rfl
  | missed + 2 => rfl

theorem telling_eq_empty_iff : telling unread = .empty ↔ unread = 0 := by
  match unread with
  | 0 | 1 => decide
  | missed + 2 => simp [telling]

theorem telling_eq_signal_iff : telling unread = .signal ↔ unread = 1 := by
  match unread with
  | 0 | 1 => decide
  | missed + 2 => simp [telling]

theorem telling_eq_lagged_iff {missed : Nat} :
    telling unread = .lagged missed ↔ 2 ≤ unread ∧ missed + 1 = unread := by
  match unread with
  | 0 | 1 => simp [telling]
  | more + 2 =>
    simp only [telling, Received.lagged.injEq]
    omega

theorem leaving_eq : leaving unread = if 2 ≤ unread then 1 else 0 := by
  match unread with
  | 0 | 1 => rfl
  | more + 2 => simp [leaving]

end Receiver

/-! ### What one receiver notices -/

/-- What is received, if that is what was told. -/
def Verdict.received? : Verdict → Option Received
  | .received told => some told
  | _ => none

namespace Action

/-- The action triggers the shutdown. -/
def isTrigger : Action → Bool
  | .trigger => true
  | _ => false

/-- The action takes a receiver under a name, or lets go of the one that is held there. -/
def replaces (name : String) : Action → Bool
  | .subscribe other | .letGo other => other == name
  | _ => false

/-- The action is about the receiver of a name, or about all receivers. -/
def reaches (name : String) : Action → Bool
  | .subscribe other | .letGo other | .receive other => other == name
  | .trigger => true
  | _ => false

/-- What the receiver of a name has to read behind an action, if there is one. -/
def unreadAfter (name : String) (unread? : Option Nat) : Action → Option Nat
  | .subscribe other => if other == name then some 0 else unread?
  | .letGo other => if other == name then none else unread?
  | .receive other => if other == name then unread?.map Receiver.leaving else unread?
  | .trigger => unread?.map (· + 1)
  | _ => unread?

/-- What an action tells the receiver of a name. -/
def tells? (name : String) (unread? : Option Nat) : Action → Option Received
  | .receive other => if other == name then unread?.map Receiver.telling else none
  | _ => none

/-- What the receiver of a name is told, as it is observed. -/
def heard? (name : String) (observation : Observation) : Action → Option Received
  | .receive other => if other == name then observation.verdict.received? else none
  | _ => none

variable {name : String} {action : Action} {mail : List (String × Nat)}

/-- What there is to read under a name is a matter of this name alone. -/
theorem lookup_mailAfter (action : Action) :
    (action.mailAfter mail).lookup name = action.unreadAfter name (mail.lookup name) := by
  cases action with
  | subscribe other =>
    rw [mailAfter, unreadAfter, List.lookup_append]
    by_cases mine : other = name
    · rw [mine, Scene.lookup_filter_self, if_pos (beq_self_eq_true name), List.lookup_cons_self]
      rfl
    · have apart : (name == other) = false := beq_eq_false_iff_ne.2 (Ne.symm mine)
      rw [Scene.lookup_filter_ne (Ne.symm mine), List.lookup_cons, apart, List.lookup_nil,
        Option.or_none, if_neg (by simpa using mine)]
  | letGo other =>
    rw [mailAfter, unreadAfter]
    by_cases mine : other = name
    · rw [mine, Scene.lookup_filter_self, if_pos (beq_self_eq_true name)]
    · rw [Scene.lookup_filter_ne (Ne.symm mine), if_neg (by simpa using mine)]
  | receive other =>
    rw [mailAfter, unreadAfter]
    cases held : mail.lookup other with
    | none =>
      by_cases mine : other = name
      · rw [if_pos (beq_iff_eq.2 mine), ← mine, held]
        rfl
      · rw [if_neg (by simpa using mine)]
    | some unread =>
      dsimp only
      rw [lookup_replace]
      by_cases mine : other = name
      · rw [if_pos (beq_iff_eq.2 mine), if_pos (beq_iff_eq.2 mine), ← mine, held]
        rfl
      · rw [if_neg (by simpa using mine), if_neg (by simpa using mine)]
  | trigger =>
    rw [mailAfter, unreadAfter]
    exact lookup_map_entries (fun _ unread => unread + 1) mail name
  | _ => rfl

/-- What an action tells of receivers, it tells the receiver of a name by what there is to read under
that name. -/
theorem heard?_of_mailVerdict {observation : Observation}
    (told : observation.verdict = action.mailVerdict mail ∨ ∀ other, action ≠ .receive other) :
    action.heard? name observation = action.tells? name (mail.lookup name) := by
  cases action with
  | receive other =>
    rw [heard?, told.resolve_right fun another => another other rfl, mailVerdict, tells?]
    by_cases mine : other = name
    · rw [mine, if_pos (beq_self_eq_true name), if_pos (beq_self_eq_true name)]
      cases mail.lookup name <;> rfl
    · rw [if_neg (by simpa using mine), if_neg (by simpa using mine)]
  | _ => rfl

/-- What is not about a receiver leaves it what it has to read, and tells it nothing. -/
theorem unreadAfter_of_not_reaches (idle : action.reaches name = false) (unread? : Option Nat) :
    action.unreadAfter name unread? = unread? ∧ action.tells? name unread? = none := by
  cases action with
  | subscribe other | letGo other => exact ⟨if_neg (by simpa [reaches] using idle), rfl⟩
  | receive other =>
    exact ⟨if_neg (by simpa [reaches] using idle), if_neg (by simpa [reaches] using idle)⟩
  | trigger => cases idle
  | _ => exact ⟨rfl, rfl⟩

/-- As long as a receiver is held, what it is told and what is left to read make up what it had to
read and what is sent. -/
theorem conserves (kept : action.replaces name = false) (unread : Nat) :
    ∃ left, action.unreadAfter name (some unread) = some left ∧
      ((action.tells? name (some unread)).elim 0 Received.worth) + left =
        unread + if action.isTrigger then 1 else 0 := by
  cases action with
  | subscribe other | letGo other =>
    exact ⟨unread, if_neg (by simpa [replaces] using kept), Nat.zero_add _⟩
  | receive other =>
    rw [unreadAfter, tells?]
    cases other == name with
    | true => exact ⟨Receiver.leaving unread, rfl, Receiver.worth_telling unread⟩
    | false => exact ⟨unread, rfl, Nat.zero_add unread⟩
  | trigger => exact ⟨unread + 1, rfl, Nat.zero_add _⟩
  | _ => exact ⟨unread, rfl, Nat.zero_add unread⟩

end Action

/-! ### Runs -/

/-- What the receiver of a name is told while actions are carried out, when so much is left to
read. -/
def reading (name : String) (unread? : Option Nat) : List Action → List Received
  | [] => []
  | action :: rest =>
    (action.tells? name unread?).toList ++ reading name (action.unreadAfter name unread?) rest

/-- Only what is about a receiver counts for it. -/
theorem reading_filter (name : String) (unread? : Option Nat) (actions : List Action) :
    reading name unread? (actions.filter (·.reaches name)) = reading name unread? actions := by
  induction actions generalizing unread? with
  | nil => rfl
  | cons action rest inductionHypothesis =>
    cases about : action.reaches name with
    | true => rw [List.filter_cons_of_pos about, reading, reading, inductionHypothesis]
    | false =>
      obtain ⟨same, silent⟩ := Action.unreadAfter_of_not_reaches about unread?
      rw [List.filter_cons_of_neg (Bool.not_eq_true _ ▸ about), reading, same, silent,
        inductionHypothesis]
      rfl

/-- What a receiver is told while it is held and what is left to read make up what it had to read and
the triggers. -/
theorem reading_conserves {name : String} {actions : List Action}
    (kept : ∀ action ∈ actions, action.replaces name = false) (unread : Nat) :
    ∃ left, actions.foldl (Action.unreadAfter name) (some unread) = some left ∧
      ((reading name (some unread) actions).map Received.worth).sum + left =
        unread + actions.countP Action.isTrigger := by
  induction actions generalizing unread with
  | nil => exact ⟨unread, rfl, Nat.zero_add unread⟩
  | cons action rest inductionHypothesis =>
    obtain ⟨between, behind, first⟩ := Action.conserves (kept action List.mem_cons_self) unread
    obtain ⟨left, last, others⟩ :=
      inductionHypothesis (fun other member => kept other (List.mem_cons_of_mem _ member)) between
    have worth : ((action.tells? name (some unread)).toList.map Received.worth).sum =
        (action.tells? name (some unread)).elim 0 Received.worth := by
      cases action.tells? name (some unread) <;> simp
    refine ⟨left, by rw [List.foldl_cons, behind, last], ?_⟩
    rw [reading, behind, List.map_append, List.sum_append, worth, List.countP_cons]
    omega

/-- A receiver that is held behind some actions was held before them or taken in one of them, and
since then it was neither replaced nor let go. -/
theorem exists_subscribe {name : String} {actions : List Action} {unread? : Option Nat} {left : Nat}
    (held : actions.foldl (Action.unreadAfter name) unread? = some left) :
    (unread? ≠ none ∧ ∀ action ∈ actions, action.replaces name = false) ∨
      ∃ before later, actions = before ++ .subscribe name :: later ∧
        ∀ action ∈ later, action.replaces name = false := by
  induction actions generalizing unread? with
  | nil => exact .inl ⟨Option.ne_none_iff_exists'.2 ⟨left, held⟩, List.forall_mem_nil _⟩
  | cons action rest inductionHypothesis =>
    rcases inductionHypothesis held with ⟨there, kept⟩ | ⟨before, later, rfl, kept⟩
    · cases replaced : action.replaces name with
      | false =>
        refine .inl ⟨fun absent => there ?_, ?_⟩
        · rw [absent]
          cases action with
          | subscribe other => exact if_neg (by simpa [Action.replaces] using replaced)
          | letGo other | receive other => exact ite_self none
          | _ => rfl
        · rintro other (_ | ⟨_, member⟩)
          · exact replaced
          · exact kept other member
      | true =>
        cases action with
        | subscribe other =>
          rw [beq_iff_eq.1 replaced]
          exact .inr ⟨[], rest, rfl, kept⟩
        | letGo other => exact absurd (if_pos replaced) there
        | _ => cases replaced
    · exact .inr ⟨action :: before, later, rfl, kept⟩

namespace Scene

variable {deployment : Deployment} {scene : Scene} {name : String}

/-- All that the receiver of a name is told in a run, as it is observed. -/
def heard (deployment : Deployment) (scene : Scene) (name : String) (actions : List Action) :
    List Received :=
  (actions.zip (scene.play deployment actions).1).filterMap fun entry => entry.1.heard? name entry.2

theorem heard_cons (action : Action) (rest : List Action) :
    scene.heard deployment name (action :: rest) =
      (action.heard? name (scene.step deployment action).1).toList ++
        (scene.step deployment action).2.heard deployment name rest := by
  have first : (scene.play deployment (action :: rest)).1 =
      (scene.step deployment action).1 ::
        ((scene.step deployment action).2.play deployment rest).1 := rfl
  rw [heard, first, List.zip_cons_cons, List.filterMap_cons, heard]
  cases action.heard? name (scene.step deployment action).1 <;> rfl

/-- What a receiver is told in a run is what it reads. -/
theorem Sound.heard_eq (sound : scene.Sound) (reads : scene.Reads) (actions : List Action) :
    scene.heard deployment name actions = reading name (scene.mail.lookup name) actions := by
  induction actions generalizing scene with
  | nil => rfl
  | cons action rest inductionHypothesis =>
    obtain ⟨mail, still⟩ : (scene.step deployment action).2.mail = action.mailAfter scene.mail ∧
        (scene.step deployment action).2.Reads := sound.mail_step reads action
    have told : (scene.step deployment action).1.verdict = action.mailVerdict scene.mail ∨
        ∀ other, action ≠ .receive other := by
      cases action with
      | receive other => exact .inl (sound.verdict_step reads (by simp))
      | _ => exact .inr (by simp)
    rw [heard_cons, reading, Action.heard?_of_mailVerdict told,
      inductionHypothesis (sound.step deployment action) still, mail, Action.lookup_mailAfter]

/-- What a receiver has to read behind a run. -/
theorem Sound.unread_after (sound : scene.Sound) (reads : scene.Reads) (actions : List Action) :
    (scene.after deployment actions).mail.lookup name =
      actions.foldl (Action.unreadAfter name) (scene.mail.lookup name) := by
  rw [(sound.mail_after reads actions).1]
  generalize scene.mail = mail
  induction actions generalizing mail with
  | nil => rfl
  | cons action rest inductionHypothesis =>
    rw [List.foldl_cons, List.foldl_cons, inductionHypothesis, Action.lookup_mailAfter]

/-- Whoever asks without waiting is told what there is to receive. -/
theorem Sound.receive_step (sound : scene.Sound) (deployment : Deployment) {receiver : Receiver}
    (there : scene.receivers.lookup name = some receiver) :
    (scene.step deployment (.receive name)).1.verdict =
        .received (receiver.receive scene.service.shutdown.signals).1 ∧
      (scene.step deployment (.receive name)).2.receivers.lookup name =
        some (receiver.receive scene.service.shutdown.signals).2 := by
  let settled := scene.quiet.change (·.endBusy deployment)
  have now : settled.sent = scene.sent := sound.quiet.service.sent_happen deployment .settle
  have same : receiver.receive settled.service.shutdown.signals =
      receiver.receive scene.service.shutdown.signals := by
    have unread : receiver.unread settled.service.shutdown.signals =
        receiver.unread scene.service.shutdown.signals := congrArg (· - receiver.seen) now
    rw [Receiver.receive, Receiver.receive, unread]
  have held : settled.receivers.lookup name = some receiver := there
  have told : settled.receive name =
      (.received (receiver.receive scene.service.shutdown.signals).1,
        { settled with
          receivers := settled.receivers.map fun entry =>
            if entry.1 == name then (name, (receiver.receive scene.service.shutdown.signals).2)
            else entry }) := by
    rw [receive, held, ← same]
  have verdict : (scene.step deployment (.receive name)).1.verdict = (settled.receive name).1 := rfl
  have after : (scene.step deployment (.receive name)).2 = (settled.receive name).2 := rfl
  rw [verdict, after, told]
  refine ⟨rfl, ?_⟩
  dsimp only
  rw [lookup_replace, held, if_pos (beq_self_eq_true name)]
  rfl

end Scene

/-! ### Signals are conserved -/

/-- At every point of every run each receiver that is held has a beginning, since when it was neither
replaced nor let go. What it was told since then and what it has left to read make up the triggers
since then, whoever was there or not at any of them. If it is asked without waiting, it has nothing
if there is nothing left to read, and a message if there is one; and if there are more, it is told
how many are gone, and one is left to read. That is what a buffer tells that keeps only the newest
message; it begins without any, receivers come to it and leave it, and messages take each other's
place in it, as the broadcast counts them. And all that a receiver is told is decided by what is done
with it and by the triggers, whoever else reads, and whatever tasks there are. -/
theorem signals_conserved :
    (∀ deployment backend name before later,
      (∀ action ∈ later, Action.replaces name action = false) →
      let taken := (Scene.start deployment backend).after deployment (before ++ [.subscribe name])
      let scene := taken.after deployment later
      let signals := scene.service.shutdown.signals
      ∃ receiver, scene.receivers.lookup name = some receiver ∧
        ((taken.heard deployment name later).map Received.worth).sum + receiver.unread signals =
          later.countP Action.isTrigger ∧
        ∃ received next, (Buffer.ofBroadcast signals).read receiver.seen = (received, next.seen) ∧
          (scene.step deployment (.receive name)).1.verdict = .received received ∧
          (scene.step deployment (.receive name)).2.receivers.lookup name = some next ∧
          next.unread (scene.step deployment (.receive name)).2.service.shutdown.signals =
            (if 2 ≤ receiver.unread signals then 1 else 0) ∧
          (received = .empty ↔ receiver.unread signals = 0) ∧
          (received = .signal ↔ receiver.unread signals = 1) ∧
          ∀ missed, received = .lagged missed ↔
            2 ≤ receiver.unread signals ∧ missed + 1 = receiver.unread signals) ∧
    (∀ deployment backend name actions receiver,
      ((Scene.start deployment backend).after deployment actions).receivers.lookup name =
        some receiver →
      ∃ before later, actions = before ++ .subscribe name :: later ∧
        ∀ action ∈ later, Action.replaces name action = false) ∧
    (∀ deployment backend other another name first second,
      List.filter (Action.reaches name) first = List.filter (Action.reaches name) second →
      (Scene.start deployment backend).heard deployment name first =
        (Scene.start other another).heard other name second) ∧
    Buffer.ofBroadcast {} = ⟨0, none, 0⟩ ∧
    ∀ broadcast : Broadcast,
      (Buffer.ofBroadcast broadcast).subscribe =
        (broadcast.subscribe.1.seen, .ofBroadcast broadcast.subscribe.2) ∧
      (Buffer.ofBroadcast broadcast).release = .ofBroadcast broadcast.release ∧
      (Buffer.ofBroadcast broadcast).send = .ofBroadcast broadcast.send := by
  refine ⟨fun deployment backend name before later kept => ?_,
    fun deployment backend name actions receiver held => ?_,
    fun deployment backend other another name first second same => ?_, rfl,
    fun broadcast => ⟨Buffer.subscribe_ofBroadcast, Buffer.release_ofBroadcast,
      Buffer.send_ofBroadcast⟩⟩
  · intro taken scene signals
    have sound := (Scene.sound_start deployment backend).after deployment
      (before ++ [.subscribe name])
    have reads : taken.Reads := ((Scene.sound_start deployment backend).mail_after
      Scene.reads_start (before ++ [.subscribe name])).2
    have fresh : taken.mail.lookup name = some 0 := by
      rw [(Scene.sound_start deployment backend).unread_after Scene.reads_start, List.foldl_append]
      exact if_pos (beq_self_eq_true name)
    obtain ⟨left, behind, conserved⟩ := reading_conserves kept 0
    have unread : scene.mail.lookup name = some left := by
      rw [sound.unread_after reads, fresh, behind]
    rw [Scene.mail, lookup_mailOf] at unread
    obtain ⟨receiver, there, rfl⟩ := Option.map_eq_some_iff.1 unread
    have soundly := sound.after deployment later
    have seen : receiver.seen ≤ signals.sent := (sound.mail_after reads later).2.of_lookup there
    obtain ⟨verdict, next⟩ := soundly.receive_step deployment there
    obtain ⟨received, left, -⟩ := Receiver.receive_eq seen
    have sent : (scene.step deployment (.receive name)).2.sent = scene.sent :=
      soundly.sent_step (by simp)
    refine ⟨receiver, there, ?_, _, _, Buffer.read_ofBroadcast seen, verdict, next, ?_, ?_⟩
    · rw [sound.heard_eq reads, fresh, ← Nat.zero_add (later.countP _)]
      exact conserved
    · refine (congrArg (· - _) sent).trans (left.trans Receiver.leaving_eq)
    · rw [received]
      exact ⟨Receiver.telling_eq_empty_iff, Receiver.telling_eq_signal_iff,
        fun missed => Receiver.telling_eq_lagged_iff⟩
  · have unread : ((Scene.start deployment backend).after deployment actions).mail.lookup name =
        some (((Scene.start deployment backend).after deployment actions).sent - receiver.seen) := by
      rw [Scene.mail, lookup_mailOf, held]
      rfl
    rw [(Scene.sound_start deployment backend).unread_after Scene.reads_start] at unread
    rcases exists_subscribe unread with ⟨present, -⟩ | found
    · exact absurd rfl present
    · exact found
  · rw [(Scene.sound_start deployment backend).heard_eq Scene.reads_start,
      (Scene.sound_start other another).heard_eq Scene.reads_start]
    show reading name none first = reading name none second
    rw [← reading_filter, same, reading_filter]

/-- A receiver that was taken behind a first trigger is told, of the three that follow, that two are
gone, and then of the third. -/
theorem signals_conserved_behind_a_lag :
    ∃ (deployment : Deployment) (before later : List Action),
      before = [.trigger, .wait "task", .delay "other task" 5] ∧
      later = [.trigger, .subscribe "other", .trigger, .trigger, .receive "other", .receive "name"] ∧
      (∀ action ∈ later, Action.replaces "name" action = false) ∧
      let taken := (Scene.start deployment {}).after deployment (before ++ [.subscribe "name"])
      taken.heard deployment "name" later = [.lagged 2] ∧
        ((taken.after deployment later).step deployment (.receive "name")).1.verdict =
          .received .signal := by
  have left (deployment : Deployment) (before later : List Action)
      (kept : ∀ action ∈ later, Action.replaces "name" action = false)
      (heard : ((Scene.start deployment {}).after deployment (before ++ [.subscribe "name"])).heard
        deployment "name" later = [.lagged 2])
      (three : later.countP Action.isTrigger = 3) :
      ((((Scene.start deployment {}).after deployment (before ++ [.subscribe "name"])).after
        deployment later).step deployment (.receive "name")).1.verdict = .received .signal := by
    obtain ⟨receiver, -, conserved, received, next, -, verdict, -, -, -, signal, -⟩ :=
      signals_conserved.1 deployment {} "name" before later kept
    rw [heard, three] at conserved
    exact verdict.trans (congrArg Verdict.received (signal.2 (Nat.add_left_cancel conserved)))
  exact ⟨⟨{}, fun _ => "identifier"⟩, _, _, rfl, rfl, by decide, by decide +kernel,
    left _ _ _ (by decide) (by decide +kernel) (by decide)⟩

end LatencyService
