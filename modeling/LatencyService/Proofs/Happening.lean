/-
What can happen to the running service as a whole: busy loops end, the clock
moves, the shutdown is triggered, a task is cancelled. Each is a sweep over the
tasks. So this file says for each of them what becomes of one task, and what
stays true of the service: every task has a number of its own, the broadcast
counts the receivers that are held, and once the shutdown is triggered nobody
holds one any more.
-/

import LatencyService.Proofs.Sweep

namespace LatencyService

/-- Something that happens to the running service as a whole. -/
inductive Happening where
  /-- Every busy loop ends. -/
  | settle
  /-- The clock comes to show a time, and all that is due by then is attended to. -/
  | move (now : Nat)
  | trigger
  /-- The task of a number is cancelled. -/
  | cancel (serial : Nat)
  deriving DecidableEq, Repr

namespace Task

/-- What becomes of a task when something happens to the service and the clock shows a time. A task
that holds a receiver is reached by the shutdown. -/
def fate (deployment : Deployment) (now : Nat) (happening : Happening) (task : Task) : Fate :=
  match happening with
  | .settle => task.settleFate deployment now
  | .move _ => task.dueFate deployment now
  | .trigger => if task.holds then .ends (some task.purpose.abortion) else .waits
  | .cancel serial => if task.serial = serial then .ends none else .waits

/-- What a task is for and what it waits for belong together. -/
def Fits (task : Task) : Prop :=
  match task.stage with
  | .asleep .. | .busy => task.purpose.sleeps = true
  | .listening _ => task.purpose = .wait
  | .relaying .. => ∃ exchange header, task.purpose = .relay exchange header

theorem isAsleep_of_wakeFate {deployment : Deployment} {now : Nat} {task : Task}
    (works : task.wakeFate deployment now = .works) : task.isAsleep = true := by
  unfold wakeFate at works
  unfold isAsleep
  split at works
  · cases works
  · rename_i waiting _
    rw [waiting]
  · cases works
  · cases works
  · cases works

theorem isAsleep_of_attendFate {deployment : Deployment} {now : Nat} {task : Task}
    (works : task.attendFate deployment now = .works) : task.isAsleep = true := by
  unfold attendFate at works
  split at works
  · split at works
    · cases works
    · exact isAsleep_of_wakeFate works
  · exact isAsleep_of_wakeFate works

/-- Only a task that sleeps can go on to be busy. -/
theorem isAsleep_of_fate {deployment : Deployment} {now : Nat} {happening : Happening}
    {task : Task} (works : task.fate deployment now happening = .works) :
    task.isAsleep = true := by
  cases happening with
  | settle =>
    simp only [fate, settleFate] at works
    split at works
    · exact isAsleep_of_wakeFate works
    · cases works
  | move clock =>
    simp only [fate, dueFate] at works
    split at works
    · exact isAsleep_of_attendFate works
    · cases works
  | trigger =>
    simp only [fate] at works
    split at works <;> cases works
  | cancel serial =>
    simp only [fate] at works
    split at works <;> cases works

theorem Fits.rest {deployment : Deployment} {now : Nat} {happening : Happening}
    {task after : Task} (fits : task.Fits)
    (left : (task.fate deployment now happening).rest task = some after) : after.Fits := by
  cases same : task.fate deployment now happening with
  | waits =>
    rw [same] at left
    exact Option.some.inj left ▸ fits
  | works =>
    rw [same] at left
    rw [← Option.some.inj left]
    have asleep := isAsleep_of_fate same
    obtain ⟨serial, purpose, delaySeconds, rounds, started, stage⟩ := task
    cases stage with
    | asleep wake receiver => exact fits
    | _ => cases asleep
  | ends ending =>
    rw [same] at left
    cases left

end Task

namespace Service

/-- Carry out what happens to the service. -/
def happen (deployment : Deployment) (service : Service) (happening : Happening) : Service :=
  match happening with
  | .settle => service.endBusy deployment
  | .move now => service.moveTo deployment now
  | .trigger => service.trigger
  | .cancel serial =>
    match service.tasks.find? (·.serial == serial) with
    | some task => service.remove task
    | none => service

/-- The service at the moment at which something happens, before any task has noticed. -/
def poised (service : Service) : Happening → Service
  | .move now => { service with now := max service.now now }
  | .trigger => { service with shutdown := service.shutdown.trigger }
  | .settle | .cancel _ => service

/-- What stays true of the service whatever happens. -/
structure Sound (service : Service) (held : Nat) : Prop where
  distinct : service.Distinct
  /-- Beside the receivers of the tasks there are so many others. -/
  counted : service.Counted held
  /-- Numbers have been given out. -/
  numbered : ∀ task ∈ service.tasks, task.serial < service.begun
  /-- No receiver has accounted for a message that was not sent. -/
  behind : ∀ task ∈ service.tasks, ∀ receiver ∈ task.stage.receiver?,
    receiver.seen ≤ service.shutdown.signals.sent
  fitting : ∀ task ∈ service.tasks, task.Fits
  /-- After the shutdown was triggered nobody holds a receiver any more. -/
  drained : service.shutdown.isTriggered = true → ∀ task ∈ service.tasks, task.holds = false

/-- The tasks for which something is due, in the order of time and then of beginning. -/
def due (service : Service) : List Task :=
  (service.tasks.filter (·.isDueAt service.now)).mergeSort fun first second =>
    first.due?.getD 0 ≤ second.due?.getD 0

/-- The tasks that something reaches, in the order in which it does. -/
def reached (service : Service) : Happening → List Task
  | .settle => service.tasks.filter (·.stage == .busy)
  | .move now => ({ service with now := max service.now now } : Service).due
  | .trigger => service.tasks
  | .cancel serial => (service.tasks.find? (·.serial == serial)).toList

theorem due_perm (service : Service) :
    service.due.Perm (service.tasks.filter (·.isDueAt service.now)) := List.mergeSort_perm _ _

/-- Nothing is due that has not been attended to. -/
def Prompt (service : Service) : Prop :=
  ∀ task ∈ service.tasks, task.isDueAt service.now = false

variable {deployment : Deployment} {service : Service} {held : Nat} {happening : Happening}

/-! ### Everything that happens is a sweep -/

/-- Tasks are treated one after the other, each by the time and the messages that there are. -/
theorem bare_foldl {step : Service → Task → Service} {fate : Task → Fate} {tasks : List Task}
    (each : ∀ treated : Service, treated.now = service.now →
      treated.shutdown.signals.sent = service.shutdown.signals.sent →
      ∀ task ∈ tasks, (step treated task).bare = treated.bare.meet task (fate task)) :
    (tasks.foldl step service).bare = service.bare.sweep fate tasks := by
  have general (treated : Service) (clock : treated.now = service.now)
      (sent : treated.shutdown.signals.sent = service.shutdown.signals.sent)
      (rest : List Task) (among : ∀ task ∈ rest, task ∈ tasks) :
      (rest.foldl step treated).bare = treated.bare.sweep fate rest := by
    induction rest generalizing treated with
    | nil => rfl
    | cons task rest inductionHypothesis =>
      have met := each treated clock sent task (among task List.mem_cons_self)
      rw [List.foldl_cons, sweep_cons, ← met]
      refine inductionHypothesis (step treated task) ?_ ?_
        fun other member => among other (List.mem_cons_of_mem _ member)
      · have same := congrArg Service.now met
        rw [now_meet] at same
        exact same.trans clock
      · have same := congrArg (fun service => service.shutdown.signals.sent) met
        rw [sent_meet] at same
        exact same.trans sent
  exact general service rfl rfl tasks fun _ member => member

theorem Distinct.sweeps_filter {fate : Task → Fate} (distinct : service.Distinct)
    (concerned : Task → Bool)
    (idle : ∀ task, concerned task = false → fate task = .waits) :
    service.Sweeps fate (service.tasks.filter concerned) where
  present task member := (List.mem_filter.1 member).1
  once := distinct.sublist (List.Sublist.map _ List.filter_sublist)
  idle task member absent := by
    refine idle task (Bool.eq_false_iff.2 fun holds => absent ?_)
    exact List.mem_filter.2 ⟨member, holds⟩

theorem Sweeps.perm {fate : Task → Fate} {first second : List Task}
    (sweeps : service.Sweeps fate first) (perm : second.Perm first) :
    service.Sweeps fate second where
  present task member := sweeps.present task (perm.mem_iff.1 member)
  once := (perm.map Task.serial).nodup_iff.2 sweeps.once
  idle task member absent := sweeps.idle task member fun among => absent (perm.mem_iff.2 among)

theorem bare_endBusy (distinct : service.Distinct) :
    service.bare.Sweeps (Task.settleFate deployment service.now) (service.reached .settle) ∧
      (service.endBusy deployment).bare =
        service.bare.sweep (Task.settleFate deployment service.now) (service.reached .settle) := by
  have bareDistinct : service.bare.Distinct := distinct
  refine ⟨bareDistinct.sweeps_filter _ fun task idle => ?_,
    bare_foldl fun treated clock _ task member => ?_⟩
  · exact if_neg (by simpa using idle)
  · have busy : task.stage = .busy := by simpa using (List.mem_filter.1 member).2
    rw [bare_wake, clock, Task.settleFate, if_pos busy]

/-- Everything that is due is attended to in the order of time and then of beginning. -/
theorem bare_runDue (deployment : Deployment) (service : Service) :
    (service.runDue deployment).bare =
      service.bare.sweep (Task.dueFate deployment service.now) service.due := by
  refine bare_foldl fun treated clock _ task member => ?_
  have due := (List.mem_filter.1 (service.due_perm.mem_iff.1 member)).2
  rw [bare_attend, clock, Task.dueFate, if_pos due]

theorem Distinct.sweeps_due (distinct : service.Distinct) :
    service.bare.Sweeps (Task.dueFate deployment service.now) service.due := by
  have bareDistinct : service.bare.Distinct := distinct
  refine (bareDistinct.sweeps_filter _ fun task idle => ?_).perm service.due_perm
  exact if_neg (by simp [idle])

/-- Whoever holds a receiver has something to receive when the shutdown has been triggered. -/
theorem isReady_trigger (counted : service.Counted held) {task : Task}
    (member : task ∈ service.tasks) {receiver : Receiver}
    (watching : task.stage.receiver? = some receiver)
    (behind : receiver.seen ≤ service.shutdown.signals.sent) :
    receiver.isReady service.shutdown.trigger.signals = true := by
  have positive : 0 < service.tasks.countP Task.holds := by
    refine List.countP_pos_iff.2 ⟨task, member, ?_⟩
    rw [Task.holds, watching]
    rfl
  have present : service.shutdown.signals.receivers ≠ 0 := by
    have count : service.shutdown.signals.receivers = held + service.tasks.countP Task.holds :=
      counted
    omega
  have sent : service.shutdown.trigger.signals.sent = service.shutdown.signals.sent + 1 := by
    rw [Shutdown.trigger, Shutdown.announce, Shutdown.raise, Broadcast.send, if_neg present]
  rw [Receiver.isReady, Receiver.unread, sent, bne_iff_ne]
  omega

/-- The shutdown reaches all who hold a receiver. -/
theorem Sound.interruptFate (sound : service.Sound held) (now : Nat) {task : Task}
    (member : task ∈ service.tasks) :
    task.interruptFate service.shutdown.trigger.signals = task.fate deployment now .trigger := by
  have behind := sound.behind task member
  have ready (receiver : Receiver) (watching : task.stage.receiver? = some receiver) :=
    isReady_trigger sound.counted member watching (behind receiver watching)
  unfold Task.interruptFate Task.fate Task.holds
  cases waiting : task.stage with
  | asleep wake receiver =>
    rw [waiting] at ready
    exact if_pos (ready receiver rfl)
  | listening receiver =>
    rw [waiting] at ready
    exact if_pos (ready receiver rfl)
  | busy => rfl
  | relaying url giveUp => rfl

theorem interruptFate_congr {first second : Broadcast} (same : first.sent = second.sent)
    (task : Task) : task.interruptFate first = task.interruptFate second := by
  unfold Task.interruptFate Receiver.isReady Receiver.unread
  rw [same]

theorem Sound.bare_trigger (sound : service.Sound held) :
    (service.poised .trigger).bare.Sweeps (Task.fate deployment service.now .trigger)
        service.tasks ∧
      service.trigger.bare =
        (service.poised .trigger).bare.sweep (Task.fate deployment service.now .trigger)
          service.tasks := by
  refine ⟨⟨fun _ member => member, sound.distinct, fun _ member absent => absurd member absent⟩,
    bare_foldl fun treated _ sent task member => ?_⟩
  rw [bare_interrupt, interruptFate_congr sent, ← sound.interruptFate service.now member]

theorem bare_cancel (distinct : service.Distinct) (serial : Nat) :
    service.bare.Sweeps (Task.fate deployment service.now (.cancel serial))
        (service.reached (.cancel serial)) ∧
      (service.happen deployment (.cancel serial)).bare =
        service.bare.sweep (Task.fate deployment service.now (.cancel serial))
          (service.reached (.cancel serial)) := by
  rw [reached]
  cases found : service.tasks.find? (·.serial == serial) with
  | none =>
    refine ⟨⟨fun _ member => (nomatch member), List.nodup_nil,
      fun task member _ => if_neg ?_⟩, ?_⟩
    · have other := List.find?_eq_none.1 found task member
      simpa using other
    · simp only [happen, found]
      rfl
  | some task =>
    have mine : task.serial = serial := serial_of_task? found
    refine ⟨⟨?_, List.nodup_singleton _, fun other member absent => if_neg fun same => ?_⟩, ?_⟩
    · intro other member
      exact List.mem_singleton.1 member ▸ mem_of_task? found
    · have known := distinct.task?_of_mem member
      rw [same] at known
      exact absent (List.mem_singleton.2 (Option.some.inj (known.symm.trans found)))
    · have ends : task.fate deployment service.now (.cancel serial) = .ends none := if_pos mine
      simp only [happen, found, Option.toList_some, sweep, List.foldl_cons, List.foldl_nil, ends]
      rfl

/-- Whatever happens is a sweep over the tasks, in which each meets its fate. -/
theorem Sound.bare_happen (sound : service.Sound held) (deployment : Deployment)
    (happening : Happening) :
    (service.poised happening).bare.Sweeps
        (Task.fate deployment (service.poised happening).now happening)
        (service.reached happening) ∧
      (service.happen deployment happening).bare =
        (service.poised happening).bare.sweep
          (Task.fate deployment (service.poised happening).now happening)
          (service.reached happening) := by
  cases happening with
  | settle => exact bare_endBusy sound.distinct
  | move now =>
    have clocked : (service.poised (.move now)).Distinct := sound.distinct
    exact ⟨clocked.sweeps_due, bare_runDue deployment _⟩
  | trigger => exact sound.bare_trigger
  | cancel serial => exact bare_cancel sound.distinct serial

/-! ### What a happening leaves -/

section Views

variable (sound : service.Sound held) (deployment happening)
include sound

/-- Every task is left to its fate. -/
theorem Sound.task?_happen (serial : Nat) :
    (service.happen deployment happening).task? serial =
      (service.task? serial).bind fun task =>
        (task.fate deployment (service.poised happening).now happening).rest task := by
  obtain ⟨sweeps, swept⟩ := sound.bare_happen deployment happening
  have distinct : (service.poised happening).bare.Distinct := by
    cases happening <;> exact sound.distinct
  have same : (service.poised happening).bare.task? serial = service.task? serial := by
    cases happening <;> rfl
  rw [← same, ← (sweeps.view distinct serial).1, ← swept]
  rfl

/-- What ends under a number is told by the fate of its task. -/
theorem Sound.endingsOf_happen (serial : Nat) :
    (service.happen deployment happening).endingsOf serial =
      ((service.task? serial).elim [] fun task =>
        (task.fate deployment (service.poised happening).now happening).completions task
          (service.poised happening).now) ++ service.endingsOf serial := by
  obtain ⟨sweeps, swept⟩ := sound.bare_happen deployment happening
  have distinct : (service.poised happening).bare.Distinct := by
    cases happening <;> exact sound.distinct
  have same : (service.poised happening).bare.task? serial = service.task? serial := by
    cases happening <;> rfl
  have kept : (service.poised happening).bare.endingsOf serial = service.endingsOf serial := by
    cases happening <;> rfl
  rw [← same, ← kept]
  refine Eq.trans ?_ (sweeps.view distinct serial).2
  rw [← swept]
  rfl

theorem Sound.now_happen :
    (service.happen deployment happening).now = (service.poised happening).now := by
  obtain ⟨_, swept⟩ := sound.bare_happen deployment happening
  exact (congrArg Service.now swept).trans (now_sweep _)

theorem Sound.begun_happen : (service.happen deployment happening).begun = service.begun := by
  obtain ⟨_, swept⟩ := sound.bare_happen deployment happening
  have same : (service.poised happening).bare.begun = service.begun := by cases happening <;> rfl
  exact (congrArg Service.begun swept).trans ((begun_sweep _).trans same)

theorem Sound.backend_happen : (service.happen deployment happening).backend = service.backend := by
  obtain ⟨_, swept⟩ := sound.bare_happen deployment happening
  have same : (service.poised happening).bare.backend = service.backend := by
    cases happening <;> rfl
  exact (congrArg Service.backend swept).trans ((backend_sweep _).trans same)

theorem Sound.isTriggered_happen :
    (service.happen deployment happening).shutdown.isTriggered =
      (service.poised happening).shutdown.isTriggered := by
  obtain ⟨_, swept⟩ := sound.bare_happen deployment happening
  exact (congrArg (fun service => service.shutdown.isTriggered) swept).trans
    (isTriggered_sweep _)

theorem Sound.sent_happen :
    (service.happen deployment happening).shutdown.signals.sent =
      (service.poised happening).shutdown.signals.sent := by
  obtain ⟨_, swept⟩ := sound.bare_happen deployment happening
  exact (congrArg (fun service => service.shutdown.signals.sent) swept).trans (sent_sweep _)

end Views

theorem sent_poised (service : Service) (happening : Happening) :
    service.shutdown.signals.sent ≤ (service.poised happening).shutdown.signals.sent := by
  cases happening with
  | trigger =>
    by_cases alone : service.shutdown.signals.receivers = 0 <;>
      simp [poised, Shutdown.trigger, Shutdown.announce, Shutdown.raise, Broadcast.send, alone]
  | _ => exact Nat.le_refl _

/-- A receiver that a task still holds behind its fate is the one that it held before. -/
theorem receiver?_of_rest {task after : Task} {fate : Fate} (left : fate.rest task = some after)
    {receiver : Receiver} (watching : after.stage.receiver? = some receiver) :
    task.stage.receiver? = some receiver := by
  cases fate with
  | waits => exact Option.some.inj left ▸ watching
  | works =>
    rw [← Option.some.inj left] at watching
    cases watching
  | ends ending => cases left

/-- Whatever happens, tasks keep numbers of their own, and receivers are counted. -/
theorem Sound.counted_happen (sound : service.Sound held) (deployment : Deployment)
    (happening : Happening) :
    (service.happen deployment happening).Distinct ∧
      (service.happen deployment happening).Counted held := by
  obtain ⟨sweeps, swept⟩ := sound.bare_happen deployment happening
  have poisedDistinct : (service.poised happening).bare.Distinct := by
    cases happening <;> exact sound.distinct
  have poisedCounted : (service.poised happening).bare.Counted held := by
    cases happening with
    | trigger => exact (Shutdown.receiverCount_trigger service.shutdown).trans sound.counted
    | _ => exact sound.counted
  have kept : (service.happen deployment happening).bare.Distinct ∧
      (service.happen deployment happening).bare.Counted held := by
    rw [swept]
    exact poisedCounted.sweep poisedDistinct sweeps.present sweeps.once
  exact kept

/-- Every task that is left was there before and has met its fate. -/
theorem Sound.exists_rest (sound : service.Sound held) {task : Task}
    (member : task ∈ (service.happen deployment happening).tasks) :
    ∃ old ∈ service.tasks,
      (old.fate deployment (service.poised happening).now happening).rest old = some task := by
  have found := (sound.counted_happen deployment happening).1.task?_of_mem member
  rw [sound.task?_happen] at found
  obtain ⟨old, known, left⟩ := Option.bind_eq_some_iff.1 found
  exact ⟨old, mem_of_task? known, left⟩

/-- Whatever happens, the service stays sound. -/
theorem Sound.happen (sound : service.Sound held) (deployment : Deployment)
    (happening : Happening) : (service.happen deployment happening).Sound held := by
  obtain ⟨distinct, counted⟩ := sound.counted_happen deployment happening
  refine ⟨distinct, counted, fun task member => ?_, fun task member receiver watching => ?_,
    fun task member => ?_, fun triggered task member => ?_⟩
  · obtain ⟨old, known, left⟩ := sound.exists_rest member
    rw [Fate.serial_of_rest left, sound.begun_happen]
    exact sound.numbered old known
  · obtain ⟨old, known, left⟩ := sound.exists_rest member
    rw [sound.sent_happen]
    exact Nat.le_trans (sound.behind old known receiver (receiver?_of_rest left watching))
      (sent_poised service happening)
  · obtain ⟨old, known, left⟩ := sound.exists_rest member
    exact (sound.fitting old known).rest left
  · obtain ⟨old, known, left⟩ := sound.exists_rest member
    rw [sound.isTriggered_happen] at triggered
    refine Bool.eq_false_iff.2 fun holds => ?_
    have held := Fate.holds_of_rest left holds
    cases happening with
    | trigger =>
      rw [Task.fate, if_pos held] at left
      cases left
    | _ => exact absurd held (by rw [sound.drained triggered old known]; decide)

/-! ### Nothing is overdue -/

end Service

namespace Task

theorem isDueAt_eq_false_iff {task : Task} {now : Nat} :
    task.isDueAt now = false ↔
      (∀ due ∈ task.stage.due?, now < due) ∧ ∀ deadline ∈ task.deadline?, now < deadline := by
  unfold isDueAt due?
  cases task.stage.due? with
  | none => cases task.deadline? <;> simp [earlier?]
  | some due =>
    cases task.deadline? with
    | none => simp [earlier?]
    | some deadline =>
      simp only [earlier?, Option.any_some, decide_eq_false_iff_not, Nat.not_le,
        Option.mem_some_iff, forall_eq']
      exact Nat.lt_min

theorem isLateAt_eq_false_iff {task : Task} {now : Nat} :
    task.isLateAt now = false ↔ ∀ deadline ∈ task.deadline?, now < deadline := by
  unfold isLateAt
  cases task.deadline? <;> simp

theorem isLateAt_iff {task : Task} {now : Nat} :
    task.isLateAt now = true ↔ ∃ deadline ∈ task.deadline?, deadline ≤ now := by
  unfold isLateAt
  cases task.deadline? <;> simp

/-- Whoever is not too late is woken by what is due. -/
theorem attendFate_of_timely (deployment : Deployment) {now : Nat} {task : Task}
    (timely : task.isLateAt now = false) :
    task.attendFate deployment now = task.wakeFate deployment now := by
  unfold attendFate
  split
  · rw [timely]
    rfl
  · rfl

/-- Whoever waits for something other than the shutdown does not go on waiting when it is there. -/
theorem wakeFate_ne_waits (deployment : Deployment) (now : Nat) {task : Task} (fits : task.Fits)
    (other : task.isListening = false) : task.wakeFate deployment now ≠ .waits := by
  obtain ⟨serial, purpose, delaySeconds, rounds, started, stage⟩ := task
  cases stage with
  | asleep wake receiver =>
    cases purpose with
    | delay => simp [wakeFate, completionFate]
    | _ =>
      simp only [wakeFate, completionFate]
      split <;> simp
  | busy => simp [wakeFate, completionFate]
  | listening receiver => cases other
  | relaying url giveUp =>
    obtain ⟨exchange, header, same⟩ := fits
    cases same
    simp [wakeFate]

/-- A task that waits for the shutdown alone is no request, and nothing is ever due for it. -/
theorem Fits.due?_listening {task : Task} (fits : task.Fits) (listening : task.isListening = true) :
    task.due? = none := by
  obtain ⟨serial, purpose, delaySeconds, rounds, started, stage⟩ := task
  cases stage with
  | listening receiver =>
    cases (fits : purpose = .wait)
    rfl
  | _ => cases listening

/-- What a task is left with for which something is due: it may be busy from now on, if it is not
too late for that. -/
theorem attendFate_cases (deployment : Deployment) {now : Nat} {task : Task} (fits : task.Fits)
    (due : task.isDueAt now = true) :
    (∃ ending, task.attendFate deployment now = .ends ending) ∨
      task.attendFate deployment now = .works ∧ task.isLateAt now = false := by
  have other : task.isListening = false := by
    refine Bool.eq_false_iff.2 fun listening => ?_
    rw [isDueAt, fits.due?_listening listening] at due
    cases due
  have active := wakeFate_ne_waits deployment now fits other
  have punctual (timely : task.isLateAt now = false) :
      (∃ ending, task.wakeFate deployment now = .ends ending) ∨
        task.wakeFate deployment now = .works ∧ task.isLateAt now = false := by
    cases fate : task.wakeFate deployment now with
    | waits => exact absurd fate active
    | works => exact .inr ⟨rfl, timely⟩
    | ends ending => exact .inl ⟨ending, rfl⟩
  unfold attendFate
  cases request : task.purpose.exchange? with
  | none =>
    refine punctual (isLateAt_eq_false_iff.2 fun deadline there => ?_)
    rw [deadline?, request] at there
    cases there
  | some exchange =>
    simp only
    split
    · exact .inl ⟨_, rfl⟩
    · rename_i timely
      exact punctual (by simpa using timely)

/-- A task whose time has come is not left waiting for it. -/
theorem rest_dueFate {deployment : Deployment} {now : Nat} {task after : Task} (fits : task.Fits)
    (left : (task.dueFate deployment now).rest task = some after) : after.isDueAt now = false := by
  by_cases due : task.isDueAt now = true
  · rw [dueFate, if_pos due] at left
    rcases attendFate_cases deployment fits due with ⟨ending, ends⟩ | ⟨works, timely⟩
    · rw [ends] at left
      cases left
    · rw [works] at left
      rw [← Option.some.inj left]
      refine isDueAt_eq_false_iff.2 ⟨fun _ there => (nomatch there), ?_⟩
      exact isLateAt_eq_false_iff.1 timely
  · rw [dueFate, if_neg due] at left
    rw [← Option.some.inj left]
    simpa using due

/-- A task for which nothing is due is left without anything that is. -/
theorem rest_isDueAt {now : Nat} {task after : Task} {fate : Fate}
    (idle : task.isDueAt now = false) (left : fate.rest task = some after) :
    after.isDueAt now = false := by
  cases fate with
  | waits => exact Option.some.inj left ▸ idle
  | works =>
    rw [← Option.some.inj left]
    exact isDueAt_eq_false_iff.2 ⟨fun _ there => (nomatch there), (isDueAt_eq_false_iff.1 idle).2⟩
  | ends ending => cases left

end Task

namespace Service

variable {deployment : Deployment} {service : Service} {held : Nat}

theorem Sound.prompt_move (sound : service.Sound held) (deployment : Deployment) (now : Nat) :
    (service.happen deployment (.move now)).Prompt := by
  intro task member
  have found := (sound.happen deployment (.move now)).distinct.task?_of_mem member
  rw [sound.task?_happen] at found
  obtain ⟨old, known, left⟩ := Option.bind_eq_some_iff.1 found
  rw [sound.now_happen]
  exact Task.rest_dueFate (sound.fitting old (mem_of_task? known)) left

/-- Whatever happens, what is due has been attended to. -/
theorem Prompt.happen (prompt : service.Prompt) (sound : service.Sound held)
    (deployment : Deployment) (happening : Happening) :
    (service.happen deployment happening).Prompt := by
  cases same : happening with
  | move now => exact sound.prompt_move deployment now
  | _ =>
    intro task member
    have found := (sound.happen deployment _).distinct.task?_of_mem member
    rw [sound.task?_happen] at found
    obtain ⟨old, known, left⟩ := Option.bind_eq_some_iff.1 found
    rw [sound.now_happen]
    exact Task.rest_isDueAt (prompt old (mem_of_task? known)) left

end Service

end LatencyService
