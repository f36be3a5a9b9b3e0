/-
How a delayed operation ends. It is led by its history alone: a trigger that
comes before the clock has reached the end of the delay aborts it on the spot,
and the first moment at which the clock has reached that end completes it. A
busy loop behind the delay takes no time and is not disturbed by anything, since
it has come to its end before the clock is moved again.
-/

import LatencyService.Proofs.Pace
import LatencyService.Proofs.Waiting

namespace LatencyService

/-! ### One task that sleeps -/

namespace Task

variable (deployment : Deployment) {now wake : Nat} {task : Task} {receiver : Receiver}

theorem fate_cancel_other {serial : Nat} (other : task.serial ≠ serial) :
    task.fate deployment now (.cancel serial) = .waits := if_neg other

theorem fate_trigger_asleep (asleep : task.stage = .asleep wake receiver) :
    task.fate deployment now .trigger = .ends (some task.purpose.abortion) := by
  rw [fate, holds, asleep]
  rfl

/-- The delay is over and the deadline has not come: the task is woken. -/
theorem fate_move_late (asleep : task.stage = .asleep wake receiver) (late : wake ≤ now)
    (timely : ∀ deadline ∈ task.deadline?, now < deadline)
    (plain : task.purpose = .delay → task.rounds = 0) (later : Nat) :
    task.fate deployment now (.move later) =
      if task.rounds = 0 then task.completionFate deployment.settings.operation now
      else .works := by
  have due : task.isDueAt now = true := by
    refine Bool.not_eq_false _ ▸ fun idle => ?_
    have early := (isDueAt_eq_false_iff.1 idle).1 wake (by rw [asleep]; exact rfl)
    omega
  rw [fate, dueFate, if_pos due, attendFate_of_timely deployment (isLateAt_eq_false_iff.2 timely)]
  obtain ⟨serial, purpose, delaySeconds, rounds, started, stage⟩ := task
  cases asleep
  cases purpose with
  | delay =>
    rw [if_pos (plain rfl)]
    rfl
  | _ => rfl

end Task

/-! ### The course of a task that sleeps -/

namespace Happening

/-- No shutdown is triggered, and the clock reaches neither the end of a delay nor a deadline. -/
def Uneventful (wake : Nat) (deadline? : Option Nat) (happenings : List Happening) : Prop :=
  .trigger ∉ happenings ∧ ∀ later, .move later ∈ happenings →
    later < wake ∧ ∀ deadline ∈ deadline?, later < deadline

end Happening

namespace Course

variable (deployment : Deployment) {now wake : Nat} {task : Task} {receiver : Receiver}

/-- As long as nothing of note happens a task goes on sleeping. -/
theorem follow_asleep (asleep : task.stage = .asleep wake receiver) {happenings : List Happening}
    (uneventful : Happening.Uneventful wake task.deadline? happenings)
    (spared : .cancel task.serial ∉ happenings) (early : now < wake)
    (timely : ∀ deadline ∈ task.deadline?, now < deadline) :
    (⟨now, some task⟩ : Course).follow deployment happenings =
        ⟨Happening.clockAfter now happenings, some task⟩ ∧
      (⟨now, some task⟩ : Course).told deployment happenings = [] ∧
      Happening.clockAfter now happenings < wake := by
  have still : Happening.clockAfter now happenings < wake :=
    Happening.clockAfter_lt early fun later member => (uneventful.2 later member).1
  have idle : task.isDueAt (Happening.clockAfter now happenings) = false := by
    refine Task.isDueAt_eq_false_iff.2 ⟨fun due there => ?_, fun deadline there => ?_⟩
    · rw [asleep] at there
      exact Option.some.inj there ▸ still
    · exact Happening.clockAfter_lt (timely deadline there) fun later member =>
        (uneventful.2 later member).2 deadline there
  have waiting : task.stage ≠ .busy := by
    rw [asleep]
    exact Stage.noConfusion
  have waits := follow_waiting deployment waiting spared (fun _ => uneventful.1) idle
  exact ⟨waits.1, waits.2, still⟩

/-- A task that is busy is complete when busy loops end next, before the clock is moved. -/
theorem told_busy (now : Nat) (busy : task.stage = .busy) {happenings : List Happening}
    (paced : Happening.Paced false happenings) (spared : .cancel task.serial ∉ happenings) :
    (⟨now, some task⟩ : Course).told deployment happenings =
        (if .settle ∈ happenings then
          (task.completionFate deployment.settings.operation now).completions task now else []) ∧
      (.settle ∉ happenings →
        (⟨now, some task⟩ : Course).follow deployment happenings = ⟨now, some task⟩) := by
  induction happenings with
  | nil => exact ⟨(if_neg List.not_mem_nil).symm, fun _ => rfl⟩
  | cons happening rest inductionHypothesis =>
    cases happening with
    | settle =>
      have completes : task.fate deployment now .settle =
          task.completionFate deployment.settings.operation now := by
        rw [Task.fate, Task.settleFate, if_pos busy, Task.wakeFate, busy]
      refine ⟨?_, fun absent => absurd List.mem_cons_self absent⟩
      rw [if_pos List.mem_cons_self, told, (next_of_ends completes).1, (next_of_ends completes).2,
        told_ended, List.append_nil]
      rfl
    | move later => exact absurd paced.1 Bool.false_ne_true
    | trigger =>
      have waits : task.fate deployment now .trigger = .waits := by
        rw [Task.fate, Task.holds, busy]
        rfl
      have rest := inductionHypothesis paced fun member => spared (List.mem_cons_of_mem _ member)
      rw [follow_cons, told, (next_of_waits waits).1, (next_of_waits waits).2]
      simpa [Happening.clock] using rest
    | cancel serial =>
      have waits : task.fate deployment now (.cancel serial) = .waits :=
        Task.fate_cancel_other deployment fun same => spared (same ▸ List.mem_cons_self)
      have rest := inductionHypothesis paced fun member => spared (List.mem_cons_of_mem _ member)
      rw [follow_cons, told, (next_of_waits waits).1, (next_of_waits waits).2]
      simpa [Happening.clock] using rest

/-- The clock reaches the end of a delay before anything else happens to the task: it is complete,
at once or as soon as its busy loop has ended. -/
theorem told_awake (asleep : task.stage = .asleep wake receiver)
    (plain : task.purpose = .delay → task.rounds = 0) {later : Nat} {late : List Happening}
    (paced : Happening.Paced false late) (spared : .cancel task.serial ∉ late)
    (before : now ≤ later) (reached : wake ≤ later)
    (timely : ∀ deadline ∈ task.deadline?, later < deadline) :
    (⟨now, some task⟩ : Course).told deployment (.move later :: late) =
        (if task.rounds = 0 ∨ .settle ∈ late then
          (task.completionFate deployment.settings.operation later).completions task later
        else []) ∧
      (¬(task.rounds = 0 ∨ .settle ∈ late) →
        ((⟨now, some task⟩ : Course).follow deployment (.move later :: late)).task? =
          some { task with stage := .busy }) := by
  have clock : Happening.clock now (.move later) = later := Nat.max_eq_right before
  have woken := Task.fate_move_late deployment asleep reached timely plain later
  rw [← clock] at woken
  rw [follow_cons, told]
  by_cases idle : task.rounds = 0
  · rw [if_pos idle] at woken
    refine ⟨?_, fun neither => absurd (.inl idle) neither⟩
    rw [if_pos (.inl idle), (next_of_ends woken).1, (next_of_ends woken).2, told_ended,
      List.append_nil, clock]
    rfl
  · rw [if_neg idle] at woken
    have busy := told_busy deployment later
      (rfl : ({ task with stage := .busy } : Task).stage = .busy) paced spared
    rw [(next_of_works woken).1, (next_of_works woken).2, clock, List.nil_append]
    refine ⟨?_, fun neither => ?_⟩
    · rw [busy.1]
      exact if_congr (or_iff_right idle).symm rfl rfl
    · rw [busy.2 fun member => neither (.inr member)]

end Course

/-! ### What is reported of a task that has slept -/

/-- Seconds are cut off and not rounded, as long as they can be counted in sixty-four bits. -/
theorem Span.toNat_wholeSeconds {count : Nat} (countable : count / 1000 < UInt64.size) :
    (Span.ofMilliseconds count).wholeSeconds.toNat = count / 1000 := by
  rw [Span.wholeSeconds_eq_seconds]
  exact UInt64.toNat_ofNat_of_lt' countable

theorem Service.data_reportOf (settings : OperationSettings) {elapsed : Nat}
    (countable : elapsed / 1000 < UInt64.size) :
    (reportOf settings elapsed).data =
      some ("Total time spent: " ++ toString (elapsed / 1000) ++ " seconds") := by
  rw [← Span.toNat_wholeSeconds countable]
  rfl

/-! ### What is born to sleep -/

/-- A task that is to sleep: what for, how many seconds, and for how many rounds it is busy then. -/
structure Sleeper where
  purpose : Purpose
  delaySeconds : UInt64
  rounds : UInt64

namespace Service

/-- The task that is to sleep when something begins; a request for which no time is left is never
looked at. -/
def sleeper? (deployment : Deployment) (service : Service) : Start → Option Sleeper
  | .delay delaySeconds => some ⟨.delay, delaySeconds, 0⟩
  | .operation delaySeconds rounds => some ⟨.operation, delaySeconds, rounds⟩
  | .service policy delaySeconds => some ⟨.service policy, delaySeconds, 0⟩
  | .wait => none
  | .request request =>
    if service.deadlineOf deployment = some service.now then none
    else
      match Http.Dispatch.ofRequest request with
      | .demo header order =>
        some ⟨.demo (service.exchangeOf deployment request .demo) header,
          atLeastZero order.delay, atLeastZero order.rounds⟩
      | .demoService order =>
        some ⟨.demoService (service.exchangeOf deployment request .demoService),
          atLeastZero order.delay, 0⟩
      | _ => none

variable {deployment : Deployment} {service : Service} {start : Start} {sleeper : Sleeper}

/-- What a task that is to sleep is born as, and what is true of it. -/
theorem birth_of_sleeper? (sleeps : service.sleeper? deployment start = some sleeper) :
    service.birth deployment start =
        service.sleepBirth sleeper.purpose sleeper.delaySeconds sleeper.rounds ∧
      sleeper.purpose.sleeps = true ∧ (sleeper.purpose = .delay → sleeper.rounds = 0) ∧
      ∀ deadline ∈ sleeper.purpose.exchange?.bind Exchange.deadline, service.now < deadline := by
  cases start with
  | delay delaySeconds =>
    cases sleeps
    refine ⟨rfl, rfl, fun _ => rfl, ?_⟩
    rintro deadline ⟨⟩
  | operation delaySeconds rounds =>
    cases sleeps
    refine ⟨rfl, rfl, ?_, ?_⟩
    · rintro ⟨⟩
    · rintro deadline ⟨⟩
  | service policy delaySeconds =>
    cases sleeps
    refine ⟨rfl, rfl, ?_, ?_⟩
    · rintro ⟨⟩
    · rintro deadline ⟨⟩
  | wait => cases sleeps
  | request request =>
    simp only [sleeper?] at sleeps
    split at sleeps
    · cases sleeps
    · rename_i left
      simp only [birth, requestBirth, if_neg left, orderBirth]
      split at sleeps
      · rename_i dispatched
        cases sleeps
        rw [dispatched]
        refine ⟨rfl, rfl, ?_, deadlineOf_later left⟩
        rintro ⟨⟩
      · rename_i dispatched
        cases sleeps
        rw [dispatched]
        refine ⟨rfl, rfl, ?_, deadlineOf_later left⟩
        rintro ⟨⟩
      · cases sleeps

end Service

namespace Sleeper

/-- The task that sleeps from the moment on at which it begins at the service. -/
def task (sleeper : Sleeper) (service : Service) : Task where
  serial := service.begun
  purpose := sleeper.purpose
  delaySeconds := sleeper.delaySeconds
  rounds := sleeper.rounds
  started := service.now
  stage := .asleep (service.now + 1000 * sleeper.delaySeconds.toNat) service.shutdown.subscribe.1

end Sleeper

namespace Scene

variable {deployment : Deployment} {scene : Scene}

theorem paced_timeline (action : Action) (later : List Action) :
    Happening.Paced true (scene.timeline deployment action later) :=
  ⟨rfl, paced_history later⟩

end Scene

namespace Sleeper

/-- When the task of a sleeper wakes that begins at the service now. -/
def wake (sleeper : Sleeper) (service : Service) : Nat :=
  service.now + 1000 * sleeper.delaySeconds.toNat

/-- When the request is given up for which the task of a sleeper sleeps. -/
def deadline? (sleeper : Sleeper) : Option Nat :=
  sleeper.purpose.exchange?.bind Exchange.deadline

variable (deployment : Deployment) {sleeper : Sleeper} {service : Service}

theorem delaySeconds_le {moment : Nat} (reached : sleeper.wake service ≤ moment) :
    sleeper.delaySeconds.toNat ≤ (moment - service.now) / 1000 := by
  rw [wake] at reached
  omega

theorem delaySeconds_eq :
    (sleeper.wake service - service.now) / 1000 = sleeper.delaySeconds.toNat := by
  rw [wake]
  omega

/-- Something is due for a task that sleeps no later than when it wakes. -/
theorem exists_due (sleeper : Sleeper) (service : Service) :
    ∃ due ∈ (sleeper.task service).due?, due ≤ sleeper.wake service :=
  earlier?_le (.inl rfl)

/-- A task sleeps through the first part of what happens from its beginning on. -/
theorem follow_early {early late rest : List Happening}
    (parts : .move service.now :: rest = early ++ late)
    (spared : .cancel service.begun ∉ early)
    (timely : ∀ deadline ∈ sleeper.deadline?, service.now < deadline)
    (uneventful : Happening.Uneventful (sleeper.wake service) sleeper.deadline? early) :
    let course : Course := ⟨service.now, some (sleeper.task service)⟩
    course.follow deployment early =
        ⟨Happening.clockAfter service.now early, some (sleeper.task service)⟩ ∧
      course.told deployment early = [] ∧
      (early ≠ [] → Happening.clockAfter service.now early < sleeper.wake service) := by
  intro course
  cases early with
  | nil => exact ⟨rfl, rfl, fun none => absurd rfl none⟩
  | cons first behind =>
    have moves : first = .move service.now := (List.cons.inj parts).1.symm
    have early : service.now < sleeper.wake service :=
      (uneventful.2 service.now (moves ▸ List.mem_cons_self)).1
    have asleep := Course.follow_asleep deployment
      (rfl : (sleeper.task service).stage = .asleep (sleeper.wake service) _)
      uneventful spared early timely
    exact ⟨asleep.1, asleep.2.1, fun _ => asleep.2.2⟩

/-- A task that sleeps is aborted by the first trigger, unless the clock has come too far. -/
theorem told_trigger {early late rest : List Happening}
    (parts : .move service.now :: rest = early ++ .trigger :: late)
    (spared : .cancel service.begun ∉ early)
    (timely : ∀ deadline ∈ sleeper.deadline?, service.now < deadline)
    (uneventful : Happening.Uneventful (sleeper.wake service) sleeper.deadline? early) :
    Happening.clockAfter service.now early < sleeper.wake service ∧
      (⟨service.now, some (sleeper.task service)⟩ : Course).told deployment
          (.move service.now :: rest) =
        [⟨service.begun, Happening.clockAfter service.now early, sleeper.purpose.abortion⟩] := by
  have asleep := follow_early deployment parts spared timely uneventful
  have something : early ≠ [] := by
    rintro rfl
    cases (List.cons.inj parts).1
  have aborts : (sleeper.task service).fate deployment
      (Happening.clock (Happening.clockAfter service.now early) .trigger) .trigger =
      .ends (some sleeper.purpose.abortion) := Task.fate_trigger_asleep deployment rfl
  refine ⟨asleep.2.2 something, ?_⟩
  rw [parts, Course.told_append, asleep.1, asleep.2.1, Course.told_of_ends aborts]
  rfl

/-- A task that sleeps is woken at the first moment that is late enough, if the shutdown has not
been triggered by then. -/
theorem told_awake {early late rest : List Happening} {moment : Nat}
    (parts : .move service.now :: rest = early ++ .move moment :: late)
    (paced : Happening.Paced false late) (spared : .cancel service.begun ∉ early ++ late)
    (plain : sleeper.purpose = .delay → sleeper.rounds = 0)
    (timely : ∀ deadline ∈ sleeper.deadline?, service.now < deadline)
    (uneventful : Happening.Uneventful (sleeper.wake service) sleeper.deadline? early)
    (reached : sleeper.wake service ≤ moment)
    (onTime : ∀ deadline ∈ sleeper.deadline?, moment < deadline) {ending : Ending}
    (success : sleeper.purpose.success? (Service.reportOf deployment.settings.operation
      (moment - service.now)) = some ending) :
    let course : Course := ⟨service.now, some (sleeper.task service)⟩
    (sleeper.rounds = 0 ∨ .settle ∈ late →
        course.told deployment (.move service.now :: rest) = [⟨service.begun, moment, ending⟩]) ∧
      (¬(sleeper.rounds = 0 ∨ .settle ∈ late) →
        course.told deployment (.move service.now :: rest) = [] ∧
          (course.follow deployment (.move service.now :: rest)).task?.isSome = true) := by
  intro course
  have asleep := follow_early deployment parts
    (fun member => spared (List.mem_append_left _ member)) timely uneventful
  have before : Happening.clockAfter service.now early ≤ moment := by
    by_cases nothing : early = []
    · rw [nothing]
      exact Nat.le_trans (Nat.le_add_right _ _) reached
    · exact Nat.le_of_lt (Nat.lt_of_lt_of_le (asleep.2.2 nothing) reached)
  have awake := Course.told_awake deployment
    (rfl : (sleeper.task service).stage = .asleep (sleeper.wake service) _) plain paced
    (fun member => spared (List.mem_append_right _ member)) before reached onTime
  have completes : (sleeper.task service).completionFate deployment.settings.operation moment =
      .ends (some ending) := congrArg Fate.ends success
  rw [parts, Course.told_append, Course.follow_append, asleep.1, asleep.2.1, List.nil_append,
    awake.1, completes]
  refine ⟨fun done => if_pos done, fun waits => ⟨if_neg waits, ?_⟩⟩
  rw [awake.2 waits]
  rfl

end Sleeper

namespace Scene

open Happening (Uneventful clockAfter)

/-- In an unhurried run the clock does not pass the end of a delay before it stops there. -/
theorem Sound.moment_le_wake {deployment : Deployment} {scene : Scene} (sound : scene.Sound)
    {action : Action} {named : String × Start} (starts : action.start? = some named)
    {sleeper : Sleeper}
    (born : scene.service.birth deployment named.2 = .begins (sleeper.task scene.service))
    {later : List Action}
    (spared : .cancel scene.service.begun ∉ scene.timeline deployment action later)
    (timely : ∀ deadline ∈ sleeper.deadline?, scene.service.now < deadline)
    {early late : List Happening} {moment : Nat}
    (parts : scene.timeline deployment action later = early ++ .move moment :: late)
    (uneventful : Uneventful (sleeper.wake scene.service) sleeper.deadline? early)
    (unhurried : (scene.step deployment action).2.Unhurried deployment later) :
    moment ≤ sleeper.wake scene.service := by
  cases early with
  | nil =>
    have same : scene.service.now = moment := Happening.move.inj (List.cons.inj parts).1
    exact same ▸ Nat.le_add_right _ _
  | cons head tail =>
    obtain ⟨moves, rest⟩ := List.cons.inj parts
    have spared : .cancel scene.service.begun ∉ head :: tail := fun member =>
      spared (parts ▸ List.mem_append_left _ member)
    have asleep := Sleeper.follow_early deployment parts spared timely uneventful
    have step := (sound.begins deployment starts born []).2
    have sleeping : (((scene.step deployment action).2.service.course scene.service.begun).follow
        deployment tail).task? = some (sleeper.task scene.service) := by
      have whole := asleep.1
      rw [← moves] at whole
      exact (congrArg (fun course => (Course.follow deployment course tail).task?) step).trans
        (congrArg Course.task? whole)
    obtain ⟨due, there, least⟩ := sleeper.exists_due scene.service
    have stops := (sound.step deployment action).move_le_due unhurried
      (sound.begun_lt_step deployment starts) rest (sleeper.task scene.service) sleeping due there
    exact Nat.le_trans stops least

/-- How a delayed operation ends, whatever else is done to the service. Triggered before, the
shutdown aborts it at once. Otherwise the first trigger that comes before the end of its delay
aborts it on the spot; and if none comes, it succeeds at the first moment at which the clock has
reached that end. It ends once, and whatever comes then changes nothing. A request has to be spared
by its deadline until then. -/
theorem sleep_ends (deployment : Deployment) (backend : Backend) (before later : List Action)
    (action : Action) (name : String) (start : Start) (sleeper : Sleeper) :
    let first := Scene.start deployment backend
    let scene := first.after deployment before
    let serial := scene.service.begun
    let began := scene.service.now
    let wake := sleeper.wake scene.service
    let timeline := scene.timeline deployment action later
    let told := first.record deployment (before ++ action :: later) serial
    let service := (first.after deployment (before ++ action :: later)).service
    action.start? = some (name, start) →
    scene.service.sleeper? deployment start = some sleeper →
    .cancel serial ∉ timeline →
      (scene.service.shutdown.isTriggered = true →
        told = [⟨serial, began, sleeper.purpose.abortion⟩]) ∧
      (scene.service.shutdown.isTriggered = false →
        (∀ early late, timeline = early ++ .trigger :: late →
          Uneventful wake sleeper.deadline? early →
            clockAfter began early < wake ∧
              told = [⟨serial, clockAfter began early, sleeper.purpose.abortion⟩]) ∧
        (∀ early moment late, timeline = early ++ .move moment :: late →
          Uneventful wake sleeper.deadline? early →
          wake ≤ moment → (∀ deadline ∈ sleeper.deadline?, moment < deadline) →
            let elapsed := moment - began
            let report := Service.reportOf deployment.settings.operation elapsed
            (∃ ending ∈ sleeper.purpose.success? report,
              (sleeper.rounds = 0 ∨ .settle ∈ late → told = [⟨serial, moment, ending⟩]) ∧
              (¬(sleeper.rounds = 0 ∨ .settle ∈ late) →
                told = [] ∧ service.isLive serial = true)) ∧
            sleeper.delaySeconds.toNat ≤ elapsed / 1000 ∧
            (elapsed / 1000 < UInt64.size → report.data =
              some ("Total time spent: " ++ toString (elapsed / 1000) ++ " seconds")) ∧
            ((scene.step deployment action).2.Unhurried deployment later →
              moment = wake ∧ elapsed / 1000 = sleeper.delaySeconds.toNat)) ∧
        (Uneventful wake sleeper.deadline? timeline →
          told = [] ∧ service.isLive serial = true)) := by
  intro first scene serial began wake timeline told service starts sleeps spared
  have sound := (sound_start deployment backend).after deployment before
  obtain ⟨birth, sleepy, plain, timely⟩ := Service.birth_of_sleeper? sleeps
  have told_eq : told = scene.record deployment (action :: later) serial :=
    (sound_start deployment backend).record_from deployment before (action :: later)
  refine ⟨fun triggered => ?_, fun untriggered => ?_⟩
  · have atOnce : scene.service.birth deployment start = .atOnce sleeper.purpose.abortion := by
      rw [birth, Service.sleepBirth, if_pos triggered]
    exact told_eq.trans (sound.ends_at_once deployment starts atOnce later).1
  · have born : scene.service.birth deployment start = .begins (sleeper.task scene.service) := by
      rw [birth, Service.sleepBirth, untriggered]
      rfl
    obtain ⟨record, course⟩ := sound.begins deployment starts born later
    have live (there : ((⟨began, some (sleeper.task scene.service)⟩ : Course).follow deployment
        timeline).task?.isSome = true) : service.isLive serial = true := by
      have same : service.course serial = _ := (congrArg (fun scene => scene.service.course serial)
        (after_append before (action :: later))).trans course
      rw [Service.isLive_iff, ← Option.isSome_iff_exists]
      exact (congrArg (fun course => course.task?.isSome) same).trans there
    rw [told_eq]
    refine ⟨fun early late parts uneventful => ?_, fun early moment late parts uneventful reached
      onTime => ⟨?_, ?_, ?_, ?_⟩, fun uneventful => ?_⟩
    · have spared' : .cancel serial ∉ early := fun member =>
        spared (parts ▸ List.mem_append_left _ member)
      have aborted := Sleeper.told_trigger deployment parts spared' timely uneventful
      exact ⟨aborted.1, record.trans aborted.2⟩
    · obtain ⟨ending, success⟩ := Purpose.exists_success sleepy
        (Service.reportOf deployment.settings.operation (moment - began))
      have paced : Happening.Paced true timeline := paced_timeline action later
      rw [parts] at paced
      have spared' : .cancel serial ∉ early ++ late := by
        rw [parts] at spared
        simpa using spared
      have awake := Sleeper.told_awake deployment parts paced.behind_move spared' plain timely
        uneventful reached onTime success
      refine ⟨ending, success, fun done => record.trans (awake.1 done), fun waits => ?_⟩
      exact ⟨record.trans (awake.2 waits).1, live (awake.2 waits).2⟩
    · exact Sleeper.delaySeconds_le reached
    · exact Service.data_reportOf deployment.settings.operation
    · intro unhurried
      have stopped := sound.moment_le_wake starts born spared timely parts uneventful unhurried
      have same : moment = wake := Nat.le_antisymm stopped reached
      exact ⟨same, same ▸ Sleeper.delaySeconds_eq⟩
    · have asleep := Sleeper.follow_early deployment (List.append_nil timeline).symm spared timely
        uneventful
      refine ⟨record.trans asleep.2.1, live ?_⟩
      rw [asleep.1]
      rfl

/-- An operation of two seconds and one round begins beside a delay of one second, and the clock is
moved past both. -/
theorem sleep_ends_beside_delay :
    let deployment : Deployment := ⟨{}, fun _ => "identifier"⟩
    let first := start deployment {}
    let before := [.delay "first" 1]
    let scene := first.after deployment before
    let action := Action.operation "second" 2 1
    let later := [.advance 500, .advance 1700, .trigger]
    action.start? = some ("second", .operation 2 1) ∧
      scene.service.sleeper? deployment (.operation 2 1) = some ⟨.operation, 2, 1⟩ ∧
      .cancel scene.service.begun ∉ scene.timeline deployment action later ∧
      first.record deployment (before ++ action :: later) scene.service.begun =
        [⟨1, 2200, .completed ⟨some "local", some "Total time spent: 2 seconds"⟩⟩] := by
  intro deployment first before scene action later
  have spared : .cancel scene.service.begun ∉ scene.timeline deployment action later := by
    decide +kernel
  refine ⟨rfl, rfl, spared, ?_⟩
  have ends := sleep_ends deployment {} before later action "second" (.operation 2 1)
    ⟨.operation, 2, 1⟩ rfl rfl spared
  have parts : scene.timeline deployment action later =
      [.move 0, .settle, .move 500, .settle] ++ .move 2200 :: [.settle, .trigger] := by
    decide +kernel
  have untriggered : scene.service.shutdown.isTriggered = false := by decide +kernel
  have wake : Sleeper.wake ⟨.operation, 2, 1⟩ scene.service = 2000 := by decide +kernel
  have began : scene.service.now = 0 := by decide +kernel
  have serial : scene.service.begun = 1 := by decide +kernel
  have uneventful : Uneventful (Sleeper.wake ⟨.operation, 2, 1⟩ scene.service) none
      [.move 0, .settle, .move 500, .settle] := by
    rw [wake]
    refine ⟨by decide, fun later member => ⟨?_, fun _ there => (nomatch there)⟩⟩
    simp at member
    omega
  obtain ⟨ending, success, done, -⟩ :=
    ((ends.2 untriggered).2.1 _ _ _ parts uneventful (by rw [wake]; decide) nofun).1
  cases success
  rw [done (.inr (by decide)), serial, began]
  decide +kernel

end Scene

end LatencyService
