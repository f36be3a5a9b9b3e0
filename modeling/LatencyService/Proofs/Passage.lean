/-
What happens while somebody waits for a task. Time passes from one moment at
which something is due to the next, for as many rounds as the tasks need. Yet
for any one task no more counts than when it is due itself and when the wait is
over: it is attended to when its time comes, if the wait is not over before.
So a wait is the same for a task whatever other tasks there are beside it and
the one that is waited for.
-/

import LatencyService.Proofs.Serving
import Mathlib.Data.List.Perm.Subperm

namespace LatencyService

namespace Task

variable {deployment : Deployment} {task awaited : Task} {now last due : Nat}

/-- When the wait for a task is over, for somebody who waits no longer than to a last moment. -/
def arrival (last : Nat) (awaited : Task) : Nat := awaited.due?.elim last (min last)

/-- The task is still there when what is due for it at a time has been attended to. -/
def outlasts (deployment : Deployment) (time : Nat) (task : Task) : Bool :=
  ((task.dueFate deployment time).rest task).isSome

/-- What happens to a task while somebody waits for another one. It is attended to when its time
comes, and the busy loop behind that ends unless the wait is over at once. -/
def meanwhile (deployment : Deployment) (last : Nat) (task awaited : Task) : List Happening :=
  task.due?.elim [] fun due =>
    if awaited.arrival last < due then []
    else .move due :: if awaited.outlasts deployment due then [.settle] else []

theorem meanwhile_of_late (late : ∀ due ∈ task.due?, awaited.arrival last < due) :
    task.meanwhile deployment last awaited = [] := by
  unfold meanwhile
  cases same : task.due? with
  | none => rfl
  | some due => exact if_pos (late due same)

theorem meanwhile_of_due (same : task.due? = some due) (reached : due ≤ awaited.arrival last) :
    task.meanwhile deployment last awaited =
      .move due :: if awaited.outlasts deployment due then [.settle] else [] := by
  rw [meanwhile, same, Option.elim_some, if_neg (Nat.not_lt.2 reached)]

theorem arrival_of_due (same : awaited.due? = some due) (soon : due ≤ last) :
    awaited.arrival last = due := by
  rw [arrival, same, Option.elim_some, Nat.min_eq_right soon]

theorem arrival_of_late (late : ∀ due ∈ awaited.due?, last ≤ due) :
    awaited.arrival last = last := by
  unfold arrival
  cases same : awaited.due? with
  | none => rfl
  | some due => exact Nat.min_eq_left (late due same)

theorem le_arrival (late : ∀ due ∈ awaited.due?, now ≤ due) (before : now ≤ last) :
    now ≤ awaited.arrival last := by
  unfold arrival
  cases same : awaited.due? with
  | none => exact before
  | some due => exact Nat.le_min.2 ⟨before, late due same⟩

/-- Nothing is due for a task at a time before all that is due for it. -/
theorem isDueAt_eq_false (late : ∀ due ∈ task.due?, now < due) : task.isDueAt now = false := by
  refine Bool.eq_false_iff.2 fun reached => ?_
  obtain ⟨time, there, before⟩ := isDueAt_iff.1 reached
  exact absurd (late time there) (Nat.not_lt.2 before)

theorem lt_of_isDueAt_eq_false (idle : task.isDueAt now = false) : ∀ due ∈ task.due?, now < due :=
  fun due there => Nat.lt_of_not_le fun before =>
    Bool.eq_false_iff.1 idle (isDueAt_iff.2 ⟨due, there, before⟩)

/-- A task for which nothing is due outlasts the moment. -/
theorem outlasts_of_idle (idle : task.isDueAt now = false) :
    task.outlasts deployment now = true := by
  rw [outlasts, dueFate, idle]
  rfl

end Task

namespace Course

variable {deployment : Deployment} {now later due : Nat} {task awaited : Task}

/-- The clock comes to a time at which nothing is due for a task. -/
theorem next_move_idle (deployment : Deployment) (idle : task.isDueAt due = false)
    (before : now ≤ due) :
    (⟨now, some task⟩ : Course).next deployment (.move due) = ⟨due, some task⟩ ∧
      (⟨now, some task⟩ : Course).completions deployment (.move due) = [] := by
  have clock : Happening.clock now (.move due) = due := Nat.max_eq_right before
  have waits : task.fate deployment (Happening.clock now (.move due)) (.move due) = .waits := by
    rw [clock]
    exact if_neg (by rw [idle]; exact Bool.false_ne_true)
  have stays := next_of_waits waits
  rwa [clock] at stays

/-- A task that is attended to has ended when busy loops end next. -/
theorem next_attended_settle (fits : task.Fits) (reached : task.isDueAt due = true)
    (before : now ≤ due) :
    (((⟨now, some task⟩ : Course).next deployment (.move due)).next deployment .settle).task? =
      none := by
  rw [(next_move_due deployment reached before).1]
  rcases Task.attendFate_cases deployment fits reached with ⟨ending, ends⟩ | ⟨works, -⟩
  · rw [ends]
    rfl
  · rw [works]
    rfl

/-- What happens to a task during a wait does not depend on when the wait begins, if that is before
anything is due for the task. -/
theorem meanwhile_later (deployment : Deployment) (last : Nat) (awaited : Task)
    (before : now ≤ later) (idle : task.isDueAt later = false) :
    let happenings := task.meanwhile deployment last awaited
    ((⟨now, some task⟩ : Course).follow deployment happenings).task? =
        ((⟨later, some task⟩ : Course).follow deployment happenings).task? ∧
      (⟨now, some task⟩ : Course).told deployment happenings =
        (⟨later, some task⟩ : Course).told deployment happenings := by
  intro happenings
  by_cases late : ∀ due ∈ task.due?, awaited.arrival last < due
  · have nothing : happenings = [] := Task.meanwhile_of_late late
    rw [nothing]
    exact ⟨rfl, rfl⟩
  · obtain ⟨due, there, reached⟩ : ∃ due, task.due? = some due ∧ due ≤ awaited.arrival last := by
      simpa using late
    have after := Task.lt_of_isDueAt_eq_false idle due there
    have same : (⟨now, some task⟩ : Course).next deployment (.move due) =
          (⟨later, some task⟩ : Course).next deployment (.move due) ∧
        (⟨now, some task⟩ : Course).completions deployment (.move due) =
          (⟨later, some task⟩ : Course).completions deployment (.move due) := by
      have first : Happening.clock now (.move due) = due := Nat.max_eq_right (by omega)
      have second : Happening.clock later (.move due) = due := Nat.max_eq_right (by omega)
      rw [next, next, completions, completions, first, second]
      exact ⟨rfl, rfl⟩
    have parts : happenings = _ := Task.meanwhile_of_due there reached
    rw [parts, follow_cons, follow_cons, told, told, same.1, same.2]
    exact ⟨rfl, rfl⟩

end Course

namespace Service

variable {deployment : Deployment} {service : Service} {held serial fuel last due : Nat}
  {awaited task : Task}

/-- Nothing is due, and no busy loop is turning. -/
structure Calm (service : Service) (held : Nat) : Prop where
  sound : service.Sound held
  prompt : service.Prompt
  idle : ∀ task ∈ service.tasks, task.stage ≠ .busy

theorem Sound.calm (sound : service.Sound held) (prompt : service.Prompt)
    (deployment : Deployment) : (service.endBusy deployment).Calm held where
  sound := sound.happen deployment .settle
  prompt := prompt.happen sound deployment .settle
  idle task member := by
    have found := (sound.happen deployment .settle).distinct.task?_of_mem member
    have course := sound.course_happen deployment .settle task.serial
    exact Course.idle_settle deployment (service.course task.serial) task
      ((congrArg Course.task? course).symm.trans found)

theorem Calm.endBusy (calm : service.Calm held) (deployment : Deployment) :
    service.endBusy deployment = service := by
  have none_busy : service.tasks.filter (·.stage == .busy) = [] :=
    List.filter_eq_nil_iff.2 fun task member => by simpa using calm.idle task member
  rw [Service.endBusy, none_busy, List.foldl_nil]

/-- A wait for a task that no busy loop holds up may begin when busy loops have ended. -/
theorem passage_endBusy (live : (service.endBusy deployment).isLive serial = true)
    (still : service.isLive serial = true)
    (calm : (service.endBusy deployment).Calm held) (last : Option Nat) :
    service.passage deployment serial last (fuel + 1) =
      (service.endBusy deployment).passage deployment serial last (fuel + 1) := by
  rw [passage, passage, calm.endBusy deployment, live, still]

/-- There is no wait for a task that has ended. -/
theorem passage_ended (ended : service.isLive serial = false) (last : Option Nat) :
    service.passage deployment serial last fuel = [] := by
  cases fuel with
  | zero => rfl
  | succ fuel =>
    rw [passage, ended]
    rfl

/-- A wait for a task that is there begins with the end of busy loops. -/
theorem passage_live (live : service.isLive serial = true) (last : Option Nat) :
    ∃ rest, service.passage deployment serial last (fuel + 1) = .settle :: rest := by
  rw [passage]
  dsimp only
  rw [live]
  split
  · contradiction
  · split
    · exact ⟨_, rfl⟩
    · split
      · exact ⟨_, rfl⟩
      · split <;> exact ⟨_, rfl⟩

/-- What happens during a wait is the same for a task as what happens to it by itself. -/
structure Passes (deployment : Deployment) (last : Nat) (awaited : Task) (service : Service)
    (happenings : List Happening) : Prop where
  arrives : Happening.clockAfter service.now happenings = awaited.arrival last
  leads : ∀ serial, ∀ task ∈ service.task? serial,
    ((service.course serial).follow deployment happenings).task? =
      ((service.course serial).follow deployment
        (task.meanwhile deployment last awaited)).task?
  tells : ∀ serial, ∀ task ∈ service.task? serial,
    (service.course serial).told deployment happenings =
      (service.course serial).told deployment (task.meanwhile deployment last awaited)

/-! ### The last round of a wait -/

theorem Calm.of_task? (calm : service.Calm held) (found : service.task? serial = some task) :
    task.Fits ∧ task.stage ≠ .busy ∧ task.isDueAt service.now = false :=
  ⟨calm.sound.fitting task (mem_of_task? found), calm.idle task (mem_of_task? found),
    calm.prompt task (mem_of_task? found)⟩

theorem course_of_task? (found : service.task? serial = some task) :
    service.course serial = ⟨service.now, some task⟩ := congrArg (Course.mk service.now) found

/-- When nothing is due any more up to the last moment, the clock is moved there. -/
theorem Calm.passes_last (calm : service.Calm held) (waited : service.task? serial = some awaited)
    (before : service.now ≤ last)
    (late : ∀ task ∈ service.tasks, ∀ due ∈ task.due?, last < due) :
    service.Passes deployment last awaited [.settle, .move last] := by
  have arrival : awaited.arrival last = last := Task.arrival_of_late fun due there =>
    Nat.le_of_lt (late awaited (mem_of_task? waited) due there)
  have waits (other : Nat) (task : Task) (found : service.task? other = some task) :
      (service.course other).follow deployment [.settle, .move last] = ⟨last, some task⟩ ∧
        (service.course other).told deployment [.settle, .move last] = [] := by
    obtain ⟨-, waiting, -⟩ := calm.of_task? found
    have clock : Happening.clockAfter service.now [.settle, .move last] = last :=
      Nat.max_eq_right before
    have idle := Task.isDueAt_eq_false (late task (mem_of_task? found))
    have stays : (⟨service.now, some task⟩ : Course).follow deployment [.settle, .move last] = _ ∧
        _ := Course.follow_waiting deployment waiting (by simp) (by simp) (clock.symm ▸ idle)
    rwa [clock, ← course_of_task? found] at stays
  have nothing (other : Nat) (task : Task) (found : service.task? other = some task) :
      task.meanwhile deployment last awaited = [] :=
    Task.meanwhile_of_late fun due there =>
      arrival.symm ▸ late task (mem_of_task? found) due there
  refine ⟨(Nat.max_eq_right before).trans arrival.symm, fun other task found => ?_,
    fun other task found => ?_⟩
  · rw [(waits other task found).1, nothing other task found]
    exact found.symm
  · rw [(waits other task found).2, nothing other task found]
    rfl

/-! ### A round of a wait -/

section Round

variable (calm : service.Calm held)
include calm

/-- The first round of a wait leads a task to the next moment. -/
theorem Calm.follow_round (deployment : Deployment) (found : service.task? serial = some task)
    (due : Nat) (rest : List Happening) :
    (service.course serial).follow deployment (.settle :: .move due :: rest) =
        ((service.course serial).next deployment (.move due)).follow deployment rest ∧
      (service.course serial).told deployment (.settle :: .move due :: rest) =
        (service.course serial).completions deployment (.move due) ++
          ((service.course serial).next deployment (.move due)).told deployment rest := by
  obtain ⟨-, waiting, -⟩ := calm.of_task? found
  have idle : (service.course serial).Idle := by
    rintro other there
    rw [course_of_task? found] at there
    exact Option.some.inj there ▸ waiting
  have settled := idle.settle deployment
  rw [Course.follow_cons, settled.1, Course.told, settled.1, settled.2]
  exact ⟨rfl, rfl⟩

/-- The service when the first round of a wait is over. -/
def round (deployment : Deployment) (service : Service) (due : Nat) : Service :=
  (service.moveTo deployment due).endBusy deployment

theorem Calm.round (deployment : Deployment) (due : Nat) :
    (service.round deployment due).Calm held :=
  (calm.sound.happen deployment (.move due)).calm
    (calm.prompt.happen calm.sound deployment (.move due)) deployment

theorem Calm.course_round (deployment : Deployment) (due serial : Nat) :
    (service.round deployment due).course serial =
      ((service.course serial).next deployment (.move due)).next deployment .settle :=
  calm.sound.course_undergo [.move due, .settle] serial

/-- A wait for a task that is there goes to the next moment at which something is due, or else to the
last one. -/
theorem Calm.passage_succ (waited : service.task? serial = some awaited) (fuel : Nat) :
    service.passage deployment serial (some last) (fuel + 1) =
      match service.nextDue? with
      | none => [.settle, .move last]
      | some due =>
        if last < due then [.settle, .move last]
        else
          .settle :: .move due ::
            (service.moveTo deployment due).passage deployment serial (some last) fuel := by
  have live : service.isLive serial = true := isLive_iff.2 ⟨awaited, waited⟩
  rw [passage]
  dsimp only
  rw [calm.endBusy deployment, live]
  cases service.nextDue? with
  | none => rfl
  | some due => simp

variable (next : service.nextDue? = some due)
include next

/-- Nothing is due before the next moment, and something is due then. -/
theorem Calm.soonest :
    service.now ≤ due ∧ (∀ task ∈ service.tasks, ∀ time ∈ task.due?, due ≤ time) ∧
      ∃ task ∈ service.tasks, task.due? = some due := by
  obtain ⟨first, member, same⟩ : ∃ task ∈ service.tasks, task.due? = some due := by
    rcases foldl_earlier?_mem service.tasks none with nothing | ⟨task, member, same⟩
    · exact nomatch nothing.symm.trans next
    · exact ⟨task, member, same.symm.trans next⟩
  refine ⟨Nat.le_of_lt ?_, fun task among time there => ?_, first, member, same⟩
  · exact Task.lt_of_isDueAt_eq_false (calm.prompt first member) due same
  · obtain ⟨least, known, before⟩ := nextDue?_le among there
    rw [next] at known
    exact Option.some.inj known ▸ before

/-- What is due at the next moment is due exactly then. -/
theorem Calm.due?_eq (found : service.task? serial = some task)
    (reached : task.isDueAt due = true) : task.due? = some due := by
  obtain ⟨time, there, before⟩ := Task.isDueAt_iff.1 reached
  have after := (calm.soonest next).2.1 task (mem_of_task? found) time there
  exact Nat.le_antisymm before after ▸ there

/-- If nothing more happens in a round, or no more than that busy loops end, then the wait is over
because its task was attended to. -/
theorem Calm.passes_over (waited : service.task? serial = some awaited) (soon : due ≤ last)
    (reached : awaited.isDueAt due = true) :
    service.Passes deployment last awaited
      (.settle :: .move due :: if awaited.outlasts deployment due then [.settle] else []) := by
  have before := (calm.soonest next).1
  have arrival : awaited.arrival last = due :=
    Task.arrival_of_due (calm.due?_eq next waited reached) soon
  have each (other : Nat) (task : Task) (found : service.task? other = some task) :
      ((service.course other).follow deployment
          (.settle :: .move due ::
            if awaited.outlasts deployment due then [.settle] else [])).task? =
          ((service.course other).follow deployment
            (task.meanwhile deployment last awaited)).task? ∧
        (service.course other).told deployment
            (.settle :: .move due ::
              if awaited.outlasts deployment due then [.settle] else []) =
          (service.course other).told deployment
            (task.meanwhile deployment last awaited) := by
    obtain ⟨-, waiting, -⟩ := calm.of_task? found
    have round := calm.follow_round deployment found due
      (if awaited.outlasts deployment due then [.settle] else [])
    rw [round.1, round.2]
    by_cases mine : task.isDueAt due = true
    · have same := calm.due?_eq next found mine
      rw [Task.meanwhile_of_due same (Nat.le_of_eq arrival.symm)]
      exact ⟨rfl, rfl⟩
    · have idle : task.isDueAt due = false := Bool.eq_false_iff.2 mine
      have still := Course.follow_settle_waiting waiting deployment due []
      have moved := Course.next_move_idle deployment idle before
      have nothing : task.meanwhile deployment last awaited = [] :=
        Task.meanwhile_of_late (arrival.symm ▸ Task.lt_of_isDueAt_eq_false idle)
      rw [nothing, course_of_task? found, moved.1, moved.2]
      split
      · exact ⟨(congrArg Course.task? still.1).trans rfl, still.2⟩
      · exact ⟨rfl, rfl⟩
  refine ⟨?_, fun other task found => (each other task found).1,
    fun other task found => (each other task found).2⟩
  have clock : max service.now due = due := Nat.max_eq_right before
  rw [arrival]
  split <;> exact clock

/-- A task for which nothing is due yet is left as it was by a round. -/
theorem Calm.course_round_idle (deployment : Deployment)
    (found : service.task? serial = some task)
    (idle : task.isDueAt due = false) :
    (service.round deployment due).course serial = ⟨due, some task⟩ := by
  obtain ⟨-, waiting, -⟩ := calm.of_task? found
  rw [calm.course_round, course_of_task? found,
    (Course.next_move_idle deployment idle (calm.soonest next).1).1]
  exact (Course.next_settle_waiting waiting deployment due).1

/-- A task for which something is due has ended behind a round. -/
theorem Calm.task?_round_due (deployment : Deployment)
    (found : service.task? serial = some task)
    (reached : task.isDueAt due = true) :
    (service.round deployment due).task? serial = none := by
  obtain ⟨fits, -, -⟩ := calm.of_task? found
  have course := calm.course_round deployment due serial
  rw [course_of_task? found] at course
  exact (congrArg Course.task? course).trans
    (Course.next_attended_settle fits reached (calm.soonest next).1)

/-- Every round leaves fewer tasks. -/
theorem Calm.length_round (deployment : Deployment) :
    (service.round deployment due).tasks.length < service.tasks.length := by
  obtain ⟨-, -, first, member, same⟩ := calm.soonest next
  have distinct : (service.round deployment due).Distinct :=
    (calm.sound.undergo deployment [.move due, .settle]).distinct
  have gone : (service.round deployment due).task? first.serial = none :=
    calm.task?_round_due next deployment (calm.sound.distinct.task?_of_mem member)
      (Task.isDueAt_iff.2 ⟨due, same, Nat.le_refl due⟩)
  have once : (first.serial :: (service.round deployment due).tasks.map Task.serial).Nodup := by
    refine List.nodup_cons.2 ⟨fun among => ?_, distinct⟩
    obtain ⟨task, left, mine⟩ := List.mem_map.1 among
    have found := distinct.task?_of_mem left
    rw [mine, gone] at found
    cases found
  have known : first.serial :: (service.round deployment due).tasks.map Task.serial ⊆
      service.tasks.map Task.serial := by
    refine List.cons_subset.2 ⟨List.mem_map_of_mem member, fun serial among => ?_⟩
    obtain ⟨task, left, rfl⟩ := List.mem_map.1 among
    have course := calm.course_round deployment due task.serial
    have found := distinct.task?_of_mem left
    cases before : service.task? task.serial with
    | none =>
      rw [Service.course, Service.course, before] at course
      cases found.symm.trans (congrArg Course.task? course)
    | some old => exact List.mem_map.2 ⟨old, mem_of_task? before, serial_of_task? before⟩
  have shorter := (once.subperm known).length_le
  rwa [List.length_cons, List.length_map, List.length_map] at shorter

/-- A wait is over behind a round in which its task was attended to, except for a busy loop. -/
theorem Calm.passage_over (waited : service.task? serial = some awaited)
    (reached : awaited.isDueAt due = true) (fuel : Nat) :
    (service.moveTo deployment due).passage deployment serial (some last) (fuel + 1) =
      if awaited.outlasts deployment due then [.settle] else [] := by
  have course : (service.moveTo deployment due).course serial =
      (service.course serial).next deployment (.move due) :=
    calm.sound.course_happen deployment (.move due) serial
  have clock : max service.now due = due := Nat.max_eq_right (calm.soonest next).1
  have left : (service.moveTo deployment due).task? serial =
      (awaited.dueFate deployment due).rest awaited := by
    refine (congrArg Course.task? course).trans ?_
    rw [course_of_task? waited]
    show (awaited.dueFate deployment (max service.now due)).rest awaited = _
    rw [clock]
  have gone : ((service.moveTo deployment due).endBusy deployment).isLive serial = false :=
    isLive_eq_false_iff.2 (calm.task?_round_due next deployment waited reached)
  unfold Task.outlasts
  rw [← left]
  cases found : (service.moveTo deployment due).task? serial with
  | none => exact passage_ended (isLive_eq_false_iff.2 found) _
  | some task =>
    have live : (service.moveTo deployment due).isLive serial = true :=
      isLive_iff.2 ⟨task, found⟩
    rw [passage]
    dsimp only
    rw [live, gone]
    rfl

/-- If the task that is waited for outlasts a round, what comes behind the round is the same as a
wait that begins there. -/
theorem Calm.passes_on (waited : service.task? serial = some awaited)
    (idle : awaited.isDueAt due = false) (soon : due ≤ last) {rest : List Happening}
    (passes : (service.round deployment due).Passes deployment last awaited (.settle :: rest)) :
    service.Passes deployment last awaited (.settle :: .move due :: .settle :: rest) := by
  obtain ⟨before, least, -⟩ := calm.soonest next
  have clock : (service.round deployment due).now = due :=
    congrArg Course.now (calm.course_round_idle next deployment waited idle)
  have later : due ≤ awaited.arrival last :=
    Task.le_arrival (least awaited (mem_of_task? waited)) soon
  have each (other : Nat) (task : Task) (found : service.task? other = some task) :
      ((service.course other).follow deployment (.settle :: .move due :: .settle :: rest)).task? =
          ((service.course other).follow deployment
            (task.meanwhile deployment last awaited)).task? ∧
        (service.course other).told deployment (.settle :: .move due :: .settle :: rest) =
          (service.course other).told deployment (task.meanwhile deployment last awaited) := by
    have first := calm.follow_round deployment found due (.settle :: rest)
    rw [first.1, first.2]
    by_cases mine : task.isDueAt due = true
    · -- The task has ended behind the round, and nothing more happens to it.
      have gone := calm.task?_round_due next deployment found mine
      have ended : (((service.course other).next deployment (.move due)).next deployment
          .settle).task? = none :=
        (congrArg Course.task? (calm.course_round deployment due other)).symm.trans gone
      rw [Task.meanwhile_of_due (calm.due?_eq next found mine) later,
        if_pos (Task.outlasts_of_idle idle), Course.follow_cons, Course.told,
        Course.task?_follow_none ended, Course.told_none ended, Course.told, Course.told]
      exact ⟨ended.symm, rfl⟩
    · -- The task is left as it was, and the rest of the wait begins at the next moment.
      have quiet : task.isDueAt due = false := Bool.eq_false_iff.2 mine
      have stays := calm.course_round_idle next deployment found quiet
      have still : (service.round deployment due).task? other = some task :=
        congrArg Course.task? stays
      have leads := passes.leads other task still
      have tells := passes.tells other task still
      have begins := Course.meanwhile_later deployment last awaited before quiet
      have moved := Course.next_move_idle deployment quiet before
      rw [stays] at leads tells
      rw [course_of_task? found, moved.1, moved.2, List.nil_append, leads, tells, begins.1,
        begins.2]
      exact ⟨rfl, rfl⟩
  refine ⟨?_, fun other task found => (each other task found).1,
    fun other task found => (each other task found).2⟩
  have arrives := passes.arrives
  rw [clock] at arrives
  have moves : Happening.clockAfter service.now (.settle :: .move due :: .settle :: rest) =
      Happening.clockAfter (max service.now due) (.settle :: rest) := rfl
  rw [moves, Nat.max_eq_right before, arrives]

/-- A wait goes on behind a round in which its task was not attended to. -/
theorem Calm.passage_on (waited : service.task? serial = some awaited)
    (idle : awaited.isDueAt due = false) (fuel : Nat) :
    (service.moveTo deployment due).passage deployment serial (some last) (fuel + 1) =
      (service.round deployment due).passage deployment serial (some last) (fuel + 1) := by
  have moves : (service.moveTo deployment due).course serial =
      (service.course serial).next deployment (.move due) :=
    calm.sound.course_happen deployment (.move due) serial
  rw [course_of_task? waited,
    (Course.next_move_idle deployment idle (calm.soonest next).1).1] at moves
  have moved : (service.moveTo deployment due).isLive serial = true :=
    isLive_iff.2 ⟨awaited, congrArg Course.task? moves⟩
  have there : (service.round deployment due).isLive serial = true :=
    isLive_iff.2
      ⟨awaited, congrArg Course.task? (calm.course_round_idle next deployment waited idle)⟩
  exact passage_endBusy there moved (calm.round deployment due) (some last)

end Round

/-- Whatever tasks there are, a wait is the same for each of them as what happens to it by itself. -/
theorem Calm.passes (calm : service.Calm held) (waited : service.task? serial = some awaited)
    (before : service.now ≤ last) (enough : service.tasks.length < fuel) :
    service.Passes deployment last awaited
      (service.passage deployment serial (some last) fuel) := by
  induction fuel generalizing service with
  | zero => exact absurd enough (Nat.not_lt_zero _)
  | succ fuel inductionHypothesis =>
    rw [calm.passage_succ waited]
    cases next : service.nextDue? with
    | none =>
      refine calm.passes_last waited before fun task member due there => ?_
      obtain ⟨least, known, -⟩ := nextDue?_le member there
      rw [next] at known
      cases known
    | some due =>
      dsimp only
      split
      · rename_i late
        refine calm.passes_last waited before fun task member time there => ?_
        exact Nat.lt_of_lt_of_le late ((calm.soonest next).2.1 task member time there)
      · rename_i early
        have soon : due ≤ last := Nat.not_lt.1 early
        obtain ⟨rounds, rfl⟩ : ∃ rounds, fuel = rounds + 1 :=
          Nat.exists_eq_add_one.2 (Nat.lt_of_lt_of_le
            (List.length_pos_of_mem (mem_of_task? waited)) (Nat.le_of_lt_succ enough))
        by_cases reached : awaited.isDueAt due = true
        · rw [calm.passage_over next waited reached]
          exact calm.passes_over next waited soon reached
        · have idle : awaited.isDueAt due = false := Bool.eq_false_iff.2 reached
          have stays := calm.course_round_idle next deployment waited idle
          have still : (service.round deployment due).task? serial = some awaited :=
            congrArg Course.task? stays
          have clock : (service.round deployment due).now = due := congrArg Course.now stays
          have fewer := calm.length_round next deployment
          have passes := inductionHypothesis (calm.round deployment due) still (by omega) (by omega)
          obtain ⟨rest, begins⟩ : ∃ rest, (service.round deployment due).passage deployment serial
              (some last) (rounds + 1) = .settle :: rest :=
            passage_live (isLive_iff.2 ⟨awaited, still⟩) (some last)
          rw [begins] at passes
          rw [calm.passage_on next waited idle, begins]
          exact calm.passes_on next waited idle soon passes

end Service

end LatencyService
