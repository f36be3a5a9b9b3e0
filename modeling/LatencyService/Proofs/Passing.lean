/-
What a task sees of a stretch of a run in which nobody cancels it and the
shutdown does not reach it. As long as nothing is due for it the task goes on
waiting, and at the first move of the clock at which something is, it is
attended to; a busy loop that follows has ended when the stretch has. Stretches
are cut where busy loops end, and not where steps do, so that between two of
them no task is busy.
-/

import LatencyService.Proofs.Answer
import LatencyService.Proofs.Receivers
import LatencyService.Proofs.Sleep

namespace LatencyService

namespace Happening

/-- The first thing to happen that is not the cancelling of a task is that busy loops end. -/
def Settles : List Happening → Prop
  | .settle :: _ => True
  | .cancel _ :: rest => Settles rest
  | _ => False

theorem Settles.append {first : List Happening} (settles : Settles first)
    (second : List Happening) : Settles (first ++ second) := by
  induction first with
  | nil => exact settles.elim
  | cons happening rest inductionHypothesis =>
    cases happening with
    | settle => trivial
    | cancel serial => exact inductionHypothesis settles
    | _ => exact settles.elim

end Happening

namespace Task

variable {task : Task} {now : Nat}

/-- What is told of a task that is attended to, when a busy loop behind that has ended, too. -/
def conclusion (deployment : Deployment) (time : Nat) (task : Task) : List Completion :=
  match task.attendFate deployment time with
  | .works => (task.completionFate deployment.settings.operation time).completions task time
  | fate => fate.completions task time

theorem Fits.sleeps (fits : task.Fits) (asleep : task.isAsleep = true) :
    task.purpose.sleeps = true := by
  obtain ⟨serial, purpose, delaySeconds, rounds, started, stage⟩ := task
  cases stage with
  | asleep wake receiver => exact fits
  | _ => cases asleep

/-- A task that is attended to ends at that time. -/
theorem exists_conclusion (deployment : Deployment) (fits : task.Fits)
    (due : task.isDueAt now = true) :
    ∃ ending, task.conclusion deployment now = [⟨task.serial, now, ending⟩] := by
  rcases attendFate_cases deployment fits due with ⟨ending, ends⟩ | ⟨works, -⟩
  · rw [conclusion, ends]
    cases ending with
    | some ending => exact ⟨ending, rfl⟩
    | none =>
      have silent : task.fate deployment now (.move now) = .ends none := by
        rw [fate, dueFate, if_pos due, ends]
      cases cancel_of_ends_none fits silent
  · obtain ⟨ending, success⟩ := Purpose.exists_success (fits.sleeps (isAsleep_of_attendFate works))
      (Service.reportOf deployment.settings.operation (now - task.started))
    refine ⟨ending, ?_⟩
    rw [conclusion, works, completionFate, success]
    rfl

/-- A task that has slept and is not late ends with its result, be it behind a busy loop or without
one. -/
theorem conclusion_of_timely {deployment : Deployment} {wake : Nat} {receiver : Receiver}
    {ending : Ending} (asleep : task.stage = .asleep wake receiver)
    (timely : task.isLateAt now = false)
    (success : task.purpose.success? (Service.reportOf deployment.settings.operation
      (now - task.started)) = some ending) :
    task.conclusion deployment now = [⟨task.serial, now, ending⟩] := by
  have complete : (task.completionFate deployment.settings.operation now).completions task now =
      [⟨task.serial, now, ending⟩] := by
    rw [completionFate, success]
    rfl
  have woken : task.wakeFate deployment now =
        task.completionFate deployment.settings.operation now ∨
      task.wakeFate deployment now = .works := by
    unfold wakeFate
    rw [asleep]
    cases purpose : task.purpose with
    | delay => exact .inl rfl
    | _ =>
      dsimp only
      split
      · exact .inl rfl
      · exact .inr rfl
  rw [conclusion, attendFate_of_timely deployment timely]
  rcases woken with same | works
  · rw [same]
    exact complete
  · rw [works]
    exact complete

end Task

namespace Course

variable {deployment : Deployment} {now : Nat} {task : Task} {happenings : List Happening}

/-! ### Busy loops end first -/

section Settling

variable (deployment)

/-- No busy loop is turning. -/
def Idle (course : Course) : Prop := ∀ task ∈ course.task?, task.stage ≠ .busy

theorem idle_settle (course : Course) : (course.next deployment .settle).Idle := by
  intro task left
  obtain ⟨old, known, rest⟩ := Option.bind_eq_some_iff.1 left
  simp only [Task.fate, Task.settleFate] at rest
  split at rest
  · rename_i busy
    rw [Task.wakeFate, busy] at rest
    cases rest
  · rename_i other
    exact Option.some.inj rest ▸ other

/-- The end of busy loops is nothing when none is turning. -/
theorem Idle.settle {course : Course} (idle : course.Idle) :
    course.next deployment .settle = course ∧ course.completions deployment .settle = [] := by
  obtain ⟨now, task?⟩ := course
  cases task? with
  | none => exact ⟨rfl, rfl⟩
  | some task => exact next_settle_waiting (idle task rfl) _ now

theorem next_cancel_other {course : Course} {serial other : Nat}
    (mine : ∀ task ∈ course.task?, task.serial = serial) (spared : other ≠ serial) :
    course.next deployment (.cancel other) = course ∧
      course.completions deployment (.cancel other) = [] := by
  obtain ⟨now, task?⟩ := course
  cases task? with
  | none => exact ⟨rfl, rfl⟩
  | some task =>
    exact next_of_waits (if_neg fun same => spared (same.symm.trans (mine task rfl)))

/-- Whoever is not cancelled before may have its busy loop end beforehand. -/
theorem settle_first {course : Course} {serial : Nat} (settles : Happening.Settles happenings)
    (mine : ∀ task ∈ course.task?, task.serial = serial)
    (spared : .cancel serial ∉ happenings) :
    let quiet := course.next deployment .settle
    course.follow deployment happenings = quiet.follow deployment happenings ∧
      course.told deployment happenings =
        course.completions deployment .settle ++ quiet.told deployment happenings := by
  intro quiet
  induction happenings with
  | nil => exact settles.elim
  | cons happening rest inductionHypothesis =>
    cases happening with
    | settle =>
      have again := (idle_settle deployment course).settle deployment
      rw [follow_cons, follow_cons, told, told, again.1, again.2]
      exact ⟨rfl, rfl⟩
    | cancel other =>
      have others : other ≠ serial := fun same => spared (same ▸ List.mem_cons_self)
      have before := next_cancel_other deployment mine others
      have still : ∀ task ∈ quiet.task?, task.serial = serial := serial_next mine .settle
      have behind := next_cancel_other deployment still others
      rw [follow_cons, follow_cons, told, told, before.1, before.2, behind.1, behind.2]
      exact inductionHypothesis settles fun member => spared (List.mem_cons_of_mem _ member)
    | _ => exact settles.elim

end Settling

/-! ### A stretch of a run -/

/-- A task is attended to when the clock has come to what is due for it. -/
theorem told_due (deployment : Deployment) {moment : Nat} {late : List Happening} (fits : task.Fits)
    (due : task.isDueAt moment = true) (before : now ≤ moment)
    (spared : .cancel task.serial ∉ late) (paced : Happening.Paced false late) :
    (⟨now, some task⟩ : Course).told deployment (.move moment :: (late ++ [.settle])) =
      task.conclusion deployment moment := by
  have clock : Happening.clock now (.move moment) = moment := Nat.max_eq_right before
  have attended : task.fate deployment (Happening.clock now (.move moment)) (.move moment) =
      task.attendFate deployment moment := by
    rw [clock]
    exact if_pos due
  rw [told, Task.conclusion]
  rcases Task.attendFate_cases deployment fits due with ⟨ending, ends⟩ | ⟨works, -⟩
  · rw [ends] at attended ⊢
    rw [(next_of_ends attended).1, (next_of_ends attended).2, told_ended, List.append_nil, clock]
  · rw [works] at attended ⊢
    have settled : Happening.settle ∈ late ++ [.settle] :=
      List.mem_append_right _ List.mem_cons_self
    have still : .cancel task.serial ∉ late ++ [.settle] := by
      simpa using spared
    have busy := told_busy deployment moment
      (rfl : ({ task with stage := .busy } : Task).stage = .busy)
      (Happening.Paced.append paced (by trivial : Happening.Paced false [.settle])) still
    rw [(next_of_works attended).1, (next_of_works attended).2, clock, List.nil_append, busy.1,
      if_pos settled]
    rfl

end Course

/-! ### Steps -/

/-- When a task is attended to in a step behind which the clock shows a time: whoever waits for
another task stops at every moment at which something is due. -/
def Action.moment (action : Action) (now : Nat) (task : Task) : Nat :=
  match action with
  | .join _ => task.due?.getD now
  | _ => now

theorem Service.serial_course (service : Service) (serial : Nat) :
    ∀ task ∈ (service.course serial).task?, task.serial = serial :=
  fun _ found => Service.serial_of_task? found

namespace Scene

variable {deployment : Deployment} {scene : Scene} {action : Action} {serial : Nat} {task : Task}

theorem settles_happenings (action : Action) :
    Happening.Settles (scene.happenings deployment action) := by
  cases action with
  | cancel name =>
    rw [happenings]
    cases scene.handles.lookup name <;> trivial
  | _ => trivial

/-- What happens from the end of busy loops in one step to that in the next. -/
def stretch (deployment : Deployment) (scene : Scene) (action : Action) : List Happening :=
  scene.quiet.happenings deployment action ++ [.settle]

/-- When the busy loops have ended, the task of a number is this one. -/
def Awaits (deployment : Deployment) (scene : Scene) (serial : Nat) (task : Task) : Prop :=
  (scene.service.course serial).next deployment .settle = ⟨scene.service.now, some task⟩

/-- What is true of a task that is there when busy loops have ended. -/
theorem Sound.of_awaits (sound : scene.Sound) (awaits : scene.Awaits deployment serial task) :
    task.serial = serial ∧ task.Fits ∧ task.stage ≠ .busy ∧
      task.isDueAt scene.service.now = false := by
  have settled := sound.service.happen deployment .settle
  have prompt := sound.prompt.happen sound.service deployment .settle
  have course := sound.service.course_happen deployment .settle serial
  rw [awaits] at course
  have found : (scene.service.happen deployment .settle).task? serial = some task :=
    congrArg Course.task? course
  have now : (scene.service.happen deployment .settle).now = scene.service.now :=
    congrArg Course.now course
  have member := Service.mem_of_task? found
  refine ⟨Service.serial_of_task? found, settled.fitting task member, ?_, now ▸ prompt task member⟩
  have idle := Course.idle_settle deployment (scene.service.course serial)
  rw [awaits] at idle
  exact idle task rfl

theorem Sound.now_step (sound : scene.Sound) (deployment : Deployment) (action : Action) :
    (scene.step deployment action).2.service.now =
      Happening.clockAfter scene.service.now (scene.quiet.happenings deployment action) := by
  -- The clock is the same in the course of any number, be there a task or not.
  have course := sound.course_step deployment action fun _ => Nat.succ_ne_self scene.service.begun
  exact (congrArg Course.now course).trans (Course.now_follow _ _)

section Stretch

variable (sound : scene.Sound) (known : serial < scene.service.begun)
  (awaits : scene.Awaits deployment serial task)
  (spared : .cancel serial ∉ scene.quiet.happenings deployment action)
include sound known awaits spared

end Stretch

end Scene

end LatencyService
