/-
Whatever happens to the service happens to one task after the other: the clock
moves and all that is due is attended to, busy loops end, the shutdown reaches
whoever waits for it. Each of these is a sweep, in which tasks meet their fates
in some order. This file shows that the order does not matter to any one task.
A task is left by a sweep as it is left by its own fate, and the broadcast goes
on counting exactly the receivers that are held.
-/

import LatencyService.Proofs.Fate
import Mathlib.Data.List.Nodup

namespace LatencyService

namespace Fate

/-- What a task is behind its fate, if it has not ended. -/
def rest (task : Task) : Fate → Option Task
  | waits => some task
  | works => some { task with stage := .busy }
  | ends _ => none

/-- What is told of a task that ends. -/
def completions (task : Task) (now : Nat) : Fate → List Completion
  | ends (some ending) => [⟨task.serial, now, ending⟩]
  | _ => []

/-- At most one thing is told of a task that meets its fate. -/
theorem reverse_completions (task : Task) (now : Nat) (fate : Fate) :
    (fate.completions task now).reverse = fate.completions task now := by
  rcases fate with _ | _ | _ | ending <;> rfl

/-- What is told of a task that meets its fate is how it ends. -/
theorem ends_of_completions {task : Task} {now : Nat} {fate : Fate} {completion : Completion}
    (member : completion ∈ fate.completions task now) :
    ∃ ending, fate = .ends (some ending) ∧ completion = ⟨task.serial, now, ending⟩ := by
  rcases fate with _ | _ | _ | ending
  · exact absurd member List.not_mem_nil
  · exact absurd member List.not_mem_nil
  · exact absurd member List.not_mem_nil
  · exact ⟨ending, rfl, List.mem_singleton.1 member⟩

/-- A task of which something is told has ended. -/
theorem rest_of_completions {task : Task} {now : Nat} {fate : Fate} {completion : Completion}
    (member : completion ∈ fate.completions task now) : fate.rest task = none := by
  obtain ⟨ending, rfl, -⟩ := ends_of_completions member
  rfl

theorem purpose_of_rest {task after : Task} {fate : Fate} (left : fate.rest task = some after) :
    after.purpose = task.purpose := by
  cases fate with
  | waits => exact Option.some.inj left ▸ rfl
  | works => exact Option.some.inj left ▸ rfl
  | ends ending => cases left

theorem serial_of_rest {task after : Task} {fate : Fate} (left : fate.rest task = some after) :
    after.serial = task.serial := by
  cases fate with
  | waits => exact Option.some.inj left ▸ rfl
  | works => exact Option.some.inj left ▸ rfl
  | ends ending => cases left

end Fate

namespace Service

/-! ### The service as one task sees it -/

/-- The task of a number, unless it has ended. -/
def task? (service : Service) (serial : Nat) : Option Task :=
  service.tasks.find? (·.serial == serial)

/-- What has ended under a number, latest first. -/
def endingsOf (service : Service) (serial : Nat) : List Completion :=
  service.ended.filter (·.serial == serial)

/-- No two tasks have the same number. -/
def Distinct (service : Service) : Prop := (service.tasks.map Task.serial).Nodup

variable {service : Service} {task : Task} {serial : Nat}

theorem serial_of_task? (found : service.task? serial = some task) : task.serial = serial := by
  simpa using List.find?_some found

theorem mem_of_task? (found : service.task? serial = some task) : task ∈ service.tasks :=
  List.mem_of_find?_eq_some found

theorem isLive_iff : service.isLive serial = true ↔ ∃ task, service.task? serial = some task := by
  rw [isLive, List.any_eq_true, ← Option.isSome_iff_exists, task?, List.find?_isSome]

theorem isLive_eq_false_iff : service.isLive serial = false ↔ service.task? serial = none := by
  rw [← Bool.not_eq_true, isLive_iff, ← Option.isSome_iff_exists, Option.not_isSome_iff_eq_none]

/-- The tasks are those in front of a given one, that one, and those behind it. -/
theorem Distinct.split (distinct : service.Distinct) (member : task ∈ service.tasks) :
    ∃ before after, service.tasks = before ++ task :: after ∧
      ∀ other ∈ before ++ after, other.serial ≠ task.serial := by
  obtain ⟨before, after, parts⟩ := List.append_of_mem member
  refine ⟨before, after, parts, fun other among same => ?_⟩
  rw [Distinct, parts, List.map_append, List.map_cons, List.nodup_middle, List.nodup_cons,
    ← List.map_append] at distinct
  exact distinct.1 (same ▸ List.mem_map_of_mem among)

theorem Distinct.task?_of_mem (distinct : service.Distinct) (member : task ∈ service.tasks) :
    service.task? task.serial = some task := by
  obtain ⟨before, after, parts, others⟩ := distinct.split member
  have none_before : before.find? (·.serial == task.serial) = none :=
    List.find?_eq_none.2 fun other among => by
      simpa using others other (List.mem_append_left _ among)
  rw [task?, parts, List.find?_append, none_before, Option.none_or, List.find?_cons_of_pos]
  exact beq_self_eq_true _

/-! ### One task meets its fate -/

variable (service task) (fate : Fate)

@[simp] theorem now_meet : (service.meet task fate).now = service.now := by
  rcases fate with _ | _ | _ | _ <;> rfl

@[simp] theorem begun_meet : (service.meet task fate).begun = service.begun := by
  rcases fate with _ | _ | _ | _ <;> rfl

@[simp] theorem backend_meet : (service.meet task fate).backend = service.backend := by
  rcases fate with _ | _ | _ | _ <;> rfl

@[simp] theorem isTriggered_meet :
    (service.meet task fate).shutdown.isTriggered = service.shutdown.isTriggered := by
  rcases fate with _ | _ | _ | _ <;>
    simp only [meet, conclude, finish, remove, replace] <;> split <;> rfl

@[simp] theorem sent_meet :
    (service.meet task fate).shutdown.signals.sent = service.shutdown.signals.sent := by
  rcases fate with _ | _ | _ | _ <;>
    simp only [meet, conclude, finish, remove, replace] <;> split <;> rfl

theorem endingsOf_meet_self :
    (service.meet task fate).endingsOf task.serial =
      fate.completions task service.now ++ service.endingsOf task.serial := by
  rcases fate with _ | _ | _ | ending
  · rfl
  · rfl
  · rfl
  · exact List.filter_cons_of_pos (beq_self_eq_true _)

variable {service task fate}

theorem endingsOf_meet_other (other : task.serial ≠ serial) :
    (service.meet task fate).endingsOf serial = service.endingsOf serial := by
  rcases fate with _ | _ | _ | ending
  · rfl
  · rfl
  · rfl
  · exact List.filter_cons_of_neg (by simpa using other)

theorem task?_meet_self (found : service.task? task.serial = some task) :
    (service.meet task fate).task? task.serial = fate.rest task := by
  have removed : (service.tasks.filter (·.serial != task.serial)).find?
      (·.serial == task.serial) = none := by
    refine List.find?_eq_none.2 fun other member => ?_
    simpa using (List.mem_filter.1 member).2
  rcases fate with _ | _ | _ | _
  · exact found
  · have kept : (fun other : Task => other.serial == task.serial) ∘
        (fun other => if other.serial == task.serial then { task with stage := Stage.busy }
          else other) = fun other => other.serial == task.serial := by
      funext other
      by_cases same : other.serial = task.serial <;> simp [same]
    rw [task?] at found
    simp only [meet, replace, task?, List.find?_map, kept, found, Option.map_some,
      beq_self_eq_true, if_true]
    rfl
  · exact removed
  · exact removed

theorem task?_meet_other (other : task.serial ≠ serial) :
    (service.meet task fate).task? serial = service.task? serial := by
  have removed : (service.tasks.filter (·.serial != task.serial)).find? (·.serial == serial) =
      service.tasks.find? (·.serial == serial) := by
    rw [List.find?_filter]
    refine congrArg (List.find? · service.tasks) (funext fun candidate => ?_)
    by_cases same : candidate.serial = serial
    · simp [same, Ne.symm other]
    · simp [same]
  rcases fate with _ | _ | _ | _
  · rfl
  · simp only [meet, replace, task?, List.find?_map]
    have kept : (fun candidate : Task => candidate.serial == serial) ∘
        (fun candidate => if candidate.serial == task.serial then
          { task with stage := Stage.busy } else candidate) =
        fun candidate => candidate.serial == serial := by
      funext candidate
      by_cases same : candidate.serial = task.serial <;> simp [same]
    rw [kept]
    cases found : service.tasks.find? (·.serial == serial) with
    | none => rfl
    | some candidate =>
      have mine : candidate.serial = serial := by simpa using List.find?_some found
      simp [mine, Ne.symm other]
  · exact removed
  · exact removed

/-! ### Counting receivers -/

/-- The broadcast counts the receivers that tasks hold and so many others. -/
def Counted (service : Service) (held : Nat) : Prop :=
  service.shutdown.receiverCount = held + service.tasks.countP Task.holds

variable {held : Nat}

theorem Distinct.tasks_meet (distinct : service.Distinct) (member : task ∈ service.tasks)
    (fate : Fate) :
    ∃ before after, service.tasks = before ++ task :: after ∧
      (service.meet task fate).tasks = before ++ ((fate.rest task).toList ++ after) := by
  obtain ⟨before, after, parts, others⟩ := distinct.split member
  refine ⟨before, after, parts, ?_⟩
  have removed : service.tasks.filter (·.serial != task.serial) = before ++ after := by
    rw [parts, List.filter_append, List.filter_cons_of_neg (by simp), ← List.filter_append]
    exact List.filter_eq_self.2 fun other among => by simpa using others other among
  rcases fate with _ | _ | _ | _
  · exact parts
  · have kept (other : Task) (among : other ∈ before ++ after) :
        (if other.serial == task.serial then { task with stage := Stage.busy } else other) =
          other := if_neg (by simpa using others other among)
    simp only [meet, replace, parts, List.map_append, List.map_cons, beq_self_eq_true, if_true]
    rw [List.map_congr_left fun other among => kept other (List.mem_append_left _ among),
      List.map_congr_left fun other among => kept other (List.mem_append_right _ among),
      List.map_id', List.map_id']
    rfl
  · exact removed
  · exact removed

theorem Distinct.meet (distinct : service.Distinct) (member : task ∈ service.tasks)
    (fate : Fate) : (service.meet task fate).Distinct := by
  obtain ⟨before, after, parts, left⟩ := distinct.tasks_meet member fate
  rw [Distinct, parts] at distinct
  rw [Distinct, left]
  cases rest : fate.rest task with
  | none =>
    refine distinct.sublist (List.Sublist.map _ ?_)
    exact List.Sublist.append_left (List.sublist_cons_self _ _) _
  | some next =>
    have same := Fate.serial_of_rest rest
    simpa only [List.map_append, Option.toList_some, List.map_cons, List.map_nil,
      List.singleton_append, same] using distinct

/-- A receiver is let go of when its task does not need it any more. -/
theorem receiverCount_meet (service : Service) (task : Task) (fate : Fate) :
    (service.meet task fate).shutdown.receiverCount =
      service.shutdown.receiverCount -
        (task.holds && !(fate.rest task).any Task.holds).toNat := by
  have released :
      (if task.holds then service.shutdown.release else service.shutdown).receiverCount =
        service.shutdown.receiverCount - task.holds.toNat := by
    cases task.holds <;> rfl
  rcases fate with _ | _ | _ | _
  · cases holds : task.holds <;> simp [Service.meet, Fate.rest, holds]
  · have idle : ({ task with stage := .busy } : Task).holds = false := rfl
    rw [Fate.rest, Option.any_some, idle, Bool.not_false, Bool.and_true]
    exact released
  · rw [Fate.rest, Option.any_none, Bool.not_false, Bool.and_true]
    exact released
  · rw [Fate.rest, Option.any_none, Bool.not_false, Bool.and_true]
    exact released

theorem Fate.holds_of_rest {task after : Task} {fate : Fate} (left : fate.rest task = some after)
    (holds : after.holds = true) : task.holds = true := by
  cases fate with
  | waits => exact Option.some.inj left ▸ holds
  | works =>
    rw [← Option.some.inj left] at holds
    cases holds
  | ends ending => cases left

theorem Counted.meet (counted : service.Counted held) (distinct : service.Distinct)
    (member : task ∈ service.tasks) (fate : Fate) : (service.meet task fate).Counted held := by
  obtain ⟨before, after, parts, left⟩ := distinct.tasks_meet member fate
  rw [Counted, parts, List.countP_append, List.countP_cons] at counted
  rw [Counted, left, List.countP_append, List.countP_append, receiverCount_meet, counted]
  cases rest : fate.rest task with
  | none =>
    cases task.holds
    · simp
    · simp
      omega
  | some next =>
    have implies := Fate.holds_of_rest rest
    cases now : next.holds
    · cases task.holds
      · simp [now]
      · simp [now]
        omega
    · simp [now, implies now]
      omega

/-! ### Tasks meet their fates one after the other -/

/-- Tasks meet their fates in the given order. -/
def sweep (fate : Task → Fate) (service : Service) (tasks : List Task) : Service :=
  tasks.foldl (fun service task => service.meet task (fate task)) service

variable {fate : Task → Fate}

theorem sweep_cons (fate : Task → Fate) (service : Service) (task : Task) (rest : List Task) :
    service.sweep fate (task :: rest) = (service.meet task (fate task)).sweep fate rest := rfl

theorem sweep_append (fate : Task → Fate) (service : Service) (first second : List Task) :
    service.sweep fate (first ++ second) = (service.sweep fate first).sweep fate second :=
  List.foldl_append

/-- What no meeting changes, no sweep changes. -/
theorem sweep_induction {motive : Service → Prop} {tasks : List Task} (initial : motive service)
    (each : ∀ service : Service, ∀ task ∈ tasks, motive service →
      motive (service.meet task (fate task))) : motive (service.sweep fate tasks) := by
  induction tasks generalizing service with
  | nil => exact initial
  | cons task rest inductionHypothesis =>
    exact inductionHypothesis (each service task List.mem_cons_self initial)
      fun service other member => each service other (List.mem_cons_of_mem _ member)

@[simp] theorem now_sweep (tasks : List Task) : (service.sweep fate tasks).now = service.now :=
  sweep_induction (motive := fun swept => swept.now = service.now) rfl
    fun _ _ _ same => (now_meet _ _ _).trans same

@[simp] theorem begun_sweep (tasks : List Task) :
    (service.sweep fate tasks).begun = service.begun :=
  sweep_induction (motive := fun swept => swept.begun = service.begun) rfl
    fun _ _ _ same => (begun_meet _ _ _).trans same

@[simp] theorem backend_sweep (tasks : List Task) :
    (service.sweep fate tasks).backend = service.backend :=
  sweep_induction (motive := fun swept => swept.backend = service.backend) rfl
    fun _ _ _ same => (backend_meet _ _ _).trans same

@[simp] theorem isTriggered_sweep (tasks : List Task) :
    (service.sweep fate tasks).shutdown.isTriggered = service.shutdown.isTriggered :=
  sweep_induction (motive := fun swept =>
    swept.shutdown.isTriggered = service.shutdown.isTriggered) rfl
    fun _ _ _ same => (isTriggered_meet _ _ _).trans same

@[simp] theorem sent_sweep (tasks : List Task) :
    (service.sweep fate tasks).shutdown.signals.sent = service.shutdown.signals.sent :=
  sweep_induction (motive := fun swept =>
    swept.shutdown.signals.sent = service.shutdown.signals.sent) rfl
    fun _ _ _ same => (sent_meet _ _ _).trans same

/-- Tasks that are swept once each, and without which nothing happens to any task. -/
structure Sweeps (service : Service) (fate : Task → Fate) (tasks : List Task) : Prop where
  present : ∀ task ∈ tasks, task ∈ service.tasks
  once : (tasks.map Task.serial).Nodup
  idle : ∀ task ∈ service.tasks, task ∉ tasks → fate task = .waits

/-- A task of which nothing is swept is left as it is. -/
theorem view_sweep_other (service : Service) (fate : Task → Fate) {tasks : List Task}
    (absent : ∀ task ∈ tasks, task.serial ≠ serial) :
    (service.sweep fate tasks).task? serial = service.task? serial ∧
      (service.sweep fate tasks).endingsOf serial = service.endingsOf serial := by
  refine sweep_induction (motive := fun swept => swept.task? serial = service.task? serial ∧
    swept.endingsOf serial = service.endingsOf serial) ⟨rfl, rfl⟩ fun swept task member same => ?_
  exact ⟨(task?_meet_other (absent task member)).trans same.1,
    (endingsOf_meet_other (absent task member)).trans same.2⟩

/-- A task that is swept is left to its fate. -/
theorem view_sweep_self {tasks : List Task} (found : service.task? task.serial = some task)
    (member : task ∈ tasks) (once : (tasks.map Task.serial).Nodup) :
    (service.sweep fate tasks).task? task.serial = (fate task).rest task ∧
      (service.sweep fate tasks).endingsOf task.serial =
        (fate task).completions task service.now ++ service.endingsOf task.serial := by
  obtain ⟨before, after, rfl⟩ := List.append_of_mem member
  rw [List.map_append, List.map_cons, List.nodup_middle, List.nodup_cons, ← List.map_append] at once
  have others (other : Task) (among : other ∈ before ++ after) : other.serial ≠ task.serial :=
    fun same => once.1 (same ▸ List.mem_map_of_mem among)
  have first := view_sweep_other service fate
    fun other among => others other (List.mem_append_left _ among)
  have last := view_sweep_other ((service.sweep fate before).meet task (fate task)) fate
    fun other among => others other (List.mem_append_right _ among)
  rw [sweep_append, sweep_cons, last.1, last.2, task?_meet_self (first.1.trans found),
    endingsOf_meet_self, first.2, now_sweep]
  exact ⟨rfl, rfl⟩

/-- A sweep leaves every task to its fate. -/
theorem Sweeps.view {tasks : List Task} (sweeps : service.Sweeps fate tasks)
    (distinct : service.Distinct) (serial : Nat) :
    (service.sweep fate tasks).task? serial =
        ((service.task? serial).bind fun task => (fate task).rest task) ∧
      (service.sweep fate tasks).endingsOf serial =
        ((service.task? serial).elim [] fun task => (fate task).completions task service.now) ++
          service.endingsOf serial := by
  by_cases swept : ∃ task ∈ tasks, task.serial = serial
  · obtain ⟨task, member, rfl⟩ := swept
    have found := distinct.task?_of_mem (sweeps.present task member)
    rw [found]
    exact view_sweep_self found member sweeps.once
  · have absent (task : Task) (member : task ∈ tasks) : task.serial ≠ serial :=
      fun same => swept ⟨task, member, same⟩
    have untouched := view_sweep_other service fate absent
    cases found : service.task? serial with
    | none => rwa [found] at untouched
    | some task =>
      have waits : fate task = .waits :=
        sweeps.idle task (mem_of_task? found) fun member =>
          absent task member (serial_of_task? found)
      rw [found] at untouched
      rwa [Option.bind_some, Option.elim_some, waits]

/-- A sweep keeps the numbers apart and the count of the receivers right. -/
theorem Counted.sweep (counted : service.Counted held) (distinct : service.Distinct)
    {tasks : List Task} (present : ∀ task ∈ tasks, task ∈ service.tasks)
    (once : (tasks.map Task.serial).Nodup) :
    (service.sweep fate tasks).Distinct ∧ (service.sweep fate tasks).Counted held := by
  induction tasks generalizing service with
  | nil => exact ⟨distinct, counted⟩
  | cons task rest inductionHypothesis =>
    have member := present task List.mem_cons_self
    refine inductionHypothesis (counted.meet distinct member _) (distinct.meet member _) ?_
      (List.nodup_cons.1 once).2
    intro other among
    have apart : task.serial ≠ other.serial := fun same =>
      (List.nodup_cons.1 once).1 (same ▸ List.mem_map_of_mem among)
    have found := distinct.task?_of_mem (present other (List.mem_cons_of_mem _ among))
    exact mem_of_task? ((task?_meet_other apart).trans found)

end Service

end LatencyService
