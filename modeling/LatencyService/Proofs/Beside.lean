/-
A run beside the same run without the steps of one task. The task takes a
number, so that all that begin behind it have the next number in the full run;
and its steps end busy loops, so that the full run may be ahead of the sparse
one by the end of busy loops until the next step that both runs take. Apart
from that the tasks of the two runs are alike behind every step.
-/

import LatencyService.Proofs.Alike
import LatencyService.Proofs.Mail

namespace LatencyService

/-- The number in the full run of the task that has a number in the sparse one. -/
def beyond (own serial : Nat) : Nat := if serial < own then serial else serial + 1

theorem beyond_ne (own serial : Nat) : beyond own serial ≠ own := by
  unfold beyond
  split <;> omega

theorem beyond_injective {own first second : Nat} (same : beyond own first = beyond own second) :
    first = second := by
  unfold beyond at same
  split at same <;> split at same <;> omega

theorem exists_beyond {own number : Nat} (another : number ≠ own) :
    ∃ serial, beyond own serial = number := by
  by_cases before : number < own
  · exact ⟨number, if_pos before⟩
  · exact ⟨number - 1, by rw [beyond, if_neg (by omega)]; omega⟩

theorem Service.isLive_eq (service : Service) (serial : Nat) :
    service.isLive serial = (service.task? serial).isSome := by
  rw [Bool.eq_iff_iff, isLive_iff, Option.isSome_iff_exists]

/-- A task that is busy has ended when busy loops have. -/
theorem Course.task?_settle_busy (deployment : Deployment) (now : Nat) {task : Task}
    (busy : task.stage = .busy) :
    ((⟨now, some task⟩ : Course).next deployment .settle).task? = none := by
  have completes : task.fate deployment now .settle =
      task.completionFate deployment.settings.operation now := by
    rw [Task.fate, Task.settleFate, if_pos busy, Task.wakeFate, busy]
  exact congrArg (Fate.rest task) completes

/-- The course of a task in a run that is ahead of another one by the end of busy loops. -/
def Course.ahead (deployment : Deployment) (isAhead : Bool) (course : Course) : Course :=
  if isAhead then course.next deployment .settle else course

/-- What such a run has told already. -/
def Course.toldAhead (deployment : Deployment) (isAhead : Bool) (course : Course) :
    List Completion :=
  if isAhead then course.completions deployment .settle else []

namespace Scene

/-- A scene of a run with a task of a number beside the scene of the run without it. -/
structure Beside (deployment : Deployment) (name : String) (own : Nat) (isAhead : Bool)
    (full sparse : Scene) : Prop where
  /-- The task has not begun yet, or it has taken its number. -/
  begun : full.service.begun = sparse.service.begun ∧ full.service.begun ≤ own ∨
    full.service.begun = sparse.service.begun + 1 ∧ own < full.service.begun
  /-- Every other name stands for the same task. -/
  handles : ∀ other, other ≠ name →
    full.handles.lookup other = (sparse.handles.lookup other).map (beyond own)
  mine : ∀ serial ∈ full.handles.lookup name, serial = own
  alike : ∀ serial, (full.service.course (beyond own serial)).anonymous =
    ((sparse.service.course serial).ahead deployment isAhead).anonymous

end Scene

namespace Course

variable {deployment : Deployment} {isAhead : Bool} {full sparse : Course}

theorem isSome_alike {first second : Course} (alike : first.anonymous = second.anonymous) :
    first.task?.isSome = second.task?.isSome := by
  have tasks := congrArg (fun course => course.task?.isSome) alike
  simpa only [anonymous, Option.isSome_map] using tasks

/-- When busy loops have ended no run is ahead of the other. -/
theorem settle_ahead (alike : full.anonymous = (sparse.ahead deployment isAhead).anonymous) :
    (full.next deployment .settle).anonymous = (sparse.next deployment .settle).anonymous ∧
      (sparse.completions deployment .settle).map Completion.anonymous =
        (sparse.toldAhead deployment isAhead ++
          full.completions deployment .settle).map Completion.anonymous := by
  have both := next_alike deployment alike
    (nofun : ∀ serial, Happening.settle ≠ .cancel serial)
  cases isAhead with
  | false => exact ⟨both.1, both.2.symm⟩
  | true =>
    have again := (idle_settle deployment sparse).settle deployment
    rw [ahead, if_pos rfl, again.1, again.2] at both
    have nothing : full.completions deployment .settle = [] := List.map_eq_nil_iff.1 both.2
    rw [toldAhead, if_pos rfl, nothing, List.append_nil]
    exact ⟨both.1, rfl⟩

end Course

namespace Scene

variable {deployment : Deployment} {name : String} {own serial : Nat} {isAhead : Bool}
  {full sparse : Scene} {action : Action}

theorem Beside.settled (beside : Beside deployment name own isAhead full sparse) (serial : Nat) :
    ((full.service.course (beyond own serial)).next deployment .settle).anonymous =
      ((sparse.service.course serial).next deployment .settle).anonymous :=
  (Course.settle_ahead (beside.alike serial)).1

theorem Beside.now (beside : Beside deployment name own isAhead full sparse) :
    full.service.now = sparse.service.now := congrArg Course.now (beside.settled 0)

theorem Beside.isLive (beside : Beside deployment name own isAhead full sparse) (serial : Nat) :
    full.service.isLive (beyond own serial) =
      ((sparse.service.course serial).ahead deployment isAhead).task?.isSome := by
  rw [Service.isLive_eq]
  exact Course.isSome_alike (beside.alike serial)

/-- The same task is waited for in both runs. -/
theorem Beside.awaited? (beside : Beside deployment name own isAhead full sparse)
    (remains : action.concerns name = false) :
    (full.awaited? deployment action).map Task.anonymous =
      (sparse.awaited? deployment action).map Task.anonymous := by
  cases action with
  | join other =>
    have apart : other ≠ name := beq_eq_false_iff_ne.1 remains
    rw [Scene.awaited?, Scene.awaited?, beside.handles other apart]
    cases sparse.handles.lookup other with
    | none => simp only [Option.map_none, Option.bind_eq_bind, Option.bind_none]
    | some serial =>
      simp only [Option.map_some, Option.bind_eq_bind, Option.bind_some]
      exact congrArg Course.task? (beside.settled serial)
  | _ => rfl

/-- The same task is cancelled in both runs. -/
theorem Beside.cancel_mem_iff (beside : Beside deployment name own isAhead full sparse)
    (remains : action.concerns name = false) (serial : Nat) :
    .cancel (beyond own serial) ∈ full.quiet.happenings deployment action ↔
      .cancel serial ∈ sparse.quiet.happenings deployment action := by
  rw [cancel_mem_happenings, cancel_mem_happenings]
  refine exists_congr fun other => and_congr_right fun same => ?_
  have apart : other ≠ name := by
    rw [same] at remains
    exact beq_eq_false_iff_ne.1 remains
  show full.handles.lookup other = _ ↔ sparse.handles.lookup other = _
  rw [beside.handles other apart, Option.map_eq_some_iff]
  refine ⟨fun ⟨number, found, there⟩ => beyond_injective there ▸ found, fun found => ?_⟩
  exact ⟨serial, found, rfl⟩

/-! ### A step that both runs take -/

/-- A cancelled task is overtaken when the full run is ahead of the sparse one by the end of its busy
loop: there it has ended already. -/
def Overtaken (sparse : Scene) (isAhead : Bool) (action : Action) (serial : Nat) : Prop :=
  isAhead = true ∧ ∃ name task, action = .cancel name ∧ sparse.handles.lookup name = some serial ∧
    sparse.service.task? serial = some task ∧ task.stage = .busy

section Step

variable (beside : Beside deployment name own isAhead full sparse) (soundFull : full.Sound)
  (soundSparse : sparse.Sound) (remains : action.concerns name = false)
include beside soundFull soundSparse remains

theorem Beside.now_step :
    (full.step deployment action).2.service.now = (sparse.step deployment action).2.service.now := by
  rw [soundFull.now_step_eq, soundSparse.now_step_eq, beside.now,
    Action.arrival_alike action (beside.awaited? remains)]

/-- A step does the same to a task in both runs. -/
theorem Beside.view_step
    (otherFull : action.start?.isSome = true → beyond own serial ≠ full.service.begun)
    (other : action.start?.isSome = true → serial ≠ sparse.service.begun) :
    ((full.step deployment action).2.service.task? (beyond own serial)).map Task.anonymous =
        ((sparse.step deployment action).2.service.task? serial).map Task.anonymous ∧
      (¬sparse.Overtaken isAhead action serial →
        ((tellings (sparse.step deployment action).1).filter
            (·.serial == serial)).map Completion.anonymous =
          ((sparse.service.course serial).toldAhead deployment isAhead ++
            (tellings (full.step deployment action).1).filter
              (·.serial == beyond own serial)).map Completion.anonymous) := by
  by_cases cancelled : .cancel serial ∈ sparse.quiet.happenings deployment action
  · obtain ⟨stopped, cancels, known⟩ := cancel_mem_happenings.1 cancelled
    have gone := soundSparse.step_cancelled cancelled
    have goneFull := soundFull.step_cancelled ((beside.cancel_mem_iff remains serial).2 cancelled)
    rw [gone.1, gone.2, goneFull.1, goneFull.2]
    refine ⟨rfl, fun timely => ?_⟩
    have nothing : (sparse.service.course serial).toldAhead deployment isAhead = [] := by
      cases isAhead with
      | false => rfl
      | true =>
        have idle : (sparse.service.course serial).Idle := fun task found busy =>
          timely ⟨rfl, stopped, task, cancels, known, found, busy⟩
        exact (idle.settle deployment).2
    rw [nothing, List.nil_append]
  · have step := soundSparse.step_spared other cancelled
    have stepFull := soundFull.step_spared otherFull
      fun member => cancelled ((beside.cancel_mem_iff remains serial).1 member)
    have settled := beside.settled serial
    have tells := (Course.settle_ahead (beside.alike serial)).2
    have tasks : ((full.service.course (beyond own serial)).next deployment .settle).task?.map
          Task.anonymous =
        ((sparse.service.course serial).next deployment .settle).task?.map Task.anonymous :=
      congrArg Course.task? settled
    have effects : ((full.service.course (beyond own serial)).next deployment .settle).task?.elim []
          (action.effects deployment full.service.now (full.awaited? deployment action) ·) =
        ((sparse.service.course serial).next deployment .settle).task?.elim []
          (action.effects deployment sparse.service.now (sparse.awaited? deployment action) ·) := by
      rw [beside.now]
      exact action.elim_effects_alike tasks (beside.awaited? remains)
    have free : ∀ number, .cancel number ∉
        ((sparse.service.course serial).next deployment .settle).task?.elim []
          (action.effects deployment sparse.service.now
            (sparse.awaited? deployment action) ·) := by
      cases ((sparse.service.course serial).next deployment .settle).task? with
      | none => exact fun _ => List.not_mem_nil
      | some task => exact action.free_effects _ task
    rw [step.1, step.2, stepFull.1, stepFull.2, effects]
    generalize Option.elim _ _ _ = happenings at free ⊢
    have follows := Course.follow_alike deployment settled free
    refine ⟨congrArg Course.task? follows.1, fun _ => ?_⟩
    rw [List.map_append, tells, ← follows.2, ← List.map_append, List.append_assoc]

omit soundFull soundSparse remains in
/-- The task that begins in a step has the numbers in the two runs that belong together. -/
theorem Beside.beyond_begun (room : full.service.begun ≠ own) :
    beyond own sparse.service.begun = full.service.begun := by
  unfold beyond
  rcases beside.begun with ⟨same, before⟩ | ⟨next, after⟩
  · rw [if_pos (by omega), same]
  · rw [if_neg (by omega), next]

omit remains in
/-- Tasks that begin in the same step are alike. -/
theorem Beside.view_start (peers : full.service.Peers sparse.service) {named : String × Start}
    (starts : action.start? = some named) (room : full.service.begun ≠ own) :
    let new := sparse.service.begun
    ((full.step deployment action).2.service.task? (beyond own new)).map Task.anonymous =
        ((sparse.step deployment action).2.service.task? new).map Task.anonymous ∧
      ((tellings (sparse.step deployment action).1).filter
          (·.serial == new)).map Completion.anonymous =
        ((sparse.service.course new).toldAhead deployment isAhead ++
          (tellings (full.step deployment action).1).filter
            (·.serial == beyond own new)).map Completion.anonymous := by
  intro new
  have unborn : sparse.service.task? new = none := soundSparse.service.task?_unborn (Nat.le_refl _)
  have nothing : (sparse.service.course new).toldAhead deployment isAhead = [] := by
    rw [Service.course, unborn]
    cases isAhead <;> rfl
  have begins := soundSparse.step_begins deployment starts
  have beginsFull := soundFull.step_begins deployment starts
  have task := congrArg Course.task? begins.1
  have taskFull := congrArg Course.task? beginsFull.1
  have born := Birth.alike deployment (peers.birth deployment named.2) full.service.begun
    sparse.service.begun full.service.now
  rw [nothing, List.nil_append, beside.beyond_begun room, begins.2, beginsFull.2, ← beside.now]
  refine ⟨?_, born.2.symm⟩
  exact (congrArg (Option.map Task.anonymous) taskFull).trans (born.1.trans
    (congrArg (Option.map Task.anonymous) (beside.now ▸ task)).symm)

section Taken

variable (peers : full.service.Peers sparse.service)
  (room : action.start?.isSome = true → full.service.begun ≠ own)
include peers room

/-- A step does the same to every task in both runs, and what the full run has told ahead it does not
tell again. -/
theorem Beside.view (serial : Nat) :
    ((full.step deployment action).2.service.course (beyond own serial)).anonymous =
        ((sparse.step deployment action).2.service.course serial).anonymous ∧
      (¬sparse.Overtaken isAhead action serial →
        ((tellings (sparse.step deployment action).1).filter
            (·.serial == serial)).map Completion.anonymous =
          ((sparse.service.course serial).toldAhead deployment isAhead ++
            (tellings (full.step deployment action).1).filter
              (·.serial == beyond own serial)).map Completion.anonymous) := by
  have now := beside.now_step soundFull soundSparse remains
  rw [Course.anonymous, Course.anonymous, Course.mk.injEq]
  by_cases new : action.start?.isSome = true ∧ serial = sparse.service.begun
  · obtain ⟨named, starts⟩ := Option.isSome_iff_exists.1 new.1
    have born := beside.view_start soundFull soundSparse peers starts (room new.1)
    rw [new.2]
    exact ⟨⟨now, born.1⟩, fun _ => born.2⟩
  · have other (starts : action.start?.isSome = true) : serial ≠ sparse.service.begun :=
      fun same => new ⟨starts, same⟩
    have otherFull (starts : action.start?.isSome = true) :
        beyond own serial ≠ full.service.begun := by
      rw [← beside.beyond_begun (room starts)]
      exact fun same => other starts (beyond_injective same)
    have kept := beside.view_step soundFull soundSparse remains otherFull other
    exact ⟨⟨now, kept.1⟩, kept.2⟩

theorem Beside.isLive_step (serial : Nat) :
    (full.step deployment action).2.service.isLive (beyond own serial) =
      (sparse.step deployment action).2.service.isLive serial := by
  rw [Service.isLive_eq, Service.isLive_eq]
  exact Course.isSome_alike (beside.view soundFull soundSparse remains peers room serial).1

theorem Beside.handles_step (other : String) (apart : other ≠ name) :
    (full.step deployment action).2.handles.lookup other =
      ((sparse.step deployment action).2.handles.lookup other).map (beyond own) := by
  have before := beside.handles other apart
  cases free : action.concerns other with
  | false =>
    rw [soundFull.lookup_step_other deployment free, soundSparse.lookup_step_other deployment free,
      before]
  | true =>
    cases starts : action.start? with
    | some named =>
      have mine : named.1 = other :=
        beq_iff_eq.1 ((Action.concerns_of_start? starts other).symm.trans free)
      rw [← mine, (soundSparse.lookup_step_start starts).1, (soundFull.lookup_step_start starts).1,
        Option.map_some, beside.beyond_begun (room (starts ▸ rfl))]
    | none =>
      cases action with
      | cancel stopped =>
        rw [← beq_iff_eq.1 free, (lookup_step_cancel stopped).1, (lookup_step_cancel stopped).1,
          Option.map_none]
      | join waited =>
        have live := beside.isLive_step soundFull soundSparse remains peers room
        rw [← beq_iff_eq.1 free] at before ⊢
        rw [(lookup_step_join waited).1, (lookup_step_join waited).1, before]
        cases sparse.handles.lookup waited with
        | none => rw [Option.map_none, Option.filter_none, Option.filter_none, Option.map_none]
        | some serial =>
          rw [Option.map_some, Option.filter_some, Option.filter_some, live serial]
          split
          · rw [Option.map_some]
          · rw [Option.map_none]
      | request | operation | delay | service | wait => cases starts
      | _ => cases free

/-- Behind a step that both runs take neither of them is ahead. -/
theorem Beside.step :
    Beside deployment name own false (full.step deployment action).2
      (sparse.step deployment action).2 where
  begun := by
    have before := beside.begun
    rw [soundFull.begun_step, soundSparse.begun_step]
    cases starts : action.start?.isSome with
    | false => exact before
    | true =>
      have apart := room starts
      simp only [Bool.toNat_true]
      omega
  handles := beside.handles_step soundFull soundSparse remains peers room
  mine := by
    rw [soundFull.lookup_step_other deployment remains]
    exact beside.mine
  alike serial := (beside.view soundFull soundSparse remains peers room serial).1

/-- What a step tells by itself is the same in both runs, unless it cancels a task that was
overtaken. -/
theorem Beside.verdict_step (reads : full.Reads) (readsSparse : sparse.Reads)
    (mail : full.mail = sparse.mail) :
    (full.step deployment action).1.verdict = (sparse.step deployment action).1.verdict ∨
      (∃ serial, sparse.Overtaken isAhead action serial) ∧
        (full.step deployment action).1.verdict = .stopped false ∧
          (sparse.step deployment action).1.verdict = .stopped true := by
  by_cases other : ∀ name, action ≠ .cancel name ∧ action ≠ .join name
  · left
    rw [soundFull.verdict_step reads other, soundSparse.verdict_step readsSparse other, mail]
  · cases action with
    | cancel stopped =>
      have apart : stopped ≠ name := beq_eq_false_iff_ne.1 remains
      rw [verdict_step_cancel, verdict_step_cancel, beside.handles stopped apart]
      cases found : sparse.handles.lookup stopped with
      | none => exact .inl (by rw [Option.map_none, Option.elim_none, Option.elim_none])
      | some serial =>
        rw [Option.map_some, Option.elim_some, Option.elim_some, beside.isLive]
        by_cases overtaken : sparse.Overtaken isAhead (.cancel stopped) serial
        · have again := overtaken
          obtain ⟨rfl, -, task, -, -, there, busy⟩ := overtaken
          have live : sparse.service.isLive serial = true := Service.isLive_iff.2 ⟨task, there⟩
          have ended : ((sparse.service.course serial).ahead deployment true).task? = none := by
            rw [Course.ahead, if_pos rfl, Service.course_of_task? there]
            exact Course.task?_settle_busy deployment sparse.service.now busy
          rw [ended, live]
          exact .inr ⟨⟨serial, again⟩, rfl, rfl⟩
        · left
          have timely : (sparse.service.course serial).ahead deployment isAhead =
              sparse.service.course serial := by
            cases isAhead with
            | false => rfl
            | true =>
              have idle : (sparse.service.course serial).Idle := fun task there busy =>
                overtaken ⟨rfl, stopped, task, rfl, found, there, busy⟩
              exact (idle.settle deployment).1
          rw [timely, Service.isLive_eq]
          rfl
    | join waited =>
      have apart : waited ≠ name := beq_eq_false_iff_ne.1 remains
      have live := beside.isLive_step soundFull soundSparse remains peers room
      left
      rw [verdict_step_join, verdict_step_join, beside.handles waited apart]
      cases sparse.handles.lookup waited with
      | none => rw [Option.map_none, Option.elim_none, Option.elim_none]
      | some serial => rw [Option.map_some, Option.elim_some, Option.elim_some, live]
    | _ => exact absurd (fun _ => ⟨nofun, nofun⟩) other

end Taken

end Step

/-! ### A step of the one task -/

section Own

variable (beside : Beside deployment name own isAhead full sparse) (soundFull : full.Sound)
  (steps : action = .cancel name ∨ action.start?.isSome = true ∧ full.service.begun = own ∧
    action.concerns name = true)
include beside soundFull steps

/-- When the one task begins or is cancelled, no more happens to another one than that its busy loop
ends. -/
theorem Beside.view_own (serial : Nat) :
    (full.step deployment action).2.service.course (beyond own serial) =
        (full.service.course (beyond own serial)).next deployment .settle ∧
      (tellings (full.step deployment action).1).filter (·.serial == beyond own serial) =
        (full.service.course (beyond own serial)).completions deployment .settle := by
  have other (starts : action.start?.isSome = true) : beyond own serial ≠ full.service.begun := by
    rcases steps with rfl | ⟨-, begins, -⟩
    · cases starts
    · rw [begins]
      exact beyond_ne own serial
  have spared : .cancel (beyond own serial) ∉ full.quiet.happenings deployment action := by
    rw [cancel_mem_happenings]
    rintro ⟨stopped, same, found⟩
    rcases steps with cancels | ⟨starts, -, -⟩
    · have mine : stopped = name := Action.cancel.inj (same.symm.trans cancels)
      rw [mine] at found
      exact beyond_ne own serial (beside.mine _ found)
    · rw [same] at starts
      cases starts
  have effectless (now : Nat) (awaited? : Option Task) (task : Task) :
      action.effects deployment now awaited? task = [] := by
    rcases steps with rfl | ⟨starts, -, -⟩
    · rfl
    · cases action <;> first | rfl | cases starts
  have step := soundFull.step_effectless other spared effectless
  have now : (full.step deployment action).2.service.now = full.service.now := by
    rw [soundFull.now_step_eq]
    rcases steps with rfl | ⟨starts, -, -⟩
    · rfl
    · cases action <;> first | rfl | cases starts
  refine ⟨?_, step.2⟩
  rw [Service.course, now, step.1]
  rfl

/-- Behind a step of the one task the full run is ahead by the end of busy loops. -/
theorem Beside.step_own :
    Beside deployment name own true (full.step deployment action).2 sparse where
  begun := by
    have before := beside.begun
    rw [soundFull.begun_step]
    rcases steps with rfl | ⟨starts, begins, -⟩
    · exact before
    · rw [starts]
      simp only [Bool.toNat_true]
      omega
  handles other apart := by
    have free : action.concerns other = false := by
      rcases steps with rfl | ⟨starts, -, concerned⟩
      · exact beq_eq_false_iff_ne.2 apart.symm
      · obtain ⟨named, starts⟩ := Option.isSome_iff_exists.1 starts
        rw [Action.concerns_of_start? starts] at concerned ⊢
        exact beq_eq_false_iff_ne.2 fun same => apart (same.symm.trans (beq_iff_eq.1 concerned))
    rw [soundFull.lookup_step_other deployment free]
    exact beside.handles other apart
  mine := by
    rcases steps with rfl | ⟨starts, begins, concerned⟩
    · rw [(lookup_step_cancel name).1]
      exact nofun
    · obtain ⟨named, starts⟩ := Option.isSome_iff_exists.1 starts
      rw [Action.concerns_of_start? starts] at concerned
      rw [← beq_iff_eq.1 concerned, (soundFull.lookup_step_start starts).1, begins]
      exact fun serial same => (Option.some.inj same).symm
  alike serial := by
    rw [(beside.view_own soundFull steps serial).1]
    exact (Course.settle_ahead (beside.alike serial)).1

/-- What the full run tells of another task in such a step is what it is ahead by behind it. -/
theorem Beside.tells_own (serial : Nat) :
    ((sparse.service.course serial).completions deployment .settle).map Completion.anonymous =
      ((sparse.service.course serial).toldAhead deployment isAhead ++
        (tellings (full.step deployment action).1).filter
          (·.serial == beyond own serial)).map Completion.anonymous := by
  rw [(beside.view_own soundFull steps serial).2]
  exact (Course.settle_ahead (beside.alike serial)).2

end Own

end Scene

/-! ### Counting tasks by their numbers -/

namespace Service

variable {service : Service} {held : Nat}

/-- The tasks are those of the numbers that have been given out. -/
theorem Sound.countP_eq (sound : service.Sound held) (among : Task → Bool) :
    service.tasks.countP among =
      (List.range service.begun).countP fun serial => (service.task? serial).any among := by
  have once : (service.tasks.map Task.serial).Nodup := sound.distinct
  have known : ((List.range service.begun).filter fun serial => (service.task? serial).isSome).Perm
      (service.tasks.map Task.serial) := by
    refine (List.perm_ext_iff_of_nodup (List.nodup_range.filter _) once).2 fun serial => ?_
    rw [List.mem_filter, List.mem_range, List.mem_map, Option.isSome_iff_exists]
    refine ⟨fun ⟨_, task, found⟩ => ⟨task, mem_of_task? found, serial_of_task? found⟩, ?_⟩
    rintro ⟨task, member, rfl⟩
    exact ⟨sound.numbered task member, task, sound.distinct.task?_of_mem member⟩
  have counted : service.tasks.countP among =
      (service.tasks.map Task.serial).countP fun serial => (service.task? serial).any among := by
    rw [List.countP_map]
    refine List.countP_congr fun task member => ?_
    rw [Function.comp_apply, sound.distinct.task?_of_mem member, Option.any_some]
  rw [counted, ← known.countP_eq, List.countP_filter]
  refine List.countP_congr fun serial _ => ?_
  cases service.task? serial <;> simp

end Service

/-- Of the numbers in a full run one is that of the task that the sparse run is without, and the
others come from the sparse run. -/
theorem countP_range_beyond {own count : Nat} (given : own ≤ count) (among : Nat → Bool) :
    (List.range (count + 1)).countP among =
      (List.range count).countP (fun serial => among (beyond own serial)) +
        (among own).toNat := by
  have once : (own :: (List.range count).map (beyond own)).Nodup := by
    refine List.nodup_cons.2 ⟨fun member => ?_, ?_⟩
    · obtain ⟨serial, -, same⟩ := List.mem_map.1 member
      exact beyond_ne own serial same
    · exact List.nodup_range.map fun _ _ => beyond_injective
  have all : (own :: (List.range count).map (beyond own)).Perm (List.range (count + 1)) := by
    refine (List.perm_ext_iff_of_nodup once List.nodup_range).2 fun number => ?_
    rw [List.mem_cons, List.mem_map, List.mem_range]
    refine ⟨?_, fun below => ?_⟩
    · rintro (rfl | ⟨serial, member, rfl⟩)
      · omega
      · have below := List.mem_range.1 member
        unfold beyond
        split <;> omega
    · rcases Nat.lt_trichotomy number own with before | same | after
      · exact .inr ⟨number, List.mem_range.2 (by omega), if_pos before⟩
      · exact .inl same
      · obtain ⟨serial, there⟩ := exists_beyond (Nat.ne_of_gt after)
        unfold beyond at there
        refine .inr ⟨serial, List.mem_range.2 ?_, there⟩
        split at there <;> omega
  rw [← all.countP_eq, List.countP_cons, List.countP_map]
  cases among own <;> rfl

namespace Scene

variable {deployment : Deployment} {name : String} {own : Nat} {full sparse : Scene}

/-- When neither run is ahead, as many tasks hold receivers in both, but for the one task. -/
theorem Beside.countP_holds (beside : Beside deployment name own false full sparse)
    (soundFull : full.Sound) (soundSparse : sparse.Sound) :
    full.service.tasks.countP Task.holds =
      sparse.service.tasks.countP Task.holds +
        ((full.service.task? own).any Task.holds).toNat := by
  have each (serial : Nat) : (full.service.task? (beyond own serial)).any Task.holds =
      (sparse.service.task? serial).any Task.holds := by
    have tasks := congrArg (fun course => course.task?.any Task.holds) (beside.alike serial)
    have anonymous (task? : Option Task) : (task?.map Task.anonymous).any Task.holds =
        task?.any Task.holds := by
      cases task? with
      | none => rfl
      | some task => exact task.anonymous_holds
    simp only [Course.anonymous, anonymous] at tasks
    exact tasks
  rw [soundFull.service.countP_eq, soundSparse.service.countP_eq]
  rcases beside.begun with ⟨same, before⟩ | ⟨next, after⟩
  · have unborn : full.service.task? own = none := soundFull.service.task?_unborn before
    rw [unborn, same]
    refine List.countP_congr fun serial member => ?_
    have below : serial < own := Nat.lt_of_lt_of_le (List.mem_range.1 member) (same ▸ before)
    have kept := each serial
    rw [beyond, if_pos below] at kept
    rw [kept]
  · have given : own ≤ sparse.service.begun := by omega
    rw [next, countP_range_beyond given]
    simp only [each]

/-- The broadcast counts as many receivers in both runs, but for that of the one task. -/
theorem Beside.receiverCount (beside : Beside deployment name own false full sparse)
    (soundFull : full.Sound) (soundSparse : sparse.Sound) (held : full.held = sparse.held) :
    full.service.shutdown.receiverCount =
      sparse.service.shutdown.receiverCount +
        ((full.service.task? own).any Task.holds).toNat := by
  have counted : full.service.shutdown.receiverCount = _ := soundFull.service.counted
  have countedSparse : sparse.service.shutdown.receiverCount = _ := soundSparse.service.counted
  rw [counted, countedSparse, held, beside.countP_holds soundFull soundSparse, Nat.add_assoc]

end Scene

end LatencyService
