/-
Who holds a receiver of the shutdown. In every run, after every step, the
broadcast counts the receivers that are held by name, one for every task that
sleeps, and one for every task that waits for the shutdown. A task that has
ended or was cancelled holds none, and once the shutdown has been triggered no
task holds one any more.
-/

import LatencyService.Proofs.Steps

namespace LatencyService

namespace Task

/-- A task that holds a receiver sleeps or waits for the shutdown. -/
theorem holds_eq (task : Task) : task.holds = (task.isAsleep || task.isListening) := by
  rw [holds, isAsleep, isListening]
  cases task.stage <;> rfl

theorem isListening_of_isAsleep {task : Task} (asleep : task.isAsleep = true) :
    task.isListening = false := by
  rw [isAsleep] at asleep
  rw [isListening]
  cases waiting : task.stage with
  | listening receiver =>
    rw [waiting] at asleep
    cases asleep
  | _ => rfl

/-- Nobody sleeps and waits for the shutdown at once. -/
theorem countP_holds (tasks : List Task) :
    tasks.countP holds = tasks.countP isAsleep + tasks.countP isListening := by
  induction tasks with
  | nil => rfl
  | cons task rest inductionHypothesis =>
    rw [List.countP_cons, List.countP_cons, List.countP_cons, inductionHypothesis, holds_eq]
    cases asleep : task.isAsleep with
    | false =>
      simp only [Bool.false_or, Bool.false_eq_true, if_false]
      omega
    | true =>
      rw [isListening_of_isAsleep asleep]
      simp only [Bool.or_false, Bool.false_eq_true, if_false, if_true]
      omega

end Task

namespace Service

variable {deployment : Deployment}

/-- While time passes, busy loops end and the clock moves, and nothing else happens. -/
theorem mem_passage {serial : Nat} {last : Option Nat} {fuel : Nat} {service : Service}
    {happening : Happening} (member : happening ∈ service.passage deployment serial last fuel) :
    happening = .settle ∨ ∃ later, happening = .move later := by
  induction fuel generalizing service with
  | zero => cases member
  | succ fuel inductionHypothesis =>
    have stop (among : happening ∈ .settle :: (last.map Happening.move).toList) :
        happening = .settle ∨ ∃ later, happening = .move later := by
      rcases List.mem_cons.1 among with same | moved
      · exact .inl same
      · cases last with
        | none => cases moved
        | some later => exact .inr ⟨later, List.mem_singleton.1 moved⟩
    unfold passage at member
    dsimp only at member
    split at member
    · cases member
    · split at member
      · exact .inl (List.mem_singleton.1 member)
      · split at member
        · exact stop member
        · split at member
          · exact stop member
          · rcases List.mem_cons.1 member with same | later
            · exact .inl same
            · rcases List.mem_cons.1 later with same | rest
              · exact .inr ⟨_, same⟩
              · exact inductionHypothesis rest

end Service

namespace Scene

variable {deployment : Deployment} {scene : Scene}

/-- The shutdown is triggered by the action that says so, and by nothing else. -/
theorem trigger_mem_happenings {action : Action} :
    .trigger ∈ scene.happenings deployment action ↔ action = .trigger := by
  cases action with
  | cancel name =>
    simp only [happenings, reduceCtorEq, iff_false]
    cases scene.handles.lookup name <;> simp
  | join name =>
    simp only [happenings, reduceCtorEq, iff_false]
    cases scene.handles.lookup name with
    | none => simp
    | some serial =>
      simp only [List.mem_cons, reduceCtorEq, false_or]
      exact fun member => by simpa using Service.mem_passage member
  | _ => simp [happenings]

theorem Sound.isTriggered_step (sound : scene.Sound) (action : Action) :
    (scene.step deployment action).2.service.shutdown.isTriggered = true ↔
      scene.service.shutdown.isTriggered = true ∨ action = .trigger := by
  have before : (scene.undergone deployment action).shutdown.isTriggered = true ↔
      scene.service.shutdown.isTriggered = true ∨ action = .trigger := by
    rw [Scene.undergone, sound.quiet.service.isTriggered_undergo, Bool.or_eq_true,
      List.contains_iff_mem, trigger_mem_happenings]
    rfl
  rw [← before]
  rcases service_step deployment scene action with ⟨named, -, same⟩ | ⟨-, shutdown, flag, same⟩
  · obtain ⟨undergone, calm⟩ := sound.undergone deployment action
    rw [same, (undergone.begin calm deployment named.2).isTriggered]
  · rw [same, ← flag]

/-- The shutdown has been triggered if and only if somebody has done so; it stays triggered. -/
theorem Sound.isTriggered_after (sound : scene.Sound) (actions : List Action) :
    (scene.after deployment actions).service.shutdown.isTriggered = true ↔
      scene.service.shutdown.isTriggered = true ∨ .trigger ∈ actions := by
  induction actions generalizing scene with
  | nil => simp [after_nil]
  | cons action rest inductionHypothesis =>
    rw [after_cons, inductionHypothesis (sound.step deployment action), sound.isTriggered_step,
      or_assoc, List.mem_cons, @eq_comm _ action]

theorem held_after (actions : List Action) :
    (scene.after deployment actions).held = actions.foldl Action.heldAfter scene.held := by
  induction actions generalizing scene with
  | nil => rfl
  | cons action rest inductionHypothesis =>
    rw [after_cons, inductionHypothesis, List.foldl_cons]
    exact congrArg (rest.foldl Action.heldAfter) (held_perform deployment scene.quiet action)

/-! ### Tasks that are gone -/

/-- A task that has ended after some actions does not come back. -/
theorem Sound.task?_after_none (sound : scene.Sound) {serial : Nat}
    (known : serial < scene.service.begun) (ended : scene.service.task? serial = none)
    (actions : List Action) : (scene.after deployment actions).service.task? serial = none := by
  have course := sound.course_after deployment actions known
  refine (congrArg Course.task? course).trans (Course.task?_follow_none ?_ _)
  exact ended

/-- A task of which its end was told in a step is gone behind it. -/
theorem Sound.task?_of_tellings (sound : scene.Sound) {action : Action} {completion : Completion}
    (member : completion ∈ tellings (scene.step deployment action).1) :
    completion.serial < (scene.step deployment action).2.service.begun ∧
      (scene.step deployment action).2.service.task? completion.serial = none := by
  have mine : completion ∈ (tellings (scene.step deployment action).1).filter
      (·.serial == completion.serial) := List.mem_filter.2 ⟨member, beq_self_eq_true _⟩
  have begun := sound.begun_step deployment action
  by_cases new : action.start?.isSome = true ∧ completion.serial = scene.service.begun
  · obtain ⟨named, starts⟩ := Option.isSome_iff_exists.1 new.1
    have born := sound.step_begins deployment starts
    rw [new.2, born.2] at mine
    rw [new.2]
    refine ⟨?_, ?_⟩
    · rw [begun, new.1]
      exact Nat.lt_succ_self _
    · exact (congrArg Course.task? born.1).trans (Birth.rest_of_completions mine)
  · have other (starts : action.start?.isSome = true) : completion.serial ≠ scene.service.begun :=
      fun same => new ⟨starts, same⟩
    rw [sound.tellings_step deployment action other] at mine
    have course := sound.course_step deployment action other
    refine ⟨?_, (congrArg Course.task? course).trans (Course.task?_of_told mine)⟩
    refine Nat.lt_of_not_le fun unborn => ?_
    have absent : scene.service.task? completion.serial = none :=
      sound.service.task?_unborn (by omega)
    rw [Service.course, absent, Course.told_ended] at mine
    cases mine

/-- Of whatever is told in a run, nothing is left behind it. -/
theorem Sound.task?_of_record (sound : scene.Sound) {actions : List Action}
    {completion : Completion}
    (member : completion ∈ (scene.play deployment actions).1.flatMap tellings) :
    (scene.after deployment actions).service.task? completion.serial = none := by
  induction actions generalizing scene with
  | nil => exact nomatch member
  | cons action rest inductionHypothesis =>
    have later := sound.step deployment action
    rw [after_cons]
    rcases List.mem_append.1 (List.flatMap_cons ▸ member) with first | second
    · obtain ⟨known, ended⟩ := sound.task?_of_tellings first
      exact later.task?_after_none known ended rest
    · exact inductionHypothesis later second

/-- A task that is cancelled in a step is gone behind it. -/
theorem Sound.task?_of_cancel_step (sound : scene.Sound) {action : Action} {serial : Nat}
    (member : .cancel serial ∈ scene.quiet.happenings deployment action) :
    serial < scene.service.begun ∧
      (scene.step deployment action).2.service.task? serial = none := by
  have cancelled : ∃ name, action = .cancel name ∧ scene.handles.lookup name = some serial := by
    cases action with
    | cancel name =>
      refine ⟨name, rfl, ?_⟩
      rcases List.mem_append.1 member with found | settles
      · obtain ⟨known, there, same⟩ := Option.map_eq_some_iff.1 (Option.mem_toList.1 found)
        rw [← Happening.cancel.inj same]
        exact there
      · exact nomatch List.mem_singleton.1 settles
    | join name =>
      rcases List.mem_cons.1 member with settles | passes
      · exact nomatch settles
      · split at passes
        · exact nomatch passes
        · rcases Service.mem_passage passes with settles | ⟨later, moves⟩
          · exact nomatch settles
          · exact nomatch moves
    | _ => simp [happenings] at member
  obtain ⟨name, rfl, found⟩ := cancelled
  have known : serial < scene.service.begun := by
    obtain ⟨front, back, parts, -⟩ := List.lookup_eq_some_iff.1 found
    exact sound.handled (name, serial) (parts ▸ List.mem_append_right _ List.mem_cons_self)
  refine ⟨known, ?_⟩
  have course := sound.course_step deployment (.cancel name) fun _ => Nat.ne_of_lt known
  refine (congrArg Course.task? course).trans (Course.task?_of_cancel (fun task there => ?_) member)
  exact Service.serial_of_task? there

/-- Whatever was cancelled in a run is gone behind it. -/
theorem Sound.task?_of_cancel (sound : scene.Sound) {actions : List Action} {serial : Nat}
    (member : .cancel serial ∈ scene.history deployment actions) :
    (scene.after deployment actions).service.task? serial = none := by
  induction actions generalizing scene with
  | nil => exact nomatch member
  | cons action rest inductionHypothesis =>
    have later := sound.step deployment action
    rw [after_cons]
    rcases List.mem_append.1 member with first | second
    · obtain ⟨known, ended⟩ := sound.task?_of_cancel_step first
      exact later.task?_after_none (sound.lt_begun_step deployment action known) ended rest
    · exact inductionHypothesis later second

/-! ### The receivers are accounted for -/

/-- The names under which receivers are held when actions have been carried out. -/
def heldBy (actions : List Action) : List String := actions.foldl Action.heldAfter []

/-- After every step of every run, the receivers are those held by name, one for every task that
sleeps, and one for every task that waits for the shutdown; no task is among these of which the end
was told, be it an answer given up, and none that was cancelled. The shutdown is triggered from the
first trigger on, and from then on no task sleeps or waits for it. -/
theorem receivers_accounted (deployment : Deployment) (backend : Backend) (before : List Action)
    (action : Action) :
    let first := start deployment backend
    let run := before ++ [action]
    let observation := ((first.after deployment before).step deployment action).1
    let service := (first.after deployment run).service
    observation.receiverCount = (heldBy run).length + service.tasks.countP Task.isAsleep +
        service.tasks.countP Task.isListening ∧
      (∀ completion ∈ (first.play deployment run).1.flatMap tellings,
        service.isLive completion.serial = false) ∧
      (∀ serial, .cancel serial ∈ first.history deployment run → service.isLive serial = false) ∧
      (observation.isTriggered = true ↔ .trigger ∈ run) ∧
      (.trigger ∈ run →
        (∀ task ∈ service.tasks, task.isAsleep = false ∧ task.isListening = false) ∧
          observation.receiverCount = (heldBy run).length) := by
  intro first run observation service
  have initial := sound_start deployment backend
  have sound := initial.after deployment run
  have last : ((first.after deployment before).step deployment action).2 =
      first.after deployment run := (after_append before [action]).symm
  have count : observation.receiverCount = service.shutdown.receiverCount :=
    congrArg (fun scene => scene.service.shutdown.receiverCount) last
  have flag : observation.isTriggered = service.shutdown.isTriggered :=
    congrArg (fun scene => scene.service.shutdown.isTriggered) last
  have held : (first.after deployment run).held = heldBy run := held_after run
  have counted : service.shutdown.receiverCount =
      (heldBy run).length + service.tasks.countP Task.holds := by
    rw [← held]
    exact sound.service.counted
  have triggered : service.shutdown.isTriggered = true ↔ .trigger ∈ run :=
    (initial.isTriggered_after run).trans (or_iff_right Bool.false_ne_true)
  refine ⟨?_, fun completion told => ?_, fun serial cancelled => ?_, ?_, fun shut => ⟨?_, ?_⟩⟩
  · rw [count, counted, Task.countP_holds, Nat.add_assoc]
  · exact Service.isLive_eq_false_iff.2 (initial.task?_of_record told)
  · exact Service.isLive_eq_false_iff.2 (initial.task?_of_cancel cancelled)
  · rw [flag, triggered]
  · intro task member
    have released := sound.service.drained (triggered.2 shut) task member
    rwa [Task.holds_eq, Bool.or_eq_false_iff] at released
  · have released : service.tasks.countP Task.holds = 0 := by
      refine List.countP_eq_zero.2 fun task member => ?_
      rw [sound.service.drained (triggered.2 shut) task member]
      exact Bool.false_ne_true
    rw [count, counted, released, Nat.add_zero]

end Scene

end LatencyService
