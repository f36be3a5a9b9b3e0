/-
What a step does to a task, told by the action, the clock, and the task that is
waited for if the action waits for one. Where busy loops have ended that is all
there is to it: no other task and no receiver has a part in it.
-/

import LatencyService.Proofs.Passage

namespace LatencyService

namespace Action

/-- What happens to a task in a step, when busy loops have ended, and it is not cancelled. -/
def effects (deployment : Deployment) (now : Nat) (awaited? : Option Task) (task : Task) :
    Action → List Happening
  | .trigger => [.trigger]
  | .advance milliseconds => [.move (now + milliseconds)]
  | .join _ => awaited?.elim [] (task.meanwhile deployment (now + Scene.patience))
  | _ => []

/-- The time that the clock shows behind a step. -/
def arrival (now : Nat) (awaited? : Option Task) : Action → Nat
  | .advance milliseconds => now + milliseconds
  | .join _ => awaited?.elim now (Task.arrival (now + Scene.patience))
  | _ => now

/-- The action is about the task of a name. -/
def concerns (name : String) : Action → Bool
  | .request other _ | .operation other _ _ | .delay other _ | .service other _ _ | .wait other
  | .cancel other | .join other => other == name
  | _ => false

theorem concerns_of_start? {action : Action} {named : String × Start}
    (starts : action.start? = some named) (name : String) :
    action.concerns name = (named.1 == name) := by
  cases action <;> first | (cases starts; rfl) | cases starts

end Action

namespace Scene

variable {deployment : Deployment} {scene : Scene} {action : Action} {serial : Nat} {task : Task}

/-- The task that an action waits for, when busy loops have ended. -/
def awaited? (deployment : Deployment) (scene : Scene) : Action → Option Task
  | .join name => do
    let serial ← scene.handles.lookup name
    ((scene.service.course serial).next deployment .settle).task?
  | _ => none

/-- When busy loops have ended, nothing is due and no busy loop is turning. -/
theorem Sound.calm_settled (sound : scene.Sound) (deployment : Deployment) :
    (scene.settled deployment).Calm scene.held.length ∧
      (scene.settled deployment).now = scene.service.now ∧
      ∀ serial, (scene.settled deployment).course serial =
        (scene.service.course serial).next deployment .settle :=
  ⟨sound.service.calm sound.prompt deployment, sound.service.now_happen deployment .settle,
    sound.service.course_happen deployment .settle⟩

/-- What happens while somebody waits for a task that is there when busy loops have ended. -/
theorem Sound.passes_join (sound : scene.Sound) {name : String} {awaited : Task}
    (waited : scene.awaited? deployment (.join name) = some awaited) :
    ∃ passage, scene.happenings deployment (.join name) = .settle :: passage ∧
      (scene.settled deployment).Passes deployment (scene.service.now + patience) awaited
        passage := by
  obtain ⟨serial, found, left⟩ := Option.bind_eq_some_iff.1 waited
  obtain ⟨calm, clock, course⟩ := sound.calm_settled deployment
  have there : (scene.settled deployment).task? serial = some awaited :=
    (congrArg Course.task? (course serial)).trans left
  refine ⟨(scene.settled deployment).passage deployment serial
    (some ((scene.settled deployment).now + patience))
    (3 * (scene.settled deployment).tasks.length + 3), ?_, ?_⟩
  · rw [happenings, found]
  · rw [← clock]
    exact calm.passes there (Nat.le_add_right _ _) (by omega)

/-- Nobody is waited for who has ended. -/
theorem Sound.happenings_join (sound : scene.Sound) {name : String}
    (nobody : scene.awaited? deployment (.join name) = none) :
    scene.happenings deployment (.join name) = [.settle] := by
  obtain ⟨-, -, course⟩ := sound.calm_settled deployment
  rw [happenings]
  cases found : scene.handles.lookup name with
  | none => rfl
  | some serial =>
    rw [awaited?, found] at nobody
    have ended : (scene.settled deployment).isLive serial = false :=
      Service.isLive_eq_false_iff.2 ((congrArg Course.task? (course serial)).trans nobody)
    dsimp only
    rw [Service.passage_ended ended]

/-- A step does to a task what is told by its action alone. -/
theorem Sound.follow_effects (sound : scene.Sound)
    (awaits : scene.Awaits deployment serial task)
    (spared : .cancel serial ∉ scene.quiet.happenings deployment action) :
    let effects := action.effects deployment scene.service.now
      (scene.awaited? deployment action) task
    ((⟨scene.service.now, some task⟩ : Course).follow deployment
          (scene.quiet.happenings deployment action)).task? =
        ((⟨scene.service.now, some task⟩ : Course).follow deployment effects).task? ∧
      (⟨scene.service.now, some task⟩ : Course).told deployment
          (scene.quiet.happenings deployment action) =
        (⟨scene.service.now, some task⟩ : Course).told deployment effects := by
  intro effects
  obtain ⟨mine, -, waiting, -⟩ := sound.of_awaits awaits
  have behind := Course.follow_settle_waiting waiting deployment scene.service.now
  cases action with
  | trigger =>
    have step := behind [.trigger]
    exact ⟨congrArg Course.task? step.1, step.2⟩
  | advance milliseconds =>
    obtain ⟨-, clock, -⟩ := sound.quiet.calm_settled deployment
    have step := behind [.move ((scene.quiet.settled deployment).now + milliseconds)]
    rw [clock] at step
    rw [happenings, clock]
    exact ⟨congrArg Course.task? step.1, step.2⟩
  | cancel name =>
    have step := behind []
    rw [happenings] at spared ⊢
    cases found : scene.quiet.handles.lookup name with
    | none => exact ⟨congrArg Course.task? step.1, step.2⟩
    | some other =>
      have others : other ≠ serial := fun same => spared (by simp [found, same])
      have apart : ∀ own ∈ (⟨scene.service.now, some task⟩ : Course).task?, own.serial = serial :=
        fun own there => Option.some.inj there ▸ mine
      have before := Course.next_cancel_other deployment apart others
      rw [Option.map_some, Option.toList_some, List.singleton_append, Course.follow_cons,
        Course.told, before.1, before.2]
      exact ⟨congrArg Course.task? step.1, step.2⟩
  | join name =>
    cases waited : scene.awaited? deployment (.join name) with
    | none =>
      have nobody : scene.quiet.awaited? deployment (.join name) = none := waited
      have nothing : effects = [] := by
        show (scene.awaited? deployment (.join name)).elim [] _ = []
        rw [waited]
        rfl
      have step := behind []
      rw [sound.quiet.happenings_join nobody, nothing]
      exact ⟨congrArg Course.task? step.1, step.2⟩
    | some awaited =>
      have somebody : scene.quiet.awaited? deployment (.join name) = some awaited := waited
      obtain ⟨passage, parts, passes⟩ := sound.quiet.passes_join somebody
      obtain ⟨-, clock, course⟩ := sound.quiet.calm_settled deployment
      have there : (scene.quiet.settled deployment).course serial =
          ⟨scene.service.now, some task⟩ := (course serial).trans awaits
      have leads := passes.leads serial task (congrArg Course.task? there)
      have tells := passes.tells serial task (congrArg Course.task? there)
      rw [there] at leads tells
      have same : effects = task.meanwhile deployment (scene.service.now + patience) awaited := by
        show (scene.awaited? deployment (.join name)).elim [] _ = _
        rw [waited]
        rfl
      rw [parts, same, (behind passage).1, (behind passage).2]
      exact ⟨leads, tells⟩
  | _ =>
    have step := behind []
    exact ⟨congrArg Course.task? step.1, step.2⟩

/-- Behind a step the clock shows what the action says. -/
theorem Sound.now_step_eq (sound : scene.Sound) (deployment : Deployment) (action : Action) :
    (scene.step deployment action).2.service.now =
      action.arrival scene.service.now (scene.awaited? deployment action) := by
  rw [sound.now_step]
  cases action with
  | cancel name =>
    rw [happenings]
    cases scene.quiet.handles.lookup name <;> rfl
  | advance milliseconds =>
    obtain ⟨-, clock, -⟩ := sound.quiet.calm_settled deployment
    have start : scene.quiet.service.now = scene.service.now := rfl
    show max scene.service.now ((scene.quiet.settled deployment).now + milliseconds) =
      scene.service.now + milliseconds
    omega
  | join name =>
    cases waited : scene.awaited? deployment (.join name) with
    | none =>
      have nobody : scene.quiet.awaited? deployment (.join name) = none := waited
      rw [sound.quiet.happenings_join nobody]
      rfl
    | some awaited =>
      have somebody : scene.quiet.awaited? deployment (.join name) = some awaited := waited
      obtain ⟨passage, parts, passes⟩ := sound.quiet.passes_join somebody
      obtain ⟨-, clock, -⟩ := sound.quiet.calm_settled deployment
      have arrives := passes.arrives
      rw [clock] at arrives
      rw [parts]
      exact arrives
  | _ => rfl

/-! ### Who is cancelled -/

/-- A task is cancelled by the action that names it, and by nothing else. -/
theorem cancel_mem_happenings :
    .cancel serial ∈ scene.happenings deployment action ↔
      ∃ name, action = .cancel name ∧ scene.handles.lookup name = some serial := by
  cases action with
  | cancel name =>
    have only : (∃ other, Action.cancel name = .cancel other ∧
        scene.handles.lookup other = some serial) ↔ scene.handles.lookup name = some serial := by
      refine ⟨?_, fun found => ⟨name, rfl, found⟩⟩
      rintro ⟨_, ⟨⟩, found⟩
      exact found
    rw [only, happenings]
    cases scene.handles.lookup name <;> simp [eq_comm]
  | join name =>
    refine ⟨fun member => ?_, by rintro ⟨_, ⟨⟩, _⟩⟩
    rcases List.mem_cons.1 member with settles | passes
    · cases settles
    · split at passes
      · cases passes
      · simpa using Service.mem_passage passes
  | _ => simp [happenings]

/-- What a step does to a task that is not cancelled in it: first its busy loop ends, and then comes
what the action does. -/
theorem Sound.step_spared (sound : scene.Sound)
    (other : action.start?.isSome = true → serial ≠ scene.service.begun)
    (spared : .cancel serial ∉ scene.quiet.happenings deployment action) :
    let quiet := (scene.service.course serial).next deployment .settle
    let effects := quiet.task?.elim [] fun task =>
      action.effects deployment scene.service.now (scene.awaited? deployment action) task
    (scene.step deployment action).2.service.task? serial =
        (quiet.follow deployment effects).task? ∧
      (tellings (scene.step deployment action).1).filter (·.serial == serial) =
        (scene.service.course serial).completions deployment .settle ++
          quiet.told deployment effects := by
  intro quiet effects
  have first := Course.settle_first deployment (scene.quiet.settles_happenings action)
    (scene.service.serial_course serial) spared
  have course := sound.course_step deployment action other
  have now : quiet.now = scene.service.now := rfl
  have told : (scene.service.course serial).told deployment
        (scene.quiet.happenings deployment action) =
      (scene.service.course serial).completions deployment .settle ++
        quiet.told deployment (scene.quiet.happenings deployment action) := first.2
  rw [sound.tellings_step deployment action other, told]
  have left : (scene.step deployment action).2.service.task? serial =
      (quiet.follow deployment (scene.quiet.happenings deployment action)).task? :=
    congrArg Course.task? (course.trans first.1)
  rw [left]
  cases there : quiet.task? with
  | none =>
    rw [Course.task?_follow_none there, Course.task?_follow_none there, Course.told_none there,
      Course.told_none there]
    exact ⟨rfl, rfl⟩
  | some task =>
    have awaits : scene.Awaits deployment serial task :=
      congrArg (Course.mk scene.service.now) there
    have same := sound.follow_effects awaits spared
    have parts : quiet = ⟨scene.service.now, some task⟩ := awaits
    have mine : effects =
        action.effects deployment scene.service.now (scene.awaited? deployment action) task := by
      show quiet.task?.elim [] _ = _
      rw [there]
      rfl
    rw [mine, parts, same.1]
    exact ⟨rfl, congrArg _ same.2⟩

/-- An action without effects ends busy loops and does no more. -/
theorem Sound.step_effectless (sound : scene.Sound)
    (other : action.start?.isSome = true → serial ≠ scene.service.begun)
    (spared : .cancel serial ∉ scene.quiet.happenings deployment action)
    (effectless : ∀ now awaited? task, action.effects deployment now awaited? task = []) :
    (scene.step deployment action).2.service.task? serial =
        ((scene.service.course serial).next deployment .settle).task? ∧
      (tellings (scene.step deployment action).1).filter (·.serial == serial) =
        (scene.service.course serial).completions deployment .settle := by
  have step := sound.step_spared other spared
  dsimp only at step
  have silent (task? : Option Task) : task?.elim [] (fun task => action.effects deployment
      scene.service.now (scene.awaited? deployment action) task) = [] := by
    cases task? with
    | none => rfl
    | some task => exact effectless _ _ task
  rw [silent] at step
  exact ⟨step.1, step.2.trans (List.append_nil _)⟩

/-- A task that is cancelled in a step is gone behind it, and nothing is told of it. -/
theorem Sound.step_cancelled (sound : scene.Sound)
    (cancelled : .cancel serial ∈ scene.quiet.happenings deployment action) :
    (scene.step deployment action).2.service.task? serial = none ∧
      (tellings (scene.step deployment action).1).filter (·.serial == serial) = [] := by
  obtain ⟨known, gone⟩ := sound.task?_of_cancel_step cancelled
  obtain ⟨name, rfl, found⟩ := cancel_mem_happenings.1 cancelled
  refine ⟨gone, ?_⟩
  rw [sound.tellings_step deployment _ fun _ => Nat.ne_of_lt known, happenings, found]
  have silent : (scene.service.course serial).completions deployment (.cancel serial) = [] ∧
      ((scene.service.course serial).next deployment (.cancel serial)).task? = none := by
    cases there : scene.service.task? serial with
    | none =>
      rw [Service.course, there]
      exact ⟨rfl, rfl⟩
    | some task =>
      have ends : task.fate deployment (Happening.clock scene.service.now (.cancel serial))
          (.cancel serial) = .ends none := if_pos (Service.serial_of_task? there)
      rw [Service.course_of_task? there, (Course.next_of_ends ends).1, (Course.next_of_ends ends).2]
      exact ⟨rfl, rfl⟩
  rw [Option.map_some, Option.toList_some, List.singleton_append, Course.told, silent.1,
    Course.told_none silent.2]
  rfl

/-! ### What the names of tasks stand for -/

theorem lookup_filter_ne {handles : List (String × Nat)} {name other : String}
    (apart : other ≠ name) :
    (handles.filter (·.1 != name)).lookup other = handles.lookup other := by
  induction handles with
  | nil => rfl
  | cons entry rest inductionHypothesis =>
    obtain ⟨first, serial⟩ := entry
    by_cases mine : first = name
    · have others : (other == first) = false := beq_eq_false_iff_ne.2 (mine ▸ apart)
      rw [List.filter_cons_of_neg (by simp [mine]), inductionHypothesis, List.lookup_cons, others]
    · rw [List.filter_cons_of_pos (by simp [mine]), List.lookup_cons, List.lookup_cons,
        inductionHypothesis]

theorem lookup_filter_self {handles : List (String × Nat)} {name : String} :
    (handles.filter (·.1 != name)).lookup name = none := by
  refine List.lookup_eq_none_iff.2 fun entry member => ?_
  have other : entry.1 ≠ name := bne_iff_ne.1 (List.mem_filter.1 member).2
  exact bne_iff_ne.2 other.symm

/-- Behind the step in which a task begins its name stands for it, and every other name stands for
what it stood for. -/
theorem Sound.lookup_step_start (sound : scene.Sound) {named : String × Start}
    (starts : action.start? = some named) :
    (scene.step deployment action).2.handles.lookup named.1 = some scene.service.begun ∧
      ∀ other, other ≠ named.1 →
        (scene.step deployment action).2.handles.lookup other = scene.handles.lookup other := by
  have begun : (scene.quiet.settled deployment).begun = scene.service.begun :=
    sound.quiet.begun_settled
  have handles : (scene.step deployment action).2.handles =
      (named.1, (scene.quiet.settled deployment).begun) ::
        scene.handles.filter (·.1 != named.1) := by
    cases action <;> first | (cases starts; rfl) | cases starts
  rw [handles, begun]
  refine ⟨List.lookup_cons_self, fun other apart => ?_⟩
  have others : (other == named.1) = false := beq_eq_false_iff_ne.2 apart
  rw [List.lookup_cons, others]
  exact lookup_filter_ne apart

/-- The name of a task that is cancelled stands for nobody. -/
theorem lookup_step_cancel (name : String) :
    (scene.step deployment (.cancel name)).2.handles.lookup name = none ∧
      ∀ other, other ≠ name →
        (scene.step deployment (.cancel name)).2.handles.lookup other =
          scene.handles.lookup other := by
  have parts : (scene.step deployment (.cancel name)).2.handles =
      (scene.quiet.cancel name).2.handles := rfl
  rw [parts, cancel]
  cases found : scene.handles.lookup name with
  | none =>
    have absent : scene.quiet.handles.lookup name = none := found
    rw [absent]
    exact ⟨found, fun _ _ => rfl⟩
  | some serial =>
    have there : scene.quiet.handles.lookup name = some serial := found
    have forgets (rest : Scene) (same : rest.handles = scene.handles.filter (·.1 != name)) :
        rest.handles.lookup name = none ∧ ∀ other, other ≠ name →
          rest.handles.lookup other = scene.handles.lookup other := by
      rw [same]
      exact ⟨lookup_filter_self, fun other => lookup_filter_ne⟩
    rw [there]
    dsimp only
    split
    · exact forgets _ rfl
    · exact forgets _ rfl

/-- The name of a task that is waited for stands for it as long as it has not ended. -/
theorem lookup_step_join (name : String) :
    (scene.step deployment (.join name)).2.handles.lookup name =
        (scene.handles.lookup name).filter
          ((scene.step deployment (.join name)).2.service.isLive ·) ∧
      ∀ other, other ≠ name →
        (scene.step deployment (.join name)).2.handles.lookup other =
          scene.handles.lookup other := by
  have parts : (scene.step deployment (.join name)).2 =
      ((scene.quiet.change (·.endBusy deployment)).join deployment name).2 := rfl
  rw [parts, join]
  cases found : scene.handles.lookup name with
  | none =>
    have absent : (scene.quiet.change (·.endBusy deployment)).handles.lookup name = none := found
    rw [absent]
    exact ⟨found, fun _ _ => rfl⟩
  | some serial =>
    have there : (scene.quiet.change (·.endBusy deployment)).handles.lookup name = some serial :=
      found
    rw [there]
    dsimp only
    split
    · rename_i live
      refine ⟨found.trans ?_, fun _ _ => rfl⟩
      rw [Option.filter_some, if_pos live]
    · rename_i ended
      refine ⟨Eq.trans lookup_filter_self ?_, fun other => lookup_filter_ne⟩
      rw [Option.filter_some]
      exact (if_neg ended).symm

/-- An action that is not about the task of a name leaves it what it stands for. -/
theorem Sound.lookup_step_other (sound : scene.Sound) (deployment : Deployment) {name : String}
    (free : action.concerns name = false) :
    (scene.step deployment action).2.handles.lookup name = scene.handles.lookup name := by
  cases starts : action.start? with
  | some named =>
    have apart : named.1 ≠ name :=
      beq_eq_false_iff_ne.1 ((Action.concerns_of_start? starts name).symm.trans free)
    exact (sound.lookup_step_start starts).2 name apart.symm
  | none =>
    cases action with
    | cancel other =>
      exact (lookup_step_cancel other).2 name (beq_eq_false_iff_ne.1 free).symm
    | join other =>
      exact (lookup_step_join other).2 name (beq_eq_false_iff_ne.1 free).symm
    | subscribe other | letGo other =>
      exact congrArg (List.lookup name) (handles_letGo (scene.quiet.change (·.endBusy deployment)) _)
    | receive other =>
      exact congrArg (List.lookup name)
        (handles_receive (scene.quiet.change (·.endBusy deployment)) other)
    | request | operation | delay | service | wait => cases starts
    | trigger | look | advance => rfl

/-- What is told of a task that somebody stops or waits for. -/
theorem verdict_step_cancel (name : String) :
    (scene.step deployment (.cancel name)).1.verdict =
      (scene.handles.lookup name).elim .nothing fun serial =>
        .stopped (scene.service.isLive serial) := by
  have parts : (scene.step deployment (.cancel name)).1.verdict = (scene.quiet.cancel name).1 := rfl
  have handles : scene.quiet.handles = scene.handles := rfl
  rw [parts, cancel, handles]
  cases scene.handles.lookup name with
  | none => rfl
  | some serial =>
    dsimp only
    split
    · rename_i task found
      exact congrArg Verdict.stopped (Service.isLive_iff.2 ⟨task, found⟩).symm
    · rename_i ended
      exact congrArg Verdict.stopped (Service.isLive_eq_false_iff.2 ended).symm

theorem verdict_step_join (name : String) :
    (scene.step deployment (.join name)).1.verdict =
      (scene.handles.lookup name).elim .nothing fun serial =>
        if (scene.step deployment (.join name)).2.service.isLive serial then .neverEnded
        else .joined := by
  have told : (scene.step deployment (.join name)).1.verdict =
      ((scene.quiet.change (·.endBusy deployment)).join deployment name).1 := rfl
  have parts : (scene.step deployment (.join name)).2 =
      ((scene.quiet.change (·.endBusy deployment)).join deployment name).2 := rfl
  rw [told, parts, join]
  have handles : (scene.quiet.change (·.endBusy deployment)).handles = scene.handles := rfl
  rw [handles]
  cases scene.handles.lookup name with
  | none => rfl
  | some serial =>
    dsimp only
    split
    · rename_i live
      exact (if_pos live).symm
    · rename_i ended
      exact (if_neg ended).symm

end Scene

end LatencyService
