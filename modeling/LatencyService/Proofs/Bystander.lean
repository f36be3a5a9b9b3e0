/-
What the tasks of a run notice of one among them for which nobody waits, and
whose name is used to start it and to cancel it at most. Its steps end the busy
loops that are turning, as every step does, and that is all: leave them out and
the run tells the same, at the latest with the next step that is left. Only when that
step cancels a task whose busy loop would have ended before, the task is
stopped that had ended otherwise.
-/

import LatencyService.Proofs.Beside
import Mathlib.Data.List.Induction

namespace LatencyService

/-- Actions without those that are about the task of a name. -/
def without (name : String) (actions : List Action) : List Action :=
  actions.filter (!·.concerns name)

/-- The last of some actions is about the task of a name. -/
def isAhead (name : String) (actions : List Action) : Bool :=
  actions.getLast?.any (·.concerns name)

/-- The actions that are left, and a look when the last one is not. -/
def caughtUp (name : String) (actions : List Action) : List Action :=
  if isAhead name actions then without name actions ++ [.look] else without name actions

/-- Two elements of a list are the same one, or one of them comes before the other. -/
theorem append_cons_cases {Entry : Type} {before later early late : List Entry}
    {first second : Entry} (parts : before ++ first :: later = early ++ second :: late) :
    early = before ∧ second = first ∧ late = later ∨
      (∃ middle, early = before ++ first :: middle ∧ later = middle ++ second :: late) ∨
        ∃ middle, before = early ++ second :: middle ∧ late = middle ++ first :: later := by
  rcases List.append_eq_append_iff.1 parts with ⟨middle, rfl, behind⟩ | ⟨middle, rfl, behind⟩
  · rcases List.cons_eq_append_iff.1 behind with ⟨rfl, same⟩ | ⟨rest, rfl, same⟩
    · obtain ⟨rfl, rfl⟩ := List.cons.inj same
      exact .inl ⟨List.append_nil before, rfl, rfl⟩
    · exact .inr (.inl ⟨rest, rfl, same⟩)
  · rcases List.cons_eq_append_iff.1 behind with ⟨rfl, same⟩ | ⟨rest, rfl, same⟩
    · obtain ⟨rfl, rfl⟩ := List.cons.inj same
      exact .inl ⟨(List.append_nil early).symm, rfl, rfl⟩
    · exact .inr (.inr ⟨rest, rfl, same⟩)

section Without

variable {name : String} {early : List Action} {action : Action}

theorem without_append (remains : action.concerns name = false) :
    without name (early ++ [action]) = without name early ++ [action] := by
  rw [without, List.filter_append, List.filter_cons_of_pos (by rw [remains]; rfl)]
  rfl

theorem without_append_own (concerned : action.concerns name = true) :
    without name (early ++ [action]) = without name early := by
  rw [without, List.filter_append, List.filter_cons_of_neg (by rw [concerned]; decide)]
  exact List.append_nil _

theorem isAhead_append : isAhead name (early ++ [action]) = action.concerns name := by
  rw [isAhead, List.getLast?_concat]
  rfl

/-- What is about the task of a name is nothing to receivers. -/
theorem foldl_without {State : Type} {step : State → Action → State} {state : State}
    {actions : List Action}
    (idle : ∀ state action, action.concerns name = true → step state action = state) :
    (without name actions).foldl step state = actions.foldl step state := by
  induction actions generalizing state with
  | nil => rfl
  | cons action rest inductionHypothesis =>
    rw [without]
    cases concerned : action.concerns name with
    | false =>
      rw [List.filter_cons_of_pos (by rw [concerned]; rfl)]
      exact inductionHypothesis
    | true =>
      rw [List.filter_cons_of_neg (by rw [concerned]; decide), List.foldl_cons,
        idle state action concerned]
      exact inductionHypothesis

theorem mailAfter_of_concerns (mail : List (String × Nat))
    (concerned : action.concerns name = true) : action.mailAfter mail = mail := by
  cases action <;> first | rfl | cases concerned

theorem heldAfter_of_concerns (names : List String)
    (concerned : action.concerns name = true) : action.heldAfter names = names := by
  cases action <;> first | rfl | cases concerned

theorem trigger_mem_without {actions : List Action} :
    .trigger ∈ without name actions ↔ .trigger ∈ actions :=
  List.mem_filter.trans (and_iff_left rfl)

end Without

namespace Scene

variable {deployment : Deployment} {backend : Backend}

/-! ### What the two runs have in common -/

/-- A steady backend is left as it was by every run. -/
theorem Sound.backend_after {scene : Scene} (sound : scene.Sound)
    (steady : scene.service.backend.Steady) (deployment : Deployment) (actions : List Action) :
    (scene.after deployment actions).service.backend.Peer scene.service.backend := by
  induction actions generalizing scene with
  | nil => exact .refl _
  | cons action rest inductionHypothesis =>
    obtain ⟨service, same, changes⟩ := sound.backend_step deployment action
    have first : (scene.step deployment action).2.service.backend.Peer scene.service.backend := by
      rw [changes, ← same]
      cases action.start? with
      | none => exact .refl _
      | some named =>
        exact Service.backendAfter_steady deployment (same.symm ▸ steady : service.backend.Steady)
          named.2
    exact (inductionHypothesis (sound.step deployment action)
      (first.symm.steady steady)).trans first

/-- In both runs the same is to be read, the same receivers are held by name, and the shutdown is
triggered or not. -/
theorem without_alike (deployment : Deployment) (backend : Backend) (name : String)
    (actions : List Action) :
    let full := (start deployment backend).after deployment actions
    let sparse := (start deployment backend).after deployment (without name actions)
    full.mail = sparse.mail ∧ full.held = sparse.held ∧
      full.service.shutdown.isTriggered = sparse.service.shutdown.isTriggered := by
  intro full sparse
  have sound := sound_start deployment backend
  refine ⟨?_, ?_, ?_⟩
  · rw [(sound.mail_after reads_start _).1, (sound.mail_after reads_start _).1,
      foldl_without fun mail _ => mailAfter_of_concerns mail]
  · rw [held_after, held_after, foldl_without fun names _ => heldAfter_of_concerns names]
  · rw [Bool.eq_iff_iff, sound.isTriggered_after, sound.isTriggered_after, trigger_mem_without]

/-! ### The two runs side by side -/

section Run

variable (steady : backend.Steady) {before later early : List Action} {started action : Action}
  {name : String} {begins : Start} (starts : started.start? = some (name, begins))
  (alone : ∀ action ∈ before ++ later, action.concerns name = true → action = .cancel name)

/-- The services of the two runs are such that the same can begin at both. -/
theorem peers_after (steady : backend.Steady) (name : String) {early : List Action}
    (now : ((start deployment backend).after deployment early).service.now =
      ((start deployment backend).after deployment (without name early)).service.now) :
    ((start deployment backend).after deployment early).service.Peers
      ((start deployment backend).after deployment (without name early)).service := by
  have sound := sound_start deployment backend
  have full := sound.backend_after steady deployment early
  have sparse := sound.backend_after steady deployment (without name early)
  exact ⟨now, (without_alike deployment backend name early).2.2, full.trans sparse.symm,
    full.symm.steady steady⟩

include starts alone

/-- A step that is about the one task begins it, under its number, or cancels it; and no other one
takes its number. -/
theorem own_steps (deployment : Deployment) (backend : Backend) {late : List Action}
    (parts : before ++ started :: later = early ++ action :: late) :
    let own := ((start deployment backend).after deployment before).service.begun
    let service := ((start deployment backend).after deployment early).service
    (action.concerns name = true → action = .cancel name ∨
        action.start?.isSome = true ∧ service.begun = own ∧ action.concerns name = true) ∧
      (action.concerns name = false → action.start?.isSome = true → service.begun ≠ own) := by
  intro own service
  have sound := sound_start deployment backend
  have concerned : started.concerns name = true :=
    (Action.concerns_of_start? starts name).trans (beq_self_eq_true name)
  rcases append_cons_cases parts with ⟨rfl, rfl, -⟩ | ⟨middle, rfl, rfl⟩ | ⟨middle, rfl, -⟩
  · refine ⟨fun _ => .inr ⟨starts ▸ rfl, rfl, concerned⟩, fun remains => ?_⟩
    rw [concerned] at remains
    cases remains
  · -- The step comes behind the beginning.
    have member : action ∈ before ++ (middle ++ action :: late) :=
      List.mem_append_right _ (List.mem_append_right _ List.mem_cons_self)
    refine ⟨fun mine => .inl (alone action member mine), fun _ _ => ?_⟩
    have grows := (sound.after deployment before).begun_lt_step deployment starts
    have stays := ((sound.after deployment before).step deployment started).begun_le_after
      deployment middle
    have last : service = _ := congrArg Scene.service (after_append before (started :: middle))
    rw [last, after_cons]
    omega
  · -- The step comes before the beginning.
    have member : action ∈ (early ++ action :: middle) ++ later :=
      List.mem_append_left _ (List.mem_append_right _ List.mem_cons_self)
    refine ⟨fun mine => .inl (alone action member mine), fun _ begin => ?_⟩
    have grows := (sound.after deployment early).begun_step deployment action
    have stays := ((sound.after deployment early).step deployment action).begun_le_after
      deployment middle
    have last : own = _ := congrArg (fun scene => scene.service.begun)
      (after_append early (action :: middle))
    rw [begin] at grows
    rw [after_cons] at last
    simp only [Bool.toNat_true] at grows
    show ((start deployment backend).after deployment early).service.begun ≠ own
    omega

include steady

/-- Behind every part of a run the scene of the full run is beside that of the sparse one. -/
theorem beside_after (deployment : Deployment) {late : List Action}
    (parts : before ++ started :: later = early ++ late) :
    Beside deployment name ((start deployment backend).after deployment before).service.begun
      (isAhead name early) ((start deployment backend).after deployment early)
      ((start deployment backend).after deployment (without name early)) := by
  have sound := sound_start deployment backend
  induction early using List.reverseRecOn generalizing late with
  | nil =>
    refine ⟨.inl ⟨rfl, Nat.zero_le _⟩, fun _ _ => rfl, nofun, fun serial => rfl⟩
  | append_singleton early action inductionHypothesis =>
    rw [List.append_assoc] at parts
    have beside := inductionHypothesis parts
    have steps := own_steps starts alone deployment backend parts
    have soundFull := sound.after deployment early
    have soundSparse := sound.after deployment (without name early)
    rw [isAhead_append, after_append]
    cases concerned : action.concerns name with
    | true =>
      rw [without_append_own concerned]
      exact beside.step_own soundFull (steps.1 concerned)
    | false =>
      rw [without_append concerned, after_append]
      exact beside.step soundFull soundSparse concerned (peers_after steady name beside.now)
        (steps.2 concerned)

/-- No step of a run cancels a task that would have been overtaken. -/
def Timely (deployment : Deployment) (backend : Backend) (name : String) (actions : List Action)
    (serial : Nat) : Prop :=
  ∀ front action back, actions = front ++ action :: back →
    ¬((start deployment backend).after deployment (without name front)).Overtaken
      (isAhead name front) action serial

/-- What is told of a task in every part of a run is told in the sparse run, but for what the full
run is ahead by; unless the task was overtaken. -/
theorem record_beside (deployment : Deployment) {late : List Action}
    (parts : before ++ started :: later = early ++ late) (serial : Nat)
    (timely : Timely deployment backend name early serial) :
    let own := ((start deployment backend).after deployment before).service.begun
    let sparse := (start deployment backend).after deployment (without name early)
    ((start deployment backend).record deployment early
        (beyond own serial)).map Completion.anonymous =
      ((start deployment backend).record deployment (without name early) serial ++
        (sparse.service.course serial).toldAhead deployment
          (isAhead name early)).map Completion.anonymous := by
  intro own sparse
  have sound := sound_start deployment backend
  induction early using List.reverseRecOn generalizing late with
  | nil => rfl
  | append_singleton early action inductionHypothesis =>
    rw [List.append_assoc] at parts
    have before := inductionHypothesis parts fun front action' back same =>
      timely front action' (back ++ [action]) (by rw [same, List.append_assoc]; rfl)
    have beside := beside_after steady starts alone deployment parts
    have steps := own_steps starts alone deployment backend parts
    have soundFull := sound.after deployment early
    have soundSparse := sound.after deployment (without name early)
    have record (serial : Nat) (actions : List Action) :
        (start deployment backend).record deployment (actions ++ [action]) serial =
          (start deployment backend).record deployment actions serial ++
            (tellings (((start deployment backend).after deployment actions).step deployment
              action).1).filter (·.serial == serial) := by
      rw [record_append, record_cons]
      exact congrArg _ (List.append_nil _)
    rw [record, List.map_append, before]
    cases concerned : action.concerns name with
    | true =>
      have tells := beside.tells_own soundFull (steps.1 concerned) serial
      have ahead : sparse.service.course serial =
          ((start deployment backend).after deployment (without name early)).service.course
            serial := by rw [← without_append_own concerned]
      have last (course : Course) : course.toldAhead deployment true =
          course.completions deployment .settle := rfl
      rw [ahead, isAhead_append, concerned, without_append_own concerned, last,
        List.map_append, List.map_append, List.append_assoc, ← List.map_append, tells]
    | false =>
      have kept := (beside.view soundFull soundSparse concerned
        (peers_after steady name beside.now) (steps.2 concerned) serial).2
        (timely early action [] rfl)
      have last (course : Course) : course.toldAhead deployment false = [] := rfl
      rw [isAhead_append, concerned, without_append concerned, record, last, List.append_nil,
        List.map_append, List.map_append, kept, List.map_append, List.append_assoc]

omit starts alone steady in
/-- A look tells what the full run is ahead by. -/
theorem record_caughtUp (deployment : Deployment) (backend : Backend) (name : String)
    (actions : List Action) (serial : Nat) :
    (start deployment backend).record deployment (caughtUp name actions) serial =
      (start deployment backend).record deployment (without name actions) serial ++
        (((start deployment backend).after deployment (without name actions)).service.course
          serial).toldAhead deployment (isAhead name actions) := by
  rw [caughtUp]
  cases isAhead name actions with
  | false => exact (List.append_nil _).symm
  | true =>
    have sound := (sound_start deployment backend).after deployment (without name actions)
    have spared : .cancel serial ∉ (((start deployment backend).after deployment
        (without name actions)).quiet.happenings deployment .look) := by
      rw [cancel_mem_happenings]
      exact nofun
    have effectless (now : Nat) (awaited? : Option Task) (task : Task) :
        Action.look.effects deployment now awaited? task = [] := rfl
    have another : Action.look.start?.isSome = true → serial ≠
        ((start deployment backend).after deployment (without name actions)).service.begun := nofun
    have looked := (sound.step_effectless another spared effectless).2
    rw [if_pos rfl, record_append, record_cons, looked]
    exact congrArg _ (List.append_nil _)

/-- What the full run tells in a step of the one task is of that task, or of one whose busy loop was
turning. -/
theorem busy_of_tells_own (deployment : Deployment) {late : List Action}
    (parts : before ++ started :: later = early ++ action :: late)
    (concerned : action.concerns name = true) (completion : Completion)
    (told : completion ∈
      tellings (((start deployment backend).after deployment early).step deployment action).1)
    (another : completion.serial ≠
      ((start deployment backend).after deployment before).service.begun) :
    ∃ task, ((start deployment backend).after deployment early).service.task? completion.serial =
      some task ∧ task.stage = .busy := by
  have beside := beside_after steady starts alone deployment parts
  have steps := (own_steps starts alone deployment backend parts).1 concerned
  have sound := (sound_start deployment backend).after deployment early
  obtain ⟨serial, number⟩ := exists_beyond another
  have mine : completion ∈ (tellings (((start deployment backend).after deployment
      early).step deployment action).1).filter (·.serial == completion.serial) :=
    List.mem_filter.2 ⟨told, beq_self_eq_true _⟩
  rw [← number, (beside.view_own sound steps serial).2, number] at mine
  by_contra idle
  have settled : (((start deployment backend).after deployment early).service.course
      completion.serial).Idle := fun task there busy => idle ⟨task, there, busy⟩
  rw [(settled.settle deployment).2] at mine
  cases mine

end Run

/-! ### Nobody notices the one task -/

/-- In a network that answers every call alike, let a task for which nobody waits have a name that is
used to start it and to cancel it at most, and leave out all its steps. Behind each of the other steps
the clock and the flag are as before, the broadcast counts one receiver less if the task holds one,
and the step has told the same, but that a task can be stopped there that had ended here. Every other
task ends as before, at the same time and in the same step; unless a step that is left out finds its
busy loop turning: this is the step in which it ends here, and there it ends in the next step, if
nobody cancels it in that one. -/
theorem bystander_unnoticed {backend : Backend} {before later : List Action} {started : Action}
    {name : String} {begins : Start} (steady : backend.Steady)
    (starts : started.start? = some (name, begins))
    (alone : ∀ action ∈ before ++ later, action.concerns name = true → action = .cancel name)
    (deployment : Deployment) :
    let first := start deployment backend
    let run := before ++ started :: later
    let own := (first.after deployment before).service.begun
    let full := fun early => first.after deployment early
    let sparse := fun early => first.after deployment (without name early)
    (∀ early action late, run = early ++ action :: late → action.concerns name = false →
      let seen := ((full early).step deployment action).1
      let expected := ((sparse early).step deployment action).1
      let held := ((full (early ++ [action])).service.task? own).any Task.holds
      seen.now = expected.now ∧ seen.isTriggered = expected.isTriggered ∧
        seen.receiverCount = expected.receiverCount + held.toNat ∧
        (seen.verdict = expected.verdict ∨
          (∃ serial, (sparse early).Overtaken (isAhead name early) action serial) ∧
            seen.verdict = .stopped false ∧ expected.verdict = .stopped true)) ∧
      (∀ front action middle late other, run = front ++ action :: (middle ++ late) →
        action.start? = some other → other.1 ≠ name →
          let early := front ++ action :: middle
          let serial := (sparse front).service.begun
          Timely deployment backend name early serial →
          (first.record deployment early (full front).service.begun).map Completion.anonymous =
            (first.record deployment (caughtUp name early) serial).map Completion.anonymous) ∧
      ∀ early action late, run = early ++ action :: late → action.concerns name = true →
        ∀ completion ∈ tellings ((full early).step deployment action).1,
          completion.serial ≠ own → ∃ task,
            (full early).service.task? completion.serial = some task ∧ task.stage = .busy := by
  intro first run own full sparse
  have sound := sound_start deployment backend
  refine ⟨fun early action late parts remains => ?_,
    fun front action middle late other parts begun another => ?_,
    fun early action late parts concerned => busy_of_tells_own steady starts alone deployment parts
      concerned⟩
  · intro seen expected held
    have beside := beside_after steady starts alone deployment parts
    have steps := own_steps starts alone deployment backend parts
    have soundFull := sound.after deployment early
    have soundSparse := sound.after deployment (without name early)
    have peers := peers_after steady name beside.now
    have alike := without_alike deployment backend name early
    have behind := beside.step soundFull soundSparse remains peers (steps.2 remains)
    obtain ⟨-, receivers, flag⟩ := without_alike deployment backend name (early ++ [action])
    have whole : (start deployment backend).after deployment (early ++ [action]) =
        ((full early).step deployment action).2 := after_append early [action]
    have rest : (start deployment backend).after deployment (without name (early ++ [action])) =
        ((sparse early).step deployment action).2 := by
      rw [without_append remains]
      exact after_append (without name early) [action]
    have mine : held = (((full early).step deployment action).2.service.task? own).any Task.holds :=
      congrArg (fun scene => (scene.service.task? own).any Task.holds) whole
    rw [whole, rest] at receivers flag
    refine ⟨behind.now, flag, ?_, ?_⟩
    · rw [mine]
      exact behind.receiverCount (soundFull.step deployment action)
        (soundSparse.step deployment action) receivers
    · exact beside.verdict_step soundFull soundSparse remains peers (steps.2 remains)
        (sound.mail_after reads_start early).2
        (sound.mail_after reads_start (without name early)).2 alike.1
  · intro early serial timely
    have remains : action.concerns name = false :=
      (Action.concerns_of_start? begun name).trans (beq_eq_false_iff_ne.2 another)
    have beside := beside_after steady starts alone deployment parts
    have steps := own_steps starts alone deployment backend parts
    have number : beyond own serial = (full front).service.begun :=
      beside.beyond_begun (steps.2 remains (begun ▸ rfl))
    have whole : run = early ++ late := by
      rw [parts]
      exact (List.append_assoc front (action :: middle) late).symm
    rw [record_caughtUp, ← number]
    exact record_beside steady starts alone deployment whole serial timely

/-- Beside an operation whose busy loop is turning a delay begins, and is cancelled half a second
later. -/
theorem bystander_unnoticed_beside_operation :
    let deployment : Deployment := ⟨{}, fun _ => "identifier"⟩
    let first := start deployment {}
    let before := [.operation "first" 0 2]
    let started := Action.delay "second" 1
    let later := [.advance 500, .cancel "second", .join "first"]
    let early := before ++ [started]
    Backend.Steady {} ∧ started.start? = some ("second", .delay 1) ∧
      (∀ action ∈ before ++ later, action.concerns "second" = true → action = .cancel "second") ∧
      Timely deployment {} "second" early 0 ∧
      (first.record deployment early 0).map Completion.anonymous =
        (first.record deployment [.operation "first" 0 2, .look] 0).map Completion.anonymous ∧
      ((first.after deployment early).step deployment (.advance 500)).1.receiverCount =
        ((first.after deployment before).step deployment (.advance 500)).1.receiverCount + 1 := by
  intro deployment first before started later early
  have alone : ∀ action ∈ before ++ later, action.concerns "second" = true →
      action = .cancel "second" := by
    intro action member concerned
    have cases : action = .operation "first" 0 2 ∨ action = .advance 500 ∨
        action = .cancel "second" ∨ action = .join "first" := by
      simpa [before, later] using member
    rcases cases with rfl | rfl | rfl | rfl
    · cases concerned
    · cases concerned
    · rfl
    · cases concerned
  have timely : Timely deployment {} "second" early 0 := by
    rintro front action back parts ⟨-, other, task, rfl, -⟩
    have member : Action.cancel other ∈ early := by
      rw [parts]
      exact List.mem_append_right _ List.mem_cons_self
    simp [early, before, started] at member
  have steady : Backend.Steady {} := Nat.zero_le 1
  have starts : started.start? = some ("second", .delay 1) := rfl
  have unnoticed := bystander_unnoticed steady starts alone deployment
  refine ⟨steady, starts, alone, timely, ?_, ?_⟩
  · exact unnoticed.2.1 [] (.operation "first" 0 2) [started] later _ rfl rfl (by decide) timely
  · have holds : (((first.after deployment (early ++ [.advance 500])).service.task?
        (first.after deployment before).service.begun).any Task.holds).toNat = 1 := by
      decide +kernel
    have count :=
      (unnoticed.1 early (.advance 500) [.cancel "second", .join "first"] rfl rfl).2.2.1
    rw [← holds]
    exact count

/-- An operation whose busy loop is turning ends in the step in which another task begins to wait for
the shutdown; else it ends in the next step, or is cancelled in that one. -/
theorem bystander_hastens :
    let deployment : Deployment :=
      ⟨{ operation := { burnIterations := 1 } }, fun _ => "identifier"⟩
    let first := start deployment {}
    let joined := [.operation "first" 0 2, .wait "second", .join "first"]
    let stopped := [.operation "first" 0 2, .wait "second", .cancel "first"]
    let completion : Completion :=
      ⟨0, 0, .completed ⟨some "local", some "Total time spent: 0 seconds"⟩⟩
    let told := fun actions => (first.play deployment actions).1.map tellings
    let verdicts := fun actions => (first.play deployment actions).1.map Observation.verdict
    (∀ action ∈ joined ++ stopped, action.concerns "second" = true → action = .wait "second") ∧
      told joined = [[], [completion], []] ∧
      told (without "second" joined) = [[], [completion]] ∧
      told stopped = [[], [completion], []] ∧
      told (without "second" stopped) = [[], []] ∧
      verdicts stopped = [.nothing, .nothing, .stopped false] ∧
      verdicts (without "second" stopped) = [.nothing, .stopped true] := by
  intro deployment first joined stopped completion told verdicts
  refine ⟨?_, by decide +kernel, by decide +kernel, by decide +kernel, by decide +kernel,
    by decide +kernel, by decide +kernel⟩
  intro action member concerned
  have cases : action = .operation "first" 0 2 ∨ action = .wait "second" ∨
      action = .join "first" ∨ action = .cancel "first" := by
    simp [joined, stopped] at member
    tauto
  rcases cases with rfl | rfl | rfl | rfl
  · cases concerned
  · rfl
  · cases concerned
  · cases concerned

end Scene

end LatencyService
