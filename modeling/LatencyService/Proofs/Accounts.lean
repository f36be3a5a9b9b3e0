/-
The log of a run, from its beginning to any point. Before the shutdown is
triggered it reaches nobody. The first trigger reaches whoever sleeps, and from
then on whoever begins is reached at once, so that no later trigger finds anybody.
The log accounts for all endings of the run, be it a scene or requests that are
served one after the other, and whoever is reached and has its abortion hidden
is answered nonetheless.
-/

import LatencyService.Proofs.Closing
import LatencyService.Proofs.Logging
import LatencyService.Proofs.Spans

namespace LatencyService

/-! ### The books of what begins -/

namespace Books

/-- The books in which stands what begins one after the other, and whom the shutdown reaches. -/
def ofStarts (settings : Settings) (starts : List Start) (reached : Nat → Bool) : Books where
  operates serial := starts[serial]?.any (Start.operates settings)
  defaults serial := starts[serial]?.any (Start.defaults settings)
  reached := reached

theorem opens_ofStarts {settings : Settings} {starts : List Start} {reached : Nat → Bool}
    {serial : Nat} {start : Start} (found : starts[serial]? = some start) :
    (ofStarts settings starts reached).Opens settings serial start :=
  ⟨congrArg (Option.any _) found, congrArg (Option.any _) found⟩

end Books

theorem Service.logged_start (deployment : Deployment) (backend : Backend) (books : Books) :
    (start deployment backend).Logged books [] [] := by
  refine ⟨Books.accounts_aside fun event member => ?_, List.forall_mem_nil _⟩
  rw [List.mem_singleton.1 member]
  rfl

/-- What begins behind the shutdown and has its abortion hidden is over at once. -/
theorem Service.birth_of_defaults {deployment : Deployment} (service : Service) {start : Start}
    (hides : start.defaults deployment.settings = true)
    (triggered : service.shutdown.isTriggered = true) :
    ∃ ending, service.birth deployment start = .atOnce ending := by
  cases start with
  | service policy delaySeconds =>
    cases policy with
    | propagate => cases hides
    | logAndDefault => exact ⟨_, if_pos triggered⟩
  | request request =>
    obtain ⟨patient, hides⟩ := Bool.and_eq_true_iff.1 hides
    cases asks : Http.Dispatch.ofRequest request with
    | demoService order =>
      exact ⟨_, birth_of_triggered (bne_iff_ne.1 patient) triggered (employs_of_demoService asks)
        rfl⟩
    | _ =>
      rw [asks] at hides
      cases hides
  | delay | operation | wait => cases hides

/-! ### The first trigger -/

/-- The actions in front of the first trigger, if there is any. -/
def beforeTrigger? : List Action → Option (List Action)
  | [] => none
  | .trigger :: _ => some []
  | action :: rest => (beforeTrigger? rest).map (action :: ·)

theorem beforeTrigger?_cons {action : Action} (other : action ≠ .trigger) (rest : List Action) :
    beforeTrigger? (action :: rest) = (beforeTrigger? rest).map (action :: ·) := by
  cases action with
  | trigger => exact absurd rfl other
  | _ => rfl

theorem beforeTrigger?_eq_none {actions : List Action} (never : beforeTrigger? actions = none) :
    .trigger ∉ actions := by
  induction actions with
  | nil => exact List.not_mem_nil
  | cons action rest inductionHypothesis =>
    have other : action ≠ .trigger := by
      rintro rfl
      cases never
    rw [beforeTrigger?_cons other, Option.map_eq_none_iff] at never
    exact List.not_mem_cons_of_ne_of_not_mem other.symm (inductionHypothesis never)

theorem exists_of_beforeTrigger? {actions before : List Action}
    (first : beforeTrigger? actions = some before) :
    .trigger ∉ before ∧ ∃ later, actions = before ++ .trigger :: later := by
  induction actions generalizing before with
  | nil => cases first
  | cons action rest inductionHypothesis =>
    by_cases same : action = .trigger
    · subst same
      cases first
      exact ⟨List.not_mem_nil, rest, rfl⟩
    · rw [beforeTrigger?_cons same] at first
      obtain ⟨front, found, rfl⟩ := Option.map_eq_some_iff.1 first
      obtain ⟨untriggered, later, rfl⟩ := inductionHypothesis found
      exact ⟨List.not_mem_cons_of_ne_of_not_mem (Ne.symm same) untriggered, later, rfl⟩

/-! ### Counting -/

/-- Where the numbers of what has ended are all different, and all that are looked for are among
them, they can be counted one by one. -/
theorem countP_of_nodup {numbers : List Nat} {bound : Nat} {wanted : Nat → Bool}
    (distinct : numbers.Nodup) (known : ∀ number ∈ numbers, number < bound)
    (among : ∀ number, wanted number = true → number ∈ numbers) :
    numbers.countP wanted = (List.range bound).countP wanted := by
  rw [List.countP_eq_length_filter, List.countP_eq_length_filter]
  refine List.Perm.length_eq ((List.perm_ext_iff_of_nodup (distinct.filter _)
    (List.nodup_range.filter _)).2 fun number => ?_)
  rw [List.mem_filter, List.mem_filter, List.mem_range]
  constructor
  · rintro ⟨member, looked⟩
    exact ⟨known number member, looked⟩
  · rintro ⟨-, looked⟩
    exact ⟨among number looked, looked⟩

/-! ### Whom the shutdown reaches -/

namespace Scene

/-- The shutdown reaches a task of a run: it sleeps when that is first triggered, or it begins
behind that. -/
def isReached (deployment : Deployment) (scene : Scene) (actions : List Action) (serial : Nat) :
    Bool :=
  (beforeTrigger? actions).any fun before =>
    let poised := (scene.after deployment (before ++ [.look])).service
    poised.begun ≤ serial || (poised.task? serial).any Task.isAsleep

/-- The delays that sleep when the shutdown is first triggered in a run. -/
def sleepers (deployment : Deployment) (scene : Scene) (actions : List Action) : List UInt64 :=
  (beforeTrigger? actions).elim [] fun before =>
    let poised := (scene.after deployment (before ++ [.look])).service
    (poised.tasks.filter Task.isAsleep).map Task.delaySeconds

/-- The books of a run. -/
def books (deployment : Deployment) (scene : Scene) (actions : List Action) : Books :=
  .ofStarts deployment.settings (starts actions) (scene.isReached deployment actions)

/-! ### Steps -/

variable {deployment : Deployment} {scene : Scene} {books : Books} {delays : List UInt64}
  {past : List (Nat × Ending)}

/-- Whatever is done in a step is logged, unless it is the first trigger. -/
theorem Sound.logged_step (sound : scene.Sound) (deployment : Deployment)
    (logged : scene.service.Logged books delays past) {action : Action}
    (late : action = .trigger → scene.service.shutdown.isTriggered = true)
    (opens : ∀ named, action.start? = some named →
      books.Opens deployment.settings scene.service.begun named.2 ∧
        books.reached scene.service.begun = scene.service.shutdown.isTriggered) :
    (scene.step deployment action).2.service.Logged books delays
      (past ++ scene.service.endings) := by
  have quiet := sound.quiet.service
  have drained (member : .trigger ∈ scene.quiet.happenings deployment action) :
      scene.quiet.service.shutdown.isTriggered = true := late (trigger_mem_happenings.1 member)
  have silent : scene.quiet.service.Logged books delays (past ++ scene.service.endings) :=
    logged.forget
  have undergone : (scene.undergone deployment action).Logged books delays
      (past ++ scene.service.endings) := silent.undergo quiet deployment drained
  rcases service_step deployment scene action with ⟨named, starts, same⟩ | ⟨-, shutdown, -, same⟩
  · obtain ⟨opens, reached⟩ := opens named starts
    have untriggered : (scene.quiet.happenings deployment action).contains .trigger = false := by
      refine Bool.eq_false_iff.2 fun member => ?_
      rw [trigger_mem_happenings.1 (List.contains_iff_mem.1 member)] at starts
      cases starts
    rw [same]
    refine undergone.begin ?_ ?_
    · rw [sound.begun_undergone]
      exact opens
    · rw [sound.begun_undergone, Scene.undergone, quiet.isTriggered_undergo, untriggered,
        Bool.or_false]
      exact reached
  · rw [same]
    exact undergone.congr rfl rfl undergone.known

/-! ### Runs -/

/-- So many tasks have begun after a run as began in it. -/
theorem Sound.begun_after (sound : scene.Sound) (deployment : Deployment) (actions : List Action) :
    (scene.after deployment actions).service.begun =
      scene.service.begun + (starts actions).length := by
  induction actions generalizing scene with
  | nil => rfl
  | cons action rest inductionHypothesis =>
    rw [after_cons, inductionHypothesis (sound.step deployment action), sound.begun_step,
      starts_cons, List.length_append]
    cases action.start? <;> exact Nat.add_assoc _ _ _

/-- The log of a run accounts for all that is told in it, as long as the shutdown has been triggered
before it or is not triggered at all. -/
theorem Sound.logged_after (sound : scene.Sound) (deployment : Deployment)
    (actions : List Action) (logged : scene.service.Logged books delays past)
    (late : .trigger ∈ actions → scene.service.shutdown.isTriggered = true)
    (opens : ∀ place start, (starts actions)[place]? = some start →
      books.Opens deployment.settings (scene.service.begun + place) start ∧
        books.reached (scene.service.begun + place) = scene.service.shutdown.isTriggered) :
    ∃ known, (scene.after deployment actions).service.Logged books delays known ∧
      known ++ (scene.after deployment actions).service.endings =
        (past ++ scene.service.endings) ++
          (scene.told deployment actions).map Completion.entry := by
  induction actions generalizing scene past with
  | nil => exact ⟨past, logged, (List.append_nil _).symm⟩
  | cons action rest inductionHypothesis =>
    have begun := sound.begun_step deployment action
    have flag : (scene.step deployment action).2.service.shutdown.isTriggered =
        scene.service.shutdown.isTriggered := by
      rw [Bool.eq_iff_iff, sound.isTriggered_step, or_iff_left_iff_imp]
      exact fun same => late (same ▸ List.mem_cons_self)
    rw [starts_cons] at opens
    have next := sound.logged_step deployment logged
      (fun same => late (same ▸ List.mem_cons_self)) fun named starts => by
        rw [starts] at opens
        exact opens 0 named.2 rfl
    obtain ⟨known, told, all⟩ := inductionHypothesis (sound.step deployment action) next
      (fun member => flag.trans (late (List.mem_cons_of_mem _ member))) fun place start found => by
        rw [flag, begun]
        cases starts : action.start? with
        | none =>
          rw [starts] at opens
          exact opens place start found
        | some named =>
          rw [starts] at opens
          have later := opens (place + 1) start found
          rwa [Nat.add_comm place, ← Nat.add_assoc] at later
    refine ⟨known, told, ?_⟩
    rw [told_cons, List.map_append, ← List.append_assoc]
    exact all

/-- What is told in a run is told in its first part and then in the rest. -/
theorem told_append (first second : List Action) :
    scene.told deployment (first ++ second) =
      scene.told deployment first ++ (scene.after deployment first).told deployment second := by
  induction first generalizing scene with
  | nil => rfl
  | cons action rest inductionHypothesis =>
    rw [List.cons_append, told_cons, told_cons, inductionHypothesis, List.append_assoc]
    rfl

/-- Behind an action all is told that was told before it, and then what has ended in it. -/
theorem entries_told_append (before : List Action) (action : Action) :
    (scene.told deployment (before ++ [action])).map Completion.entry =
      (scene.told deployment before).map Completion.entry ++
        (scene.after deployment (before ++ [action])).service.endings := by
  rw [told_append, told_cons, after_append, List.map_append]
  exact congrArg _ (congrArg _ (List.append_nil _))

/-- Whoever was told of has begun and has ended. -/
theorem Sound.gone_of_told (sound : scene.Sound) {actions : List Action} {completion : Completion}
    (member : completion ∈ scene.told deployment actions) :
    completion.serial < (scene.after deployment actions).service.begun ∧
      (scene.after deployment actions).service.task? completion.serial = none := by
  refine ⟨Nat.lt_of_not_le fun unborn => ?_, sound.task?_of_record member⟩
  have mine : completion ∈ scene.record deployment actions completion.serial :=
    List.mem_filter.2 ⟨member, beq_self_eq_true _⟩
  rw [sound.record_unborn deployment actions unborn] at mine
  cases mine

/-! ### The books of a run -/

theorem starts_append (first second : List Action) :
    starts (first ++ second) = starts first ++ starts second := List.filterMap_append

/-- Nobody begins in a look at the scene, or when the shutdown is triggered. -/
theorem begun_start_after (deployment : Deployment) (backend : Backend) (before : List Action)
    {action : Action} (idle : action.start? = none) :
    ((start deployment backend).after deployment (before ++ [action])).service.begun =
      (starts before).length := by
  have others : starts [action] = [] := by
    rw [starts, List.filterMap_cons_none (by rw [idle]; rfl)]
    rfl
  rw [(sound_start deployment backend).begun_after, starts_append, others, List.append_nil]
  exact Nat.zero_add _

theorem isReached_of_first {actions before : List Action}
    (first : beforeTrigger? actions = some before) (serial : Nat) :
    scene.isReached deployment actions serial =
      (decide ((scene.after deployment (before ++ [.look])).service.begun ≤ serial) ||
        ((scene.after deployment (before ++ [.look])).service.task? serial).any
          Task.isAsleep) := by
  rw [isReached, first]
  rfl

/-- Whoever has ended before the first trigger is not reached. -/
theorem Sound.isReached_of_told (sound : scene.Sound) {actions before : List Action}
    (first : beforeTrigger? actions = some before) {completion : Completion}
    (member : completion ∈ scene.told deployment (before ++ [.look])) :
    scene.isReached deployment actions completion.serial = false := by
  obtain ⟨known, gone⟩ := sound.gone_of_told member
  rw [isReached_of_first first, gone, decide_eq_false (Nat.not_le.2 known)]
  rfl

/-- Of those who are there at the first trigger just those are reached who sleep. -/
theorem Sound.isReached_of_mem (sound : scene.Sound) {actions before : List Action}
    (first : beforeTrigger? actions = some before) {task : Task}
    (member : task ∈ (scene.after deployment (before ++ [.look])).service.tasks) :
    scene.isReached deployment actions task.serial = task.isAsleep := by
  have poised := (sound.after deployment (before ++ [.look])).service
  rw [isReached_of_first first, poised.distinct.task?_of_mem member,
    decide_eq_false (Nat.not_le.2 (poised.numbered task member))]
  rfl

/-- As long as the shutdown is not triggered nobody is reached, and the log of a run accounts for
all that is told in it. -/
theorem logged_untriggered (deployment : Deployment) (backend : Backend) {actions : List Action}
    (untriggered : .trigger ∉ actions)
    (opens : ∀ place start, (starts actions)[place]? = some start →
      books.Opens deployment.settings place start)
    (unreached : ∀ serial, books.reached serial = false) :
    let scene := start deployment backend
    ∃ known, (scene.after deployment actions).service.Logged books [] known ∧
      known ++ (scene.after deployment actions).service.endings =
        (scene.told deployment actions).map Completion.entry := by
  intro scene
  have logged := (sound_start deployment backend).logged_after deployment actions
    (Service.logged_start deployment backend books) (fun member => absurd member untriggered)
  refine logged fun place start found => ?_
  have begun : scene.service.begun + place = place := Nat.zero_add place
  rw [begun]
  exact ⟨opens place start found, unreached place⟩

/-- Right before the first trigger the log accounts for all that is told by then. -/
theorem logged_poised (deployment : Deployment) (backend : Backend) {before : List Action}
    (untriggered : .trigger ∉ before) (later : List Action) :
    let scene := start deployment backend
    (scene.after deployment (before ++ [.look])).service.Logged
      (.ofStarts deployment.settings (starts (before ++ later)) fun _ => false) []
      ((scene.told deployment before).map Completion.entry) := by
  intro scene
  let blank := Books.ofStarts deployment.settings (starts (before ++ later)) fun _ => false
  have opens : ∀ place start, (starts before)[place]? = some start →
      blank.Opens deployment.settings place start := by
    intro place start found
    refine Books.opens_ofStarts ?_
    rw [starts_append, List.getElem?_append_left (List.getElem?_eq_some_iff.1 found).1]
    exact found
  obtain ⟨known, logged, all⟩ :=
    logged_untriggered deployment backend untriggered opens fun _ => rfl
  have sound : scene.Sound := sound_start deployment backend
  have looked : ((scene.after deployment before).step deployment .look).2.service.Logged blank []
      (known ++ (scene.after deployment before).service.endings) :=
    (sound.after deployment before).logged_step deployment logged nofun nofun
  rw [after_append, ← all]
  exact looked

/-- Behind the first trigger the log accounts for all that is told by then, and for the delays that
it found. -/
theorem logged_first_trigger (deployment : Deployment) (backend : Backend)
    {before later : List Action} (untriggered : .trigger ∉ before)
    (first : beforeTrigger? (before ++ .trigger :: later) = some before) :
    let scene := start deployment backend
    let actions := before ++ .trigger :: later
    (scene.after deployment (before ++ [.trigger])).service.Logged (scene.books deployment actions)
      (scene.sleepers deployment actions)
      ((scene.told deployment before).map Completion.entry) := by
  intro scene actions
  have sound : scene.Sound := sound_start deployment backend
  have triggered := (logged_poised deployment backend untriggered (.trigger :: later)).trigger
    (sound.after deployment (before ++ [.look])).service deployment
    (fun ended member => by
      rw [← entries_told_append] at member
      obtain ⟨completion, known, rfl⟩ := List.mem_map.1 member
      exact sound.isReached_of_told first known)
    fun task member => sound.isReached_of_mem first member
  have last : (scene.after deployment (before ++ [.trigger])).service =
      (scene.after deployment (before ++ [.look])).service.happen deployment .trigger := by
    rw [after_append, after_append]
    rfl
  have sleepers : scene.sleepers deployment actions =
      [] ++ ((scene.after deployment (before ++ [.look])).service.tasks.filter
        Task.isAsleep).map Task.delaySeconds := by
    rw [Scene.sleepers, first]
    rfl
  rw [last, sleepers]
  exact triggered

/-- At any point of a run the log accounts for all that was told in it. -/
theorem accounts_after (deployment : Deployment) (backend : Backend) (actions : List Action) :
    let scene := start deployment backend
    (scene.books deployment actions).Accounts (scene.sleepers deployment actions)
      (scene.after deployment actions).service.events
      ((scene.told deployment actions).map Completion.entry) := by
  intro scene
  have sound : scene.Sound := sound_start deployment backend
  cases first : beforeTrigger? actions with
  | none =>
    have sleepers : scene.sleepers deployment actions = [] := by
      rw [Scene.sleepers, first]
      rfl
    obtain ⟨known, logged, all⟩ := logged_untriggered deployment backend
      (beforeTrigger?_eq_none first) (fun _ _ => Books.opens_ofStarts) fun serial => by
        show scene.isReached deployment actions serial = false
        rw [isReached, first]
        rfl
    rw [sleepers, ← all]
    exact logged.accounts
  | some before =>
    obtain ⟨untriggered, later, rfl⟩ := exists_of_beforeTrigger? first
    have triggered := logged_first_trigger deployment backend untriggered first
    have flag : (scene.after deployment (before ++ [.trigger])).service.shutdown.isTriggered =
        true := (sound.isTriggered_after _).2 (.inr (List.mem_append_right _ List.mem_cons_self))
    obtain ⟨known, logged, all⟩ :=
      (sound.after deployment (before ++ [.trigger])).logged_after deployment later triggered
        (fun _ => flag) fun place start found => by
          rw [begun_start_after _ _ _ rfl, flag]
          refine ⟨Books.opens_ofStarts ?_, ?_⟩
          · rw [starts_append, List.getElem?_append_right (Nat.le_add_right _ _),
              Nat.add_sub_cancel_left]
            exact found
          · refine (isReached_of_first first _).trans ?_
            rw [begun_start_after _ _ _ rfl, decide_eq_true (Nat.le_add_right _ _)]
            rfl
    have accounts := logged.accounts
    rw [all, ← entries_told_append, ← List.map_append, ← told_append, ← after_append,
      ← List.append_cons] at accounts
    exact accounts

/-! ### Abortions that are hidden -/

/-- What begins in a run begins in one of its actions, behind all that began before it. -/
theorem exists_of_starts {actions : List Action} {place : Nat} {start : Start}
    (found : (starts actions)[place]? = some start) :
    ∃ before action name later, actions = before ++ action :: later ∧
      action.start? = some (name, start) ∧ (starts before).length = place := by
  induction actions generalizing place with
  | nil => cases found
  | cons action rest inductionHypothesis =>
    rw [starts_cons] at found
    cases begins : action.start? with
    | none =>
      rw [begins] at found
      obtain ⟨before, other, name, later, rfl, own, length⟩ := inductionHypothesis found
      refine ⟨action :: before, other, name, later, rfl, own, ?_⟩
      rw [starts_cons, begins]
      exact length
    | some named =>
      rw [begins] at found
      cases place with
      | zero =>
        cases found
        exact ⟨[], action, named.1, rest, rfl, begins, rfl⟩
      | succ place =>
        obtain ⟨before, other, name, later, rfl, own, length⟩ := inductionHypothesis found
        refine ⟨action :: before, other, name, later, rfl, own, ?_⟩
        rw [starts_cons, begins]
        exact congrArg Nat.succ length

/-- Whoever sleeps when the shutdown is triggered is told of. -/
theorem Sound.told_of_asleep (sound : scene.Sound) {before later : List Action} {serial : Nat}
    {task : Task}
    (there : (scene.after deployment (before ++ [.look])).service.task? serial = some task)
    (asleep : task.isAsleep = true) :
    ∃ completion ∈ scene.told deployment (before ++ .trigger :: later),
      completion.serial = serial := by
  let poised := (scene.after deployment (before ++ [.look])).service
  have holds : task.holds = true := by
    rw [Task.holds_eq, asleep]
    rfl
  have reached : task.fate deployment (poised.poised .trigger).now .trigger =
      .ends (some task.purpose.abortion) := if_pos holds
  have ends := (sound.after deployment (before ++ [.look])).service.endingsOf_happen deployment
    .trigger serial
  rw [there, Option.elim_some, reached] at ends
  obtain ⟨completion, ended⟩ : ∃ completion, completion ∈
      (poised.happen deployment .trigger).endingsOf serial :=
    ⟨_, ends.symm ▸ List.mem_append_left _ List.mem_cons_self⟩
  obtain ⟨told, mine⟩ := List.mem_filter.1 ended
  refine ⟨completion, ?_, beq_iff_eq.1 mine⟩
  have same : ((scene.after deployment before).step deployment .trigger).2.service =
      poised.happen deployment .trigger := by
    show _ = (scene.after deployment (before ++ [.look])).service.happen deployment .trigger
    rw [after_append]
    rfl
  rw [told_append, told_cons, same]
  exact List.mem_append_right _ (List.mem_append_left _ (List.mem_reverse.2 told))

/-- Whoever begins behind the shutdown and has its abortion hidden is told of. -/
theorem Sound.told_of_late (sound : scene.Sound) {actions : List Action} {place : Nat}
    {start : Start} (triggered : scene.service.shutdown.isTriggered = true)
    (found : (starts actions)[place]? = some start)
    (hides : start.defaults deployment.settings = true) :
    ∃ completion ∈ scene.told deployment actions,
      completion.serial = scene.service.begun + place := by
  obtain ⟨before, action, name, later, rfl, begins, length⟩ := exists_of_starts found
  have middle := sound.after deployment before
  have flag : (scene.after deployment before).service.shutdown.isTriggered = true :=
    (sound.isTriggered_after before).2 (.inl triggered)
  obtain ⟨ending, born⟩ := Service.birth_of_defaults _ hides flag
  have record := sound.record_from deployment before (action :: later)
  rw [(middle.ends_at_once deployment begins born later).1, sound.begun_after, length] at record
  obtain ⟨told, mine⟩ := List.mem_filter.1 (record ▸ List.mem_cons_self)
  exact ⟨_, told, beq_iff_eq.1 mine⟩

/-- Whoever is reached and has its abortion hidden is told of. -/
theorem told_of_defaulted {deployment : Deployment} {backend : Backend} {actions : List Action}
    {serial : Nat}
    (hidden : ((start deployment backend).books deployment actions).defaulted serial = true) :
    ∃ completion ∈ (start deployment backend).told deployment actions,
      completion.serial = serial := by
  have sound := sound_start deployment backend
  have listed : (starts actions)[serial]?.any (Start.defaults deployment.settings) = true :=
    (Bool.and_eq_true_iff.1 hidden).1
  have reached : (Scene.start deployment backend).isReached deployment actions serial = true :=
    (Bool.and_eq_true_iff.1 hidden).2
  clear hidden
  obtain ⟨start, found, hides⟩ := (Option.any_eq_true _ _).1 listed
  cases first : beforeTrigger? actions with
  | none =>
    rw [isReached, first] at reached
    cases reached
  | some before =>
    rw [isReached_of_first first] at reached
    obtain ⟨-, later, rfl⟩ := exists_of_beforeTrigger? first
    rcases Bool.or_eq_true_iff.1 reached with late | asleep
    · have behind := of_decide_eq_true late
      have poised := sound.after deployment (before ++ [.trigger])
      have flag : ((Scene.start deployment backend).after deployment
          (before ++ [.trigger])).service.shutdown.isTriggered = true :=
        (sound.isTriggered_after _).2 (.inr (List.mem_append_right _ List.mem_cons_self))
      rw [begun_start_after _ _ _ rfl] at behind
      have place : (starts later)[serial - (starts before).length]? = some start := by
        rw [starts_append, List.getElem?_append_right behind] at found
        exact found
      obtain ⟨completion, told, mine⟩ := poised.told_of_late flag place hides
      rw [begun_start_after _ _ _ rfl, Nat.add_sub_cancel' behind] at mine
      refine ⟨completion, ?_, mine⟩
      rw [List.append_cons, told_append]
      exact List.mem_append_right _ told
    · obtain ⟨task, there, sleeps⟩ := (Option.any_eq_true _ _).1 asleep
      exact sound.told_of_asleep there sleeps

/-- The numbers of what is told in a run are all different. -/
theorem Sound.nodup_told (sound : scene.Sound) (deployment : Deployment) (actions : List Action) :
    ((scene.told deployment actions).map Completion.serial).Nodup := by
  refine List.nodup_iff_count_le_one.2 fun serial => ?_
  rw [List.count, List.countP_map, List.countP_eq_length_filter]
  exact sound.length_record_le deployment actions serial

/-- Whoever is reached and has its abortion hidden is told of just once, and is answered with the
empty envelope. -/
theorem record_of_defaulted {deployment : Deployment} {backend : Backend} {actions : List Action}
    {serial : Nat}
    (hidden : ((start deployment backend).books deployment actions).defaulted serial = true) :
    ∃ completion, (start deployment backend).record deployment actions serial = [completion] ∧
      completion.ending.IsEmpty := by
  have sound := sound_start deployment backend
  obtain ⟨completion, told, rfl⟩ := told_of_defaulted hidden
  have mine : completion ∈ (start deployment backend).record deployment actions completion.serial :=
    List.mem_filter.2 ⟨told, beq_self_eq_true _⟩
  obtain ⟨only, alone⟩ := List.length_eq_one_iff.1 (Nat.le_antisymm
    (sound.length_record_le deployment actions completion.serial) (List.length_pos_of_mem mine))
  rw [alone] at mine
  refine ⟨completion, ?_, ?_⟩
  · rw [alone, List.mem_singleton.1 mine]
  · exact (accounts_after deployment backend actions).hidden _
      (List.mem_map_of_mem told) hidden

/-- Of those who are reached and have their abortions hidden all are told of. -/
theorem countP_defaulted (deployment : Deployment) (backend : Backend) (actions : List Action) :
    let scene := start deployment backend
    let books := scene.books deployment actions
    ((scene.told deployment actions).map Completion.entry).countP
        (fun ended => books.defaulted ended.1) =
      (List.range (scene.after deployment actions).service.begun).countP books.defaulted := by
  intro scene books
  have sound : scene.Sound := sound_start deployment backend
  have counted : ((scene.told deployment actions).map Completion.serial).countP books.defaulted =
      (List.range (scene.after deployment actions).service.begun).countP books.defaulted := by
    refine countP_of_nodup (sound.nodup_told deployment actions) (fun number member => ?_)
      fun number hidden => ?_
    · obtain ⟨completion, told, rfl⟩ := List.mem_map.1 member
      exact (sound.gone_of_told told).1
    · obtain ⟨completion, told, rfl⟩ := told_of_defaulted hidden
      exact List.mem_map_of_mem told
  rw [← counted, List.countP_map, List.countP_map]
  rfl

end Scene

/-! ### Requests that are served one after the other -/

namespace Service

variable {deployment : Deployment} {service : Service} {books : Books} {delays : List UInt64}
  {past : List (Nat × Ending)} {held : Nat}

/-- With what requests that are served one after the other end, each under its number. -/
def endingsFrom (first : Nat) : List (Option Http.Response) → List (Nat × Ending)
  | [] => []
  | response? :: rest =>
    (response?.map fun response => (first, Ending.answered response)).toList ++
      endingsFrom (first + 1) rest

/-- The shutdown is triggered before a request is served, be it right before it or earlier. -/
def isReached (triggered : Bool) (requests : List (Bool × Http.Request)) (place : Nat) : Bool :=
  triggered || (requests.take (place + 1)).any Prod.fst

/-- The books of requests that are served one after the other. -/
def booksOf (settings : Settings) (requests : List (Bool × Http.Request)) : Books :=
  .ofStarts settings (requests.map fun asked => .request asked.2) (isReached false requests)

theorem isReached_zero (triggered triggers : Bool) (request : Http.Request)
    (rest : List (Bool × Http.Request)) :
    isReached triggered ((triggers, request) :: rest) 0 = (triggered || triggers) := by
  rw [isReached, List.take_succ_cons, List.any_cons]
  exact congrArg _ (Bool.or_false triggers)

theorem isReached_succ (triggered triggers : Bool) (request : Http.Request)
    (rest : List (Bool × Http.Request)) (place : Nat) :
    isReached triggered ((triggers, request) :: rest) (place + 1) =
      isReached (triggered || triggers) rest place := by
  rw [isReached, isReached, List.take_succ_cons, List.any_cons, Bool.or_assoc]

theorem mem_endingsFrom (first : Nat) {place : Nat} {response : Http.Response}
    {responses : List (Option Http.Response)} (found : responses[place]? = some (some response)) :
    (first + place, .answered response) ∈ endingsFrom first responses := by
  induction responses generalizing first place with
  | nil => cases found
  | cons response? rest inductionHypothesis =>
    cases place with
    | zero =>
      rw [List.getElem?_cons_zero, Option.some.injEq] at found
      rw [endingsFrom, found]
      exact List.mem_append_left _ List.mem_cons_self
    | succ place =>
      have later := inductionHypothesis (first + 1) found
      rw [Nat.add_assoc, Nat.add_comm 1] at later
      exact List.mem_append_right _ later

/-- The numbers of what has ended come one after the other. -/
theorem sublist_endingsFrom (first : Nat) (responses : List (Option Http.Response)) :
    ((endingsFrom first responses).map Prod.fst).Sublist
      (List.range' first responses.length) := by
  induction responses generalizing first with
  | nil => exact .slnil
  | cons response? rest inductionHypothesis =>
    rw [endingsFrom, List.map_append, List.length_cons, List.range'_succ]
    cases response? with
    | none => exact (inductionHypothesis (first + 1)).cons first
    | some response => exact (inductionHypothesis (first + 1)).cons_cons first

/-- A request is answered or has not ended. -/
theorem Sound.endings_served (sound : service.Sound held) (prompt : service.Prompt)
    (rests : service.Rests) (deployment : Deployment) (request : Http.Request) :
    (service.served deployment request).endings =
      ((responseOf (service.served deployment request).ended).map fun response =>
        (service.begun, Ending.answered response)).toList := by
  have served := sound.serve prompt rests deployment request
  rcases served.ended_cases with waits | ⟨time, ending, ended⟩
  · rw [endings, waits]
    rfl
  · have replies : ∀ completion ∈ (service.served deployment request).ended,
        service.Replies deployment request completion.ending :=
      fun _ => sound.replies_ended prompt rests
    rw [ended] at replies
    obtain ⟨response, same, -⟩ := replies _ List.mem_cons_self
    have same : ending = .answered _ := same
    rw [endings, ended, same]
    rfl

/-- A request that is served is logged. -/
theorem Logged.served (logged : service.Logged books delays past) (sound : service.Sound held)
    (prompt : service.Prompt) {request : Http.Request}
    (opens : books.Opens deployment.settings service.begun (.request request))
    (reached : books.reached service.begun = service.shutdown.isTriggered) :
    (service.served deployment request).Logged books delays (past ++ service.endings) := by
  have asked : (service.asked deployment request).Logged books delays (past ++ service.endings) :=
    logged.forget.begin opens reached
  unfold Service.served waitFor
  rw [passTime_eq_undergo]
  have begun := sound.begun_asked prompt deployment request
  refine asked.undergo begun.sound deployment fun member => ?_
  simpa using mem_passage member

/-- A service that is readied has its shutdown triggered if it was so before, or is so now. -/
theorem Sound.isTriggered_of_readied (sound : service.Sound held) (deployment : Deployment)
    {triggers : Bool} {shutdown : Shutdown}
    (readied : service.readied triggers = { service with shutdown }) :
    shutdown.isTriggered = (service.shutdown.isTriggered || triggers) := by
  have same : shutdown.isTriggered = (service.readied triggers).shutdown.isTriggered := by
    rw [readied]
  rw [same]
  cases triggers with
  | true =>
    rw [Bool.or_true]
    exact sound.isTriggered_happen deployment .trigger
  | false => exact (Bool.or_false _).symm

/-- The log of a service that serves requests one after the other accounts for their answers. -/
theorem Sound.accounts_serveAll (sound : service.Sound held) (prompt : service.Prompt)
    (rests : service.Rests) (deployment : Deployment) (logged : service.Logged books delays past)
    {requests : List (Bool × Http.Request)}
    (opens : ∀ place asked, requests[place]? = some asked →
      books.Opens deployment.settings (service.begun + place) (.request asked.2) ∧
        books.reached (service.begun + place) =
          isReached service.shutdown.isTriggered requests place) :
    books.Accounts delays (service.serveAll deployment requests).2.events
      ((past ++ service.endings) ++
        endingsFrom service.begun (service.serveAll deployment requests).1) := by
  induction requests generalizing service past with
  | nil =>
    show books.Accounts delays service.events (_ ++ [])
    rw [List.append_nil]
    exact logged.accounts
  | cons asked rest inductionHypothesis =>
    obtain ⟨triggers, request⟩ := asked
    obtain ⟨shutdown, readied, ready, served⟩ :=
      sound.serve_readied prompt rests deployment triggers request
    have flag := sound.isTriggered_of_readied deployment readied
    have calm : ({ service with shutdown } : Service).Rests := rests
    have same : ({ service with shutdown } : Service).Logged books delays past :=
      logged.congr rfl rfl logged.known
    obtain ⟨first, reached⟩ := opens 0 (triggers, request) rfl
    rw [isReached_zero, ← flag] at reached
    have behind := same.served ready.1 ready.2 first reached
    have accounts := inductionHypothesis served.sound served.prompt served.rests behind
      fun place asked found => by
        have later := opens (place + 1) asked found
        rwa [isReached_succ, ← flag, ← served.isTriggered, Nat.add_comm place, ← Nat.add_assoc,
          ← served.begun] at later
    rw [served.begun, ready.1.endings_served ready.2 calm, List.append_assoc] at accounts
    rw [serveAll_cons, readied]
    exact accounts

/-- Whoever is asked for behind the shutdown and has the abortion hidden is answered. -/
theorem Sound.answers_defaulted (sound : service.Sound held) (prompt : service.Prompt)
    (rests : service.Rests) (deployment : Deployment) {requests : List (Bool × Http.Request)}
    {place : Nat} {asked : Bool × Http.Request} (found : requests[place]? = some asked)
    (hides : (Start.request asked.2).defaults deployment.settings = true)
    (reached : isReached service.shutdown.isTriggered requests place = true) :
    ∃ response, (service.serveAll deployment requests).1[place]? = some (some response) := by
  induction requests generalizing service place with
  | nil => cases found
  | cons first rest inductionHypothesis =>
    obtain ⟨triggers, request⟩ := first
    obtain ⟨shutdown, readied, ready, served⟩ :=
      sound.serve_readied prompt rests deployment triggers request
    have flag := sound.isTriggered_of_readied deployment readied
    have calm : ({ service with shutdown } : Service).Rests := rests
    rw [serveAll_cons, readied]
    cases place with
    | zero =>
      cases found
      rw [isReached_zero, ← flag] at reached
      obtain ⟨ending, born⟩ := birth_of_defaults { service with shutdown } hides reached
      have ended := served.ended
      rw [born] at ended
      have told := ready.1.endings_served ready.2 calm deployment request
      cases answered : responseOf
          (({ service with shutdown } : Service).served deployment request).ended with
      | none =>
        rw [answered, endings, ended] at told
        cases told
      | some response => exact ⟨response, rfl⟩
    | succ place =>
      rw [isReached_succ, ← flag, ← served.isTriggered] at reached
      exact inductionHypothesis served.sound served.prompt served.rests found reached

theorem length_serveAll (deployment : Deployment) (service : Service)
    (requests : List (Bool × Http.Request)) :
    (service.serveAll deployment requests).1.length = requests.length := by
  induction requests generalizing service with
  | nil => rfl
  | cons asked rest inductionHypothesis => exact congrArg Nat.succ (inductionHypothesis _)

/-- Behind requests that are served one after the other the log accounts for their answers. -/
theorem accounts_served (deployment : Deployment) (backend : Backend)
    (requests : List (Bool × Http.Request)) :
    let (responses, after) := (start deployment backend).serveAll deployment requests
    (booksOf deployment.settings requests).Accounts [] after.events (endingsFrom 0 responses) := by
  have initial := Scene.sound_start deployment backend
  have rests : (start deployment backend).Rests := fun _ member => nomatch member
  exact Sound.accounts_serveAll initial.service initial.prompt rests deployment
    (logged_start deployment backend _) fun place asked found => by
      have begun : (Scene.start deployment backend).service.begun + place = place :=
        Nat.zero_add place
      rw [begun]
      refine ⟨Books.opens_ofStarts ?_, rfl⟩
      rw [List.getElem?_map, found]
      rfl

/-- Whoever is asked for behind the shutdown and has the abortion hidden is answered with the empty
envelope. -/
theorem response_of_defaulted {deployment : Deployment} (backend : Backend)
    {requests : List (Bool × Http.Request)} {place : Nat}
    (hidden : (booksOf deployment.settings requests).defaulted place = true) :
    ∃ response, ((start deployment backend).serveAll deployment requests).1[place]? =
        some (some response) ∧ (Ending.answered response).IsEmpty := by
  have initial := Scene.sound_start deployment backend
  have rests : (start deployment backend).Rests := fun _ member => nomatch member
  have listed : (requests.map fun asked => Start.request asked.2)[place]?.any
      (Start.defaults deployment.settings) = true := (Bool.and_eq_true_iff.1 hidden).1
  have reached : isReached false requests place = true := (Bool.and_eq_true_iff.1 hidden).2
  obtain ⟨start, found, hides⟩ := (Option.any_eq_true _ _).1 listed
  rw [List.getElem?_map, Option.map_eq_some_iff] at found
  obtain ⟨asked, found, rfl⟩ := found
  obtain ⟨response, given⟩ :=
    initial.service.answers_defaulted initial.prompt rests deployment found hides reached
  have told := mem_endingsFrom 0 given
  rw [Nat.zero_add] at told
  exact ⟨response, given, (accounts_served deployment backend requests).hidden _ told hidden⟩

/-- Of the requests that are asked for behind the shutdown and have their abortions hidden all are
answered. -/
theorem countP_endingsFrom (deployment : Deployment) (backend : Backend)
    (requests : List (Bool × Http.Request)) :
    let books := booksOf deployment.settings requests
    (endingsFrom 0 ((start deployment backend).serveAll deployment requests).1).countP
        (fun ended => books.defaulted ended.1) =
      (List.range requests.length).countP books.defaulted := by
  intro books
  have numbers := sublist_endingsFrom 0 ((start deployment backend).serveAll deployment requests).1
  rw [length_serveAll] at numbers
  have counted : ((endingsFrom 0 ((start deployment backend).serveAll deployment requests).1).map
      Prod.fst).countP books.defaulted = (List.range requests.length).countP books.defaulted := by
    refine countP_of_nodup (numbers.nodup List.nodup_range') (fun number member => ?_)
      fun number hidden => ?_
    · have known := (List.mem_range'_1.1 (numbers.subset member)).2
      rwa [Nat.zero_add] at known
    · obtain ⟨response, given, -⟩ := response_of_defaulted backend hidden
      have told := mem_endingsFrom 0 given
      rw [Nat.zero_add] at told
      exact List.mem_map_of_mem told
  rw [← counted, List.countP_map]
  rfl

end Service

/-! ### The log accounts for everything -/

/-- At any point of any run, be it a scene or requests that are served one after the other, the log
accounts for all that has ended. As many delays are logged to be cut short as slept when the
shutdown was first triggered: whoever comes behind that adds none, and neither does any later
trigger. As many abortions are logged as there are operations with abortions to hide that the
shutdown reaches, and each of these is answered nonetheless, once and with the empty envelope. -/
theorem log_accounted :
    (∀ deployment backend actions,
      let scene := Scene.start deployment backend
      let books := scene.books deployment actions
      let after := (scene.after deployment actions).service
      books.Accounts (scene.sleepers deployment actions) after.events
          ((scene.told deployment actions).map Completion.entry) ∧
        after.events.countP (Event.reads "Delay interrupted by shutdown") =
          (scene.sleepers deployment actions).length ∧
        after.events.countP (Event.reads "Demo service failed; returning default response") =
          (List.range after.begun).countP books.defaulted ∧
        ∀ serial, books.defaulted serial = true → ∃ completion,
          scene.record deployment actions serial = [completion] ∧ completion.ending.IsEmpty) ∧
    ∀ deployment backend requests,
      let (responses, after) := (Service.start deployment backend).serveAll deployment requests
      let books := Service.booksOf deployment.settings requests
      books.Accounts [] after.events (Service.endingsFrom 0 responses) ∧
        after.events.countP (Event.reads "Delay interrupted by shutdown") = 0 ∧
        after.events.countP (Event.reads "Demo service failed; returning default response") =
          (List.range requests.length).countP books.defaulted ∧
        ∀ place, books.defaulted place = true → ∃ response,
          responses[place]? = some (some response) ∧ (Ending.answered response).IsEmpty := by
  refine ⟨fun deployment backend actions => ?_, fun deployment backend requests => ?_⟩
  · have accounts := Scene.accounts_after deployment backend actions
    refine ⟨accounts, accounts.countP_interrupted, ?_, fun _ => Scene.record_of_defaulted⟩
    exact accounts.countP_defaulted.trans (Scene.countP_defaulted deployment backend actions)
  · have accounts := Service.accounts_served deployment backend requests
    refine ⟨accounts, accounts.countP_interrupted, ?_,
      fun _ => Service.response_of_defaulted backend⟩
    exact accounts.countP_defaulted.trans (Service.countP_endingsFrom deployment backend requests)

/-- Of one operation that is complete, one that is cut short, and one that comes too late but hides
its abortion, each is logged once, and the second trigger finds nobody. -/
theorem log_accounted_behind_trigger :
    let deployment : Deployment := ⟨{}, fun _ => "identifier"⟩
    let actions : List Action :=
      [.operation "quick" 0 0, .operation "slow" 5 0, .trigger, .service "late" .logAndDefault {},
        .trigger]
    let scene := Scene.start deployment {}
    let events := (scene.after deployment actions).service.events
    events.countP (Event.reads "Demo operation complete") = 1 ∧
      events.countP (Event.reads "Delay interrupted by shutdown") = 1 ∧
      events.countP (Event.reads "Demo service failed; returning default response") = 1 ∧
      ∃ completion, scene.record deployment actions 2 = [completion] ∧
        completion.ending.IsEmpty := by
  intro deployment actions scene events
  obtain ⟨accounts, interrupted, defaulted, answered⟩ := log_accounted.1 deployment {} actions
  have completes : ((scene.told deployment actions).map Completion.entry).countP
      (scene.books deployment actions).completes = 1 := by decide +kernel
  have sleepers : scene.sleepers deployment actions = [5] := by decide +kernel
  have hidden : (List.range (scene.after deployment actions).service.begun).filter
      (scene.books deployment actions).defaulted = [2] := by decide +kernel
  refine ⟨accounts.complete.trans completes, ?_, ?_, answered 2 ?_⟩
  · rw [interrupted, sleepers]
    rfl
  · rw [defaulted, List.countP_eq_length_filter, hidden]
    rfl
  · exact (List.mem_filter.1 (hidden ▸ List.mem_cons_self)).2

end LatencyService
