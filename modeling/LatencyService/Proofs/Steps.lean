/-
What happens in a scene, step by step. In every step first some things happen
to the service as a whole, in an order that this file tells; then a task may
begin, or a receiver may be taken or let go. The history of a run is the list
of all that happened in it, and what is observed of a task that had begun
before is told by that history.
-/

import LatencyService.Proofs.History

namespace LatencyService

/-! ### What an action begins -/

/-- The task that an action begins, and its name. -/
def Action.start? : Action → Option (String × Start)
  | .request name asked => some (name, .request asked)
  | .operation name delaySeconds rounds => some (name, .operation delaySeconds rounds)
  | .delay name delaySeconds => some (name, .delay delaySeconds)
  | .service name policy order => some (name, .service policy (Service.atLeastZero order.delay))
  | .wait name => some (name, .wait)
  | _ => none

/-- The names under which receivers are held after an action. -/
def Action.heldAfter (names : List String) : Action → List String
  | .subscribe name => names.filter (· != name) ++ [name]
  | .letGo name => names.filter (· != name)
  | _ => names

namespace Scene

/-! ### What happens in a step -/

/-- The service when every busy loop has ended. -/
def settled (deployment : Deployment) (scene : Scene) : Service := scene.service.endBusy deployment

/-- What happens to the service in a step, before a task begins or a receiver is taken. -/
def happenings (deployment : Deployment) (scene : Scene) : Action → List Happening
  | .cancel name => ((scene.handles.lookup name).map Happening.cancel).toList ++ [.settle]
  | .trigger => [.settle, .trigger]
  | .advance milliseconds => [.settle, .move ((scene.settled deployment).now + milliseconds)]
  | .join name =>
    .settle :: match scene.handles.lookup name with
      | none => []
      | some serial =>
        let service := scene.settled deployment
        service.passage deployment serial (some (service.now + patience))
          (3 * service.tasks.length + 3)
  | _ => [.settle]

/-- The receiver of a name is let go, if there is one. -/
def releaseOf (scene : Scene) (name : String) (service : Service) : Service :=
  if (scene.receivers.lookup name).isSome then
    { service with shutdown := service.shutdown.release }
  else service

/-- What an action does to the service when everything has happened that happens in its step. -/
def aftermath (deployment : Deployment) (scene : Scene) (action : Action) (service : Service) :
    Service :=
  match action.start? with
  | some (_, start) => service.begin deployment start
  | none =>
    match action with
    | .subscribe name =>
      let service := scene.releaseOf name service
      { service with shutdown := service.shutdown.subscribe.2 }
    | .letGo name => scene.releaseOf name service
    | _ => service

variable (deployment : Deployment) (scene : Scene)

theorem service_letGo (name : String) :
    (scene.letGo name).service = scene.releaseOf name scene.service := by
  rw [letGo, releaseOf]
  split <;> rfl

/-- A step is what happens in it and then the rest of what its action does. -/
theorem service_perform (action : Action) :
    (scene.perform deployment action).2.service =
      scene.aftermath deployment action
        (scene.service.undergo deployment (scene.happenings deployment action)) := by
  cases action with
  | subscribe name =>
    show ({ ((scene.change (·.endBusy deployment)).letGo name).service with
      shutdown :=
        ((scene.change (·.endBusy deployment)).letGo name).service.shutdown.subscribe.2 } :
          Service) = _
    rw [service_letGo]
    rfl
  | receive name =>
    simp only [perform, act, receive, change]
    split <;> rfl
  | letGo name => exact service_letGo (scene.change (·.endBusy deployment)) name
  | cancel name =>
    simp only [perform, cancel, happenings]
    cases scene.handles.lookup name with
    | none => rfl
    | some serial =>
      simp only [Option.map_some, Option.toList_some, Service.undergo, List.foldl_append,
        List.foldl_cons, List.foldl_nil, Service.happen]
      cases scene.service.tasks.find? (·.serial == serial) with
      | none => rfl
      | some task => rfl
  | join name =>
    simp only [perform, act, join, change, happenings]
    cases scene.handles.lookup name with
    | none => rfl
    | some serial =>
      simp only [Service.waitFor, Service.passTime_eq_undergo]
      split <;> rfl
  | _ => rfl

/-! ### Receivers that are held by name -/

/-- The names under which receivers are held. -/
def held (scene : Scene) : List String := scene.receivers.map Prod.fst

variable {deployment scene}

theorem isSome_lookup_iff {name : String} :
    (scene.receivers.lookup name).isSome = true ↔ name ∈ scene.held := by
  rw [List.lookup_isSome_iff, held, List.mem_map]
  refine exists_congr fun entry => and_congr_right fun _ => ?_
  rw [beq_iff_eq, eq_comm]

variable (deployment scene)

theorem held_letGo (name : String) : (scene.letGo name).held = scene.held.filter (· != name) := by
  have filtered : (scene.receivers.filter (·.1 != name)).map Prod.fst =
      scene.held.filter (· != name) := by
    rw [held, List.filter_map]
    rfl
  rw [letGo]
  split
  · exact filtered
  · rename_i absent
    rw [isSome_lookup_iff] at absent
    refine (List.filter_eq_self.2 fun other member => ?_).symm
    simpa using fun same : other = name => absent (same ▸ member)

theorem held_hold (name : String) :
    (scene.hold name).held = scene.held.filter (· != name) ++ [name] := by
  show ((scene.letGo name).receivers ++ [_]).map Prod.fst = _
  rw [List.map_append, ← held_letGo]
  rfl

theorem held_receive (name : String) : (scene.receive name).2.held = scene.held := by
  unfold receive
  split
  · rfl
  · show (List.map _ _).map Prod.fst = _
    rw [List.map_map]
    refine List.map_congr_left fun entry _ => ?_
    by_cases same : entry.1 = name <;> simp [same]

theorem held_cancel (name : String) : (scene.cancel name).2.held = scene.held := by
  unfold cancel
  split
  · rfl
  · split <;> rfl

theorem held_join (name : String) : (scene.join deployment name).2.held = scene.held := by
  unfold join
  split
  · rfl
  · dsimp only
    split <;> rfl

theorem held_perform (action : Action) :
    (scene.perform deployment action).2.held = action.heldAfter scene.held := by
  cases action with
  | subscribe name => exact held_hold (scene.change (·.endBusy deployment)) name
  | receive name => exact held_receive (scene.change (·.endBusy deployment)) name
  | letGo name => exact held_letGo (scene.change (·.endBusy deployment)) name
  | cancel name => exact held_cancel scene name
  | join name => exact held_join deployment (scene.change (·.endBusy deployment)) name
  | _ => rfl

/-! ### Names of tasks -/

theorem handles_join (name : String) :
    ∀ entry ∈ (scene.join deployment name).2.handles, entry ∈ scene.handles := by
  unfold join
  split
  · exact fun _ member => member
  · dsimp only
    split
    · exact fun _ member => member
    · exact fun _ member => (List.mem_filter.1 member).1

theorem handles_cancel (name : String) :
    ∀ entry ∈ (scene.cancel name).2.handles, entry ∈ scene.handles := by
  unfold cancel
  split
  · exact fun _ member => member
  · split <;> exact fun _ member => (List.mem_filter.1 member).1

theorem handles_letGo (name : String) : (scene.letGo name).handles = scene.handles := by
  unfold letGo
  split <;> rfl

theorem handles_receive (name : String) : (scene.receive name).2.handles = scene.handles := by
  unfold receive
  split <;> rfl

/-- Whoever can be joined or cancelled after a step could be before, or has begun in it. -/
theorem handles_perform (action : Action) :
    ∀ entry ∈ (scene.perform deployment action).2.handles,
      entry ∈ scene.handles ∨
        action.start?.isSome = true ∧ entry.2 = (scene.settled deployment).begun := by
  have started (name : String) (start : Nat → Service → Service) (entry : String × Nat)
      (member : entry ∈ ((scene.change (·.endBusy deployment)).startTask name start).handles) :
      entry ∈ scene.handles ∨ entry.2 = (scene.settled deployment).begun := by
    rcases List.mem_cons.1 member with same | old
    · exact .inr (same ▸ rfl)
    · exact .inl (List.mem_filter.1 old).1
  cases action with
  | request | operation | delay | service | wait =>
    exact fun entry member => (started _ _ entry member).imp_right fun same => ⟨rfl, same⟩
  | subscribe name =>
    exact fun entry member =>
      .inl (handles_letGo (scene.change (·.endBusy deployment)) name ▸ member)
  | receive name =>
    exact fun entry member =>
      .inl (handles_receive (scene.change (·.endBusy deployment)) name ▸ member)
  | letGo name =>
    exact fun entry member =>
      .inl (handles_letGo (scene.change (·.endBusy deployment)) name ▸ member)
  | cancel name => exact fun entry member => .inl (handles_cancel scene name entry member)
  | join name =>
    exact fun entry member => .inl
      (handles_join deployment (scene.change (·.endBusy deployment)) name entry member)
  | trigger | look | advance => exact fun _ member => .inl member

/-! ### Scenes stay sound -/

end Scene

namespace Service

variable {service : Service} {held : Nat}

/-- One more receiver is held beside those of the tasks. -/
theorem Sound.subscribe (sound : service.Sound held) :
    ({ service with shutdown := service.shutdown.subscribe.2 } : Service).Sound (held + 1) := by
  have counted : service.shutdown.receiverCount = held + service.tasks.countP Task.holds :=
    sound.counted
  refine ⟨sound.distinct, ?_, sound.numbered, sound.behind, sound.fitting, sound.drained⟩
  show service.shutdown.receiverCount + 1 = held + 1 + service.tasks.countP Task.holds
  omega

/-- One of the receivers beside those of the tasks is let go. -/
theorem Sound.release (sound : service.Sound (held + 1)) :
    ({ service with shutdown := service.shutdown.release } : Service).Sound held := by
  have counted : service.shutdown.receiverCount = held + 1 + service.tasks.countP Task.holds :=
    sound.counted
  refine ⟨sound.distinct, ?_, sound.numbered, sound.behind, sound.fitting, sound.drained⟩
  show service.shutdown.receiverCount - 1 = held + service.tasks.countP Task.holds
  omega

end Service

namespace Scene

/-- What stays true of a scene. -/
structure Sound (scene : Scene) : Prop where
  service : scene.service.Sound scene.held.length
  prompt : scene.service.Prompt
  named : scene.held.Nodup
  /-- Only tasks that have begun can be joined and cancelled. -/
  handled : ∀ entry ∈ scene.handles, entry.2 < scene.service.begun

variable {deployment : Deployment} {scene : Scene}

theorem sound_releaseOf {service : Service} (sound : service.Sound scene.held.length)
    (named : scene.held.Nodup) (name : String) :
    (scene.releaseOf name service).Sound (scene.held.filter (· != name)).length := by
  rw [releaseOf, ← named.erase_eq_filter]
  split
  · rename_i present
    have member : name ∈ scene.held := isSome_lookup_iff.1 present
    have length : scene.held.length = (scene.held.erase name).length + 1 := by
      rw [List.length_erase_of_mem member]
      have positive := List.length_pos_of_mem member
      omega
    rw [length] at sound
    exact sound.release
  · rename_i absent
    rw [isSome_lookup_iff] at absent
    rwa [List.erase_of_not_mem absent]

theorem aftermath_of_start? {action : Action} {named : String × Start}
    (starts : action.start? = some named) (service : Service) :
    scene.aftermath deployment action service = service.begin deployment named.2 := by
  unfold aftermath
  rw [starts]

theorem heldAfter_of_start? {action : Action} {named : String × Start}
    (starts : action.start? = some named) (names : List String) :
    action.heldAfter names = names := by
  cases action <;> first | rfl | cases starts

/-- What an action begins or takes keeps the service sound. -/
theorem sound_aftermath (deployment : Deployment) {service : Service}
    (sound : service.Sound scene.held.length) (prompt : service.Prompt) (named : scene.held.Nodup)
    (action : Action) :
    (scene.aftermath deployment action service).Sound (action.heldAfter scene.held).length ∧
      (scene.aftermath deployment action service).Prompt := by
  cases starts : action.start? with
  | some started =>
    rw [aftermath_of_start? starts, heldAfter_of_start? starts]
    have begun := sound.begin prompt deployment started.2
    exact ⟨begun.sound, begun.prompt⟩
  | none =>
    cases action with
    | subscribe name =>
      refine ⟨?_, ?_⟩
      · show Service.Sound _ (scene.held.filter (· != name) ++ [name]).length
        rw [List.length_append]
        exact (sound_releaseOf sound named name).subscribe
      · simp only [aftermath, Action.start?, releaseOf]
        split <;> exact prompt
    | letGo name =>
      refine ⟨sound_releaseOf sound named name, ?_⟩
      simp only [aftermath, Action.start?, releaseOf]
      split <;> exact prompt
    | request | operation | delay | service | wait => cases starts
    | receive | cancel | trigger | look | advance | join => exact ⟨sound, prompt⟩

/-- How many tasks have begun after an action. -/
theorem begun_aftermath {service : Service} (sound : service.Sound scene.held.length)
    (prompt : service.Prompt) (action : Action) :
    (scene.aftermath deployment action service).begun =
      service.begun + action.start?.isSome.toNat := by
  cases starts : action.start? with
  | some started =>
    rw [aftermath_of_start? starts]
    exact (sound.begin prompt deployment started.2).begun
  | none =>
    cases action with
    | subscribe name | letGo name =>
      simp only [aftermath, Action.start?, releaseOf]
      split <;> rfl
    | request | operation | delay | service | wait => cases starts
    | receive | cancel | trigger | look | advance | join => rfl

theorem nodup_heldAfter {names : List String} (nodup : names.Nodup) (action : Action) :
    (action.heldAfter names).Nodup := by
  cases action with
  | subscribe name =>
    refine List.nodup_append.2 ⟨nodup.filter _, List.nodup_singleton _, ?_⟩
    intro other among new member same
    rw [same, List.mem_singleton.1 member] at among
    simpa using (List.mem_filter.1 among).2
  | letGo name => exact nodup.filter _
  | _ => exact nodup

theorem Sound.begun_settled (sound : scene.Sound) :
    (scene.settled deployment).begun = scene.service.begun :=
  sound.service.begun_happen deployment .settle

theorem Sound.begun_perform (sound : scene.Sound) (action : Action) :
    (scene.perform deployment action).2.service.begun =
      scene.service.begun + action.start?.isSome.toNat := by
  have undergone := sound.service.undergo deployment (scene.happenings deployment action)
  have calm := sound.prompt.undergo sound.service deployment (scene.happenings deployment action)
  rw [service_perform, begun_aftermath undergone calm, sound.service.begun_undergo]

/-- Scenes stay sound under every action. -/
theorem Sound.perform (sound : scene.Sound) (deployment : Deployment) (action : Action) :
    (scene.perform deployment action).2.Sound := by
  have undergone := sound.service.undergo deployment (scene.happenings deployment action)
  have calm := sound.prompt.undergo sound.service deployment (scene.happenings deployment action)
  have after := sound_aftermath deployment undergone calm sound.named action
  rw [← service_perform, ← held_perform] at after
  refine ⟨after.1, after.2, ?_, fun entry member => ?_⟩
  · rw [held_perform]
    exact nodup_heldAfter sound.named action
  · rw [sound.begun_perform]
    rcases handles_perform deployment scene action entry member with old | ⟨starts, new⟩
    · exact Nat.lt_add_right _ (sound.handled entry old)
    · rw [starts, new, sound.begun_settled]
      exact Nat.lt_succ_self _

/-! ### What is seen of a step -/

/-- An action that begins nothing changes no more than who holds receivers. -/
theorem aftermath_of_none (deployment : Deployment) (scene : Scene) {action : Action}
    (starts : action.start? = none) (service : Service) :
    ∃ shutdown : Shutdown, shutdown.isTriggered = service.shutdown.isTriggered ∧
      scene.aftermath deployment action service = { service with shutdown } := by
  cases action with
  | subscribe name =>
    refine ⟨(scene.aftermath deployment (.subscribe name) service).shutdown, ?_, ?_⟩
    · simp only [aftermath, Action.start?, releaseOf]
      split <;> rfl
    · simp only [aftermath, Action.start?, releaseOf]
      split <;> rfl
  | letGo name =>
    refine ⟨(scene.aftermath deployment (.letGo name) service).shutdown, ?_, ?_⟩
    · simp only [aftermath, Action.start?, releaseOf]
      split <;> rfl
    · simp only [aftermath, Action.start?, releaseOf]
      split <;> rfl
  | request | operation | delay | service | wait => cases starts
  | receive | cancel | trigger | look | advance | join =>
    exact ⟨service.shutdown, rfl, rfl⟩

/-- A scene in which nothing is left to be told. -/
def quiet (scene : Scene) : Scene := scene.change fun service => { service with ended := [] }

theorem Sound.quiet (sound : scene.Sound) : scene.quiet.Sound where
  service := ⟨sound.service.distinct, sound.service.counted, sound.service.numbered,
    sound.service.behind, sound.service.fitting, sound.service.drained⟩
  prompt := sound.prompt
  named := sound.named
  handled := sound.handled

/-- Scenes stay sound in every step. -/
theorem Sound.step (sound : scene.Sound) (deployment : Deployment) (action : Action) :
    (scene.step deployment action).2.Sound := sound.quiet.perform deployment action

/-- The service when everything has happened that happens in a step, before its action does the
rest. -/
def undergone (deployment : Deployment) (scene : Scene) (action : Action) : Service :=
  scene.quiet.service.undergo deployment (scene.quiet.happenings deployment action)

theorem Sound.undergone (sound : scene.Sound) (deployment : Deployment) (action : Action) :
    (scene.undergone deployment action).Sound scene.held.length ∧
      (scene.undergone deployment action).Prompt :=
  ⟨sound.quiet.service.undergo deployment _,
    sound.quiet.prompt.undergo sound.quiet.service deployment _⟩

theorem Sound.begun_undergone (sound : scene.Sound) (deployment : Deployment) (action : Action) :
    (scene.undergone deployment action).begun = scene.service.begun :=
  sound.quiet.service.begun_undergo _

/-- Behind all that happens in a step its action begins what it begins, or it changes no more than
who holds receivers. -/
theorem service_step (deployment : Deployment) (scene : Scene) (action : Action) :
    (∃ named, action.start? = some named ∧ (scene.step deployment action).2.service =
        (scene.undergone deployment action).begin deployment named.2) ∨
      (action.start? = none ∧ ∃ shutdown : Shutdown,
        shutdown.isTriggered = (scene.undergone deployment action).shutdown.isTriggered ∧
          (scene.step deployment action).2.service =
            { scene.undergone deployment action with shutdown }) := by
  have performed := service_perform deployment scene.quiet action
  cases starts : action.start? with
  | some named =>
    rw [aftermath_of_start? starts] at performed
    exact .inl ⟨named, rfl, performed⟩
  | none =>
    obtain ⟨shutdown, flag, same⟩ := aftermath_of_none deployment scene.quiet starts
      (scene.undergone deployment action)
    exact .inr ⟨rfl, shutdown, flag, performed.trans same⟩

/-- The action concerns no task but the one that it begins. -/
theorem Sound.view_step (sound : scene.Sound) (deployment : Deployment) (action : Action)
    {serial : Nat} (other : action.start?.isSome = true → serial ≠ scene.service.begun) :
    (scene.step deployment action).2.service.course serial =
        (scene.undergone deployment action).course serial ∧
      (scene.step deployment action).2.service.endingsOf serial =
        (scene.undergone deployment action).endingsOf serial := by
  rcases service_step deployment scene action with ⟨named, starts, same⟩ | ⟨-, shutdown, -, same⟩
  · obtain ⟨undergone, calm⟩ := sound.undergone deployment action
    have begun := undergone.begin calm deployment named.2
    have other : serial ≠ (scene.undergone deployment action).begun := by
      rw [sound.begun_undergone]
      exact other (starts ▸ rfl)
    rw [same, Service.course, begun.now, begun.task?_other serial other,
      begun.endingsOf_other serial other]
    exact ⟨rfl, rfl⟩
  · rw [same]
    exact ⟨rfl, rfl⟩

/-- What a step tells, in the order of telling. -/
def tellings (observation : Observation) : List Completion := observation.ended.map Prod.snd

theorem tellings_step (action : Action) :
    tellings (scene.step deployment action).1 =
      (scene.step deployment action).2.service.ended.reverse := by
  show (List.map _ _).map Prod.snd = _
  rw [List.map_map]
  exact List.map_id _

/-- A task is led through a step by what happens in it, unless it is the one that begins. -/
theorem Sound.course_step (sound : scene.Sound) (deployment : Deployment) (action : Action)
    {serial : Nat}
    (other : action.start?.isSome = true → serial ≠ scene.service.begun) :
    (scene.step deployment action).2.service.course serial =
      (scene.service.course serial).follow deployment
        (scene.quiet.happenings deployment action) := by
  rw [(sound.view_step deployment action other).1]
  exact sound.quiet.service.course_undergo _ serial

theorem Sound.tellings_step (sound : scene.Sound) (deployment : Deployment) (action : Action)
    {serial : Nat}
    (other : action.start?.isSome = true → serial ≠ scene.service.begun) :
    (tellings (scene.step deployment action).1).filter (·.serial == serial) =
      (scene.service.course serial).told deployment
        (scene.quiet.happenings deployment action) := by
  rw [Scene.tellings_step, List.filter_reverse]
  show ((scene.step deployment action).2.service.endingsOf serial).reverse = _
  rw [(sound.view_step deployment action other).2, Scene.undergone,
    sound.quiet.service.endingsOf_undergo, List.reverse_append, List.reverse_reverse]
  rfl

/-! ### The step in which a task begins -/

/-- When the busy loops have ended, the same is born as before. -/
theorem Sound.birth_settled (sound : scene.Sound) (deployment : Deployment) (start : Start) :
    (scene.quiet.settled deployment).birth deployment start =
      scene.service.birth deployment start := by
  have quiet := sound.quiet.service
  have now : (scene.quiet.settled deployment).now = scene.service.now :=
    quiet.now_happen deployment .settle
  have begun : (scene.quiet.settled deployment).begun = scene.service.begun :=
    quiet.begun_happen deployment .settle
  have backend : (scene.quiet.settled deployment).backend = scene.service.backend :=
    quiet.backend_happen deployment .settle
  have flag : (scene.quiet.settled deployment).shutdown.isTriggered =
      scene.service.shutdown.isTriggered := quiet.isTriggered_happen deployment .settle
  have sent : (scene.quiet.settled deployment).shutdown.signals.sent =
      scene.service.shutdown.signals.sent := quiet.sent_happen deployment .settle
  exact Service.birth_congr now begun backend flag sent start

theorem Sound.step_begins (sound : scene.Sound) (deployment : Deployment) {action : Action}
    {named : String × Start} (starts : action.start? = some named) :
    (scene.step deployment action).2.service.course scene.service.begun =
        ⟨scene.service.now,
          (scene.service.birth deployment named.2).rest deployment scene.service.now⟩ ∧
      (tellings (scene.step deployment action).1).filter (·.serial == scene.service.begun) =
        (scene.service.birth deployment named.2).completions deployment scene.service.begun
          scene.service.now := by
  have quiet := sound.quiet
  have undergone : (scene.quiet.settled deployment).Sound scene.quiet.held.length :=
    quiet.service.happen deployment .settle
  have calm : (scene.quiet.settled deployment).Prompt :=
    quiet.prompt.happen quiet.service deployment .settle
  have happenings : scene.quiet.happenings deployment action = [.settle] := by
    cases action <;> first | rfl | cases starts
  have after : (scene.step deployment action).2.service =
      (scene.quiet.settled deployment).begin deployment named.2 := by
    show (scene.quiet.perform deployment action).2.service = _
    rw [service_perform, happenings, aftermath_of_start? starts]
    rfl
  have begun := undergone.begin calm deployment named.2
  have now : (scene.quiet.settled deployment).now = scene.service.now :=
    quiet.service.now_happen deployment .settle
  have next : (scene.quiet.settled deployment).begun = scene.service.begun := quiet.begun_settled
  have unborn : scene.quiet.service.task? scene.service.begun = none :=
    quiet.service.task?_unborn (Nat.le_refl _)
  have silent : (scene.quiet.settled deployment).endingsOf scene.service.begun = [] := by
    have endings := quiet.service.endingsOf_happen deployment .settle scene.service.begun
    rwa [unborn] at endings
  have born := sound.birth_settled deployment named.2
  have course := begun.task?
  have endings := begun.endingsOf
  rw [next, now, born] at course endings
  rw [silent, List.append_nil] at endings
  rw [Scene.tellings_step, List.filter_reverse, after]
  refine ⟨?_, ?_⟩
  · rw [Service.course, begun.now, now, course]
  · show (Service.endingsOf _ _).reverse = _
    rw [endings, Birth.reverse_completions]

/-! ### Runs -/

/-- The scene in which a service starts. -/
def start (deployment : Deployment) (backend : Backend) : Scene :=
  { service := Service.start deployment backend }

/-- The scene that actions leave. -/
def after (deployment : Deployment) (scene : Scene) (actions : List Action) : Scene :=
  (scene.play deployment actions).2

/-- All that happens while actions are carried out. -/
def history (deployment : Deployment) (scene : Scene) : List Action → List Happening
  | [] => []
  | action :: rest =>
    scene.quiet.happenings deployment action ++
      history deployment (scene.step deployment action).2 rest

/-- All that is told of a task in the observations of a run, in the order of telling. -/
def record (deployment : Deployment) (scene : Scene) (actions : List Action) (serial : Nat) :
    List Completion :=
  ((scene.play deployment actions).1.flatMap tellings).filter (·.serial == serial)

theorem sound_start (deployment : Deployment) (backend : Backend) :
    (start deployment backend).Sound where
  service := ⟨List.nodup_nil, rfl, fun _ member => (nomatch member),
    fun _ member => (nomatch member), fun _ member => (nomatch member),
    fun _ _ member => (nomatch member)⟩
  prompt _ member := nomatch member
  named := List.nodup_nil
  handled _ member := nomatch member

theorem after_nil : scene.after deployment [] = scene := rfl

theorem after_cons (action : Action) (rest : List Action) :
    scene.after deployment (action :: rest) =
      (scene.step deployment action).2.after deployment rest := rfl

theorem after_append (first second : List Action) :
    scene.after deployment (first ++ second) =
      (scene.after deployment first).after deployment second := by
  induction first generalizing scene with
  | nil => rfl
  | cons action rest inductionHypothesis => exact inductionHypothesis

theorem record_cons (action : Action) (rest : List Action) (serial : Nat) :
    scene.record deployment (action :: rest) serial =
      (tellings (scene.step deployment action).1).filter (·.serial == serial) ++
        (scene.step deployment action).2.record deployment rest serial := by
  show (List.flatMap _ (_ :: _)).filter _ = _
  rw [List.flatMap_cons, List.filter_append]
  rfl

theorem record_append (first second : List Action) (serial : Nat) :
    scene.record deployment (first ++ second) serial =
      scene.record deployment first serial ++
        (scene.after deployment first).record deployment second serial := by
  induction first generalizing scene with
  | nil => rfl
  | cons action rest inductionHypothesis =>
    rw [List.cons_append, record_cons, record_cons, inductionHypothesis, List.append_assoc]
    rfl

/-- Scenes stay sound in every run. -/
theorem Sound.after (sound : scene.Sound) (deployment : Deployment) (actions : List Action) :
    (scene.after deployment actions).Sound := by
  induction actions generalizing scene with
  | nil => exact sound
  | cons action rest inductionHypothesis => exact inductionHypothesis (sound.step deployment action)

theorem Sound.begun_step (sound : scene.Sound) (deployment : Deployment) (action : Action) :
    (scene.step deployment action).2.service.begun =
      scene.service.begun + action.start?.isSome.toNat := sound.quiet.begun_perform action

/-- A number that was given out before a step is given out behind it. -/
theorem Sound.lt_begun_step (sound : scene.Sound) (deployment : Deployment) (action : Action)
    {serial : Nat} (known : serial < scene.service.begun) :
    serial < (scene.step deployment action).2.service.begun := by
  rw [sound.begun_step]
  exact Nat.lt_add_right _ known

/-- The number of a task that begins in a step is given out behind it. -/
theorem Sound.begun_lt_step (sound : scene.Sound) (deployment : Deployment) {action : Action}
    {named : String × Start} (starts : action.start? = some named) :
    scene.service.begun < (scene.step deployment action).2.service.begun := by
  rw [sound.begun_step, starts]
  exact Nat.lt_succ_self _

theorem Sound.begun_le_after (sound : scene.Sound) (deployment : Deployment)
    (actions : List Action) :
    scene.service.begun ≤ (scene.after deployment actions).service.begun := by
  induction actions generalizing scene with
  | nil => exact Nat.le_refl _
  | cons action rest inductionHypothesis =>
    have grows := sound.begun_step deployment action
    have later := inductionHypothesis (sound.step deployment action)
    rw [after_cons]
    omega

/-- A task that has begun is led through a run by its history. -/
theorem Sound.course_after (sound : scene.Sound) (deployment : Deployment) (actions : List Action)
    {serial : Nat} (known : serial < scene.service.begun) :
    (scene.after deployment actions).service.course serial =
      (scene.service.course serial).follow deployment (scene.history deployment actions) := by
  induction actions generalizing scene with
  | nil => rfl
  | cons action rest inductionHypothesis =>
    have later := sound.lt_begun_step deployment action known
    rw [after_cons, history, Course.follow_append,
      inductionHypothesis (sound.step deployment action) later,
      sound.course_step deployment action fun _ => Nat.ne_of_lt known]

/-- What is told of a task that has begun is told by the history. -/
theorem Sound.record_eq_told (sound : scene.Sound) (deployment : Deployment)
    (actions : List Action) {serial : Nat} (known : serial < scene.service.begun) :
    scene.record deployment actions serial =
      (scene.service.course serial).told deployment (scene.history deployment actions) := by
  induction actions generalizing scene with
  | nil => rfl
  | cons action rest inductionHypothesis =>
    have later := sound.lt_begun_step deployment action known
    rw [record_cons, history, Course.told_append,
      inductionHypothesis (sound.step deployment action) later,
      sound.tellings_step deployment action fun _ => Nat.ne_of_lt known,
      sound.course_step deployment action fun _ => Nat.ne_of_lt known]

/-- Nothing is told of a task before it begins. -/
theorem Sound.record_unborn (sound : scene.Sound) (deployment : Deployment)
    (actions : List Action) {serial : Nat}
    (unborn : (scene.after deployment actions).service.begun ≤ serial) :
    scene.record deployment actions serial = [] := by
  induction actions generalizing scene with
  | nil => rfl
  | cons action rest inductionHypothesis =>
    have next := (sound.step deployment action).begun_le_after deployment rest
    rw [after_cons] at unborn
    have current := sound.begun_step deployment action
    have absent : scene.service.task? serial = none :=
      sound.service.task?_unborn (by omega)
    have other (starts : action.start?.isSome = true) : serial ≠ scene.service.begun := by
      rw [starts] at current
      simp only [Bool.toNat_true] at current
      omega
    rw [record_cons, inductionHypothesis (sound.step deployment action) unborn,
      sound.tellings_step deployment action other, Service.course, absent, Course.told_ended,
      List.append_nil]

/-- What is told of the task that begins next is told from there on. -/
theorem Sound.record_from (sound : scene.Sound) (deployment : Deployment)
    (before later : List Action) :
    scene.record deployment (before ++ later) (scene.after deployment before).service.begun =
      (scene.after deployment before).record deployment later
        (scene.after deployment before).service.begun := by
  rw [record_append, sound.record_unborn deployment before (Nat.le_refl _), List.nil_append]

/-! ### The beginning of a task and what comes then -/

/-- What happens from the beginning of a task on: the clock shows the time at which it begins, and
then comes the history of the run. -/
def timeline (deployment : Deployment) (scene : Scene) (action : Action) (later : List Action) :
    List Happening :=
  .move scene.service.now :: (scene.step deployment action).2.history deployment later

/-- A task that begins is told of and led by what happens from its beginning on. -/
theorem Sound.begins (sound : scene.Sound) (deployment : Deployment) {action : Action}
    {named : String × Start} (starts : action.start? = some named) {task : Task}
    (born : scene.service.birth deployment named.2 = .begins task) (later : List Action) :
    scene.record deployment (action :: later) scene.service.begun =
        (⟨scene.service.now, some task⟩ : Course).told deployment
          (scene.timeline deployment action later) ∧
      (scene.after deployment (action :: later)).service.course scene.service.begun =
        (⟨scene.service.now, some task⟩ : Course).follow deployment
          (scene.timeline deployment action later) := by
  have next := sound.step deployment action
  have step := sound.step_begins deployment starts
  have known := sound.begun_lt_step deployment starts
  have clock : max scene.service.now scene.service.now = scene.service.now := Nat.max_self _
  rw [born] at step
  have first : (scene.step deployment action).2.service.course scene.service.begun =
      (⟨scene.service.now, some task⟩ : Course).next deployment (.move scene.service.now) := by
    rw [step.1]
    show _ = Course.mk (max _ _) ((task.dueFate deployment (max _ _)).rest task)
    rw [clock]
    rfl
  have told : (tellings (scene.step deployment action).1).filter
      (·.serial == scene.service.begun) =
      (⟨scene.service.now, some task⟩ : Course).completions deployment
        (.move scene.service.now) := by
    rw [step.2]
    show _ = (task.dueFate deployment (max _ _)).completions task (max _ _)
    rw [clock]
    rfl
  refine ⟨?_, ?_⟩
  · rw [record_cons, next.record_eq_told deployment later known, told, first]
    rfl
  · rw [after_cons, next.course_after deployment later known, first]
    rfl

/-- A task that is over at once stays over, and nothing else is told of it. -/
theorem Sound.ends_at_once (sound : scene.Sound) (deployment : Deployment) {action : Action}
    {named : String × Start} (starts : action.start? = some named) {ending : Ending}
    (born : scene.service.birth deployment named.2 = .atOnce ending) (later : List Action) :
    scene.record deployment (action :: later) scene.service.begun =
        [⟨scene.service.begun, scene.service.now, ending⟩] ∧
      (scene.after deployment (action :: later)).service.task? scene.service.begun = none := by
  have next := sound.step deployment action
  have step := sound.step_begins deployment starts
  have known := sound.begun_lt_step deployment starts
  rw [born] at step
  refine ⟨?_, ?_⟩
  · rw [record_cons, next.record_eq_told deployment later known, step.1, step.2]
    exact congrArg (_ :: ·) (Course.told_ended deployment _ _)
  · have course := next.course_after deployment later known
    rw [step.1] at course
    exact (congrArg Course.task? course).trans (Course.task?_follow_ended _ _)

end Scene

end LatencyService
