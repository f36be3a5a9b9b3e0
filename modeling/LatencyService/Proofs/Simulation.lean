/-
A scene with a service call beside the same scene with an operation in its
place. Each action does the same in both, so that what is observed of one run is
what is observed of the other, but for the ending of the call.
-/

import LatencyService.Proofs.Calling

namespace LatencyService

variable {own : Nat} {policy : AbortPolicy}

/-! ### Scenes -/

namespace Scene

theorem play_cons (deployment : Deployment) (scene : Scene) (action : Action)
    (rest : List Action) :
    (scene.play deployment (action :: rest)).1 =
      (scene.step deployment action).1 ::
        ((scene.step deployment action).2.play deployment rest).1 := rfl

theorem play_append (deployment : Deployment) (scene : Scene) (first second : List Action) :
    (scene.play deployment (first ++ second)).1 =
      (scene.play deployment first).1 ++
        ((scene.after deployment first).play deployment second).1 := by
  induction first generalizing scene with
  | nil => rfl
  | cons action rest inductionHypothesis => exact congrArg (_ :: ·) (inductionHypothesis _)

/-- In the second scene a call is in the place of the operation of a number in the first one. -/
structure Calls (own : Nat) (policy : AbortPolicy) (operating calling : Scene) : Prop where
  service : operating.service.Calls own policy calling.service
  names : calling.names = operating.names
  handles : calling.handles = operating.handles
  receivers : calling.receivers = operating.receivers

namespace Calls

variable {deployment : Deployment} {operating calling : Scene} {held : Nat}

theorem change (calls : Calls own policy operating calling) {step stepCalling : Service → Service}
    (service : (step operating.service).Calls own policy (stepCalling calling.service)) :
    Calls own policy (operating.change step) (calling.change stepCalling) :=
  ⟨service, calls.names, calls.handles, calls.receivers⟩

/-- A task begins in both under the same name. -/
theorem started (calls : Calls own policy operating calling) (name : String)
    {service serviceCalling : Service} (begun : service.Calls own policy serviceCalling) :
    Calls own policy
      { operating with
        service
        names := (operating.service.begun, name) :: operating.names
        handles := (name, operating.service.begun) :: operating.handles.filter (·.1 != name) }
      { calling with
        service := serviceCalling
        names := (calling.service.begun, name) :: calling.names
        handles := (name, calling.service.begun) :: calling.handles.filter (·.1 != name) } := by
  refine ⟨begun, ?_, ?_, calls.receivers⟩
  · rw [calls.service.begun, calls.names]
  · rw [calls.service.begun, calls.handles]

theorem forget (calls : Calls own policy operating calling) (name : String) :
    Calls own policy (operating.forget name) (calling.forget name) := by
  refine ⟨calls.service, calls.names, ?_, calls.receivers⟩
  simp only [Scene.forget, calls.handles]

theorem letGo (calls : Calls own policy operating calling) (name : String) :
    Calls own policy (operating.letGo name) (calling.letGo name) := by
  have released : Service.Calls own policy
      { operating.service with shutdown := operating.service.shutdown.release }
      { calling.service with shutdown := calling.service.shutdown.release } := by
    refine ⟨?_, calls.service.operates⟩
    have same := congrArg (fun service : Service =>
      ({ service with shutdown := service.shutdown.release } : Service)) calls.service.same
    exact same
  unfold Scene.letGo
  rw [calls.receivers]
  split
  · refine ⟨released, calls.names, calls.handles, ?_⟩
    rfl
  · exact calls

theorem hold (calls : Calls own policy operating calling) (name : String) :
    Calls own policy (operating.hold name) (calling.hold name) := by
  have free := calls.letGo name
  have same := congrArg (fun service : Service =>
    ({ service with shutdown := service.shutdown.subscribe.2 } : Service)) free.service.same
  refine ⟨⟨same, free.service.operates⟩, free.names, free.handles, ?_⟩
  simp only [Scene.hold, free.receivers, free.service.shutdown]

theorem receive (calls : Calls own policy operating calling) (name : String) :
    (calling.receive name).1 = (operating.receive name).1 ∧
      Calls own policy (operating.receive name).2 (calling.receive name).2 := by
  unfold Scene.receive
  rw [calls.receivers, calls.service.shutdown]
  split
  · exact ⟨rfl, calls⟩
  · exact ⟨rfl, calls.service, calls.names, calls.handles, rfl⟩

section Acts

variable (calls : Calls own policy operating calling) (sound : operating.service.Sound held)
  (soundCalling : calling.service.Sound held)
include calls sound soundCalling

theorem settle (deployment : Deployment) :
    Calls own policy (operating.change (·.endBusy deployment))
      (calling.change (·.endBusy deployment)) :=
  calls.change (calls.service.happen sound soundCalling deployment .settle)

/-- The same task is stopped in both, and behind it busy loops end. -/
theorem cancel (name : String) :
    (calling.cancel name).1 = (operating.cancel name).1 ∧
      Calls own policy ((operating.cancel name).2.change (·.endBusy deployment))
        ((calling.cancel name).2.change (·.endBusy deployment)) := by
  have gone (serial : Nat) := calls.service.happen sound soundCalling deployment (.cancel serial)
  have left (serial : Nat) := sound.happen deployment (.cancel serial)
  have leftCalling (serial : Nat) := soundCalling.happen deployment (.cancel serial)
  unfold Scene.cancel
  rw [calls.handles]
  cases operating.handles.lookup name with
  | none => exact ⟨rfl, calls.settle sound soundCalling deployment⟩
  | some serial =>
    have found : calling.service.tasks.find? (·.serial == serial) =
        (operating.service.tasks.find? (·.serial == serial)).map (Task.asCall own policy) := by
      rw [calls.service.tasks]
      exact List.find?_map
    have gone := gone serial
    have left := left serial
    have leftCalling := leftCalling serial
    simp only [Service.happen, found] at gone left leftCalling
    simp only [found]
    cases there : operating.service.tasks.find? (·.serial == serial) with
    | none => exact ⟨rfl, (calls.forget name).settle sound soundCalling deployment⟩
    | some task =>
      rw [there] at gone left leftCalling
      have stopped : Calls own policy ((operating.forget name).change (·.remove task))
          ((calling.forget name).change (·.remove (task.asCall own policy))) :=
        (calls.forget name).change gone
      exact ⟨rfl, stopped.settle left leftCalling deployment⟩

theorem join (name : String) :
    (calling.join deployment name).1 = (operating.join deployment name).1 ∧
      Calls own policy (operating.join deployment name).2 (calling.join deployment name).2 := by
  unfold Scene.join
  rw [calls.handles]
  cases operating.handles.lookup name with
  | none => exact ⟨rfl, calls⟩
  | some serial =>
    have later : Calls own policy
        (operating.change fun service => service.waitFor deployment serial
          (some (operating.service.now + patience)))
        (calling.change fun service => service.waitFor deployment serial
          (some (operating.service.now + patience))) :=
      calls.change (calls.service.waitFor sound soundCalling deployment serial _)
    dsimp only
    rw [calls.service.now, later.service.isLive]
    split
    · exact ⟨rfl, later⟩
    · exact ⟨rfl, later.forget name⟩

variable (prompt : operating.service.Prompt) (promptCalling : calling.service.Prompt)
  (known : own < operating.service.begun)
include prompt promptCalling known

/-- Any action does the same in both when no busy loop is turning. -/
theorem act (deployment : Deployment) {action : Action}
    (stays : ∀ name, action ≠ .cancel name) :
    (calling.act deployment action).1 = (operating.act deployment action).1 ∧
      Calls own policy (operating.act deployment action).2 (calling.act deployment action).2 := by
  have begin (start : Start) := calls.service.begin_other sound soundCalling prompt promptCalling
    known deployment start
  have happen (happening : Happening) :=
    calls.service.happen sound soundCalling deployment happening
  cases action with
  | request name request => exact ⟨rfl, calls.started name (begin (.request request))⟩
  | operation name delaySeconds rounds =>
    exact ⟨rfl, calls.started name (begin (.operation delaySeconds rounds))⟩
  | delay name delaySeconds => exact ⟨rfl, calls.started name (begin (.delay delaySeconds))⟩
  | service name policy order => exact ⟨rfl, calls.started name (begin (.service policy _))⟩
  | wait name => exact ⟨rfl, calls.started name (begin .wait)⟩
  | subscribe name => exact ⟨rfl, calls.hold name⟩
  | receive name => exact calls.receive name
  | letGo name =>
    refine ⟨?_, calls.letGo name⟩
    show Verdict.hadReceiver _ = Verdict.hadReceiver _
    rw [calls.receivers]
  | cancel name => exact absurd rfl (stays name)
  | trigger => exact ⟨rfl, calls.change (happen .trigger)⟩
  | look => exact ⟨rfl, calls⟩
  | advance milliseconds =>
    have moved : Service.Calls own policy
        (operating.service.moveTo deployment (operating.service.now + milliseconds))
        (calling.service.moveTo deployment (calling.service.now + milliseconds)) := by
      rw [calls.service.now]
      exact happen (.move _)
    exact ⟨rfl, moved, calls.names, calls.handles, calls.receivers⟩
  | join name => exact calls.join sound soundCalling name

theorem perform (deployment : Deployment) (action : Action) :
    (calling.perform deployment action).1 = (operating.perform deployment action).1 ∧
      Calls own policy (operating.perform deployment action).2
        (calling.perform deployment action).2 := by
  have quiet := calls.settle sound soundCalling deployment
  have soundQuiet := sound.happen deployment .settle
  have soundQuietCalling := soundCalling.happen deployment .settle
  have rest {action : Action} (stays : ∀ name, action ≠ .cancel name) :=
    quiet.act soundQuiet soundQuietCalling (prompt.happen sound deployment .settle)
      (promptCalling.happen soundCalling deployment .settle)
      ((sound.begun_happen deployment .settle).symm ▸ known) deployment stays
  cases action with
  | cancel name => exact calls.cancel sound soundCalling name
  | _ => exact rest nofun

end Acts

theorem observe (calls : Calls own policy operating calling) (verdict : Verdict) :
    calling.observe verdict = (operating.observe verdict).asCall own policy := by
  simp only [Scene.observe, Observation.asCall, calls.service.ended, calls.names,
    calls.service.shutdown, calls.service.now, List.map_reverse, List.map_map]
  rfl

/-- A step does the same in both scenes, and the call is observed to end as the operation ends. -/
theorem step (calls : Calls own policy operating calling) (sound : operating.Sound)
    (soundCalling : calling.Sound) (known : own < operating.service.begun)
    (deployment : Deployment) (action : Action) :
    (calling.step deployment action).1 = (operating.step deployment action).1.asCall own policy ∧
      Calls own policy (operating.step deployment action).2
        (calling.step deployment action).2 := by
  have silent : Calls own policy operating.quiet calling.quiet := by
    refine ⟨⟨?_, calls.service.operates⟩, calls.names, calls.handles, calls.receivers⟩
    have same := congrArg (fun service : Service => ({ service with ended := [] } : Service))
      calls.service.same
    exact same
  have held : calling.quiet.held.length = operating.quiet.held.length := by
    rw [Scene.held, Scene.held, silent.receivers]
  have performed := silent.perform sound.quiet.service (held ▸ soundCalling.quiet.service)
    sound.prompt soundCalling.prompt known deployment action
  have observed := performed.2.observe (calling.quiet.perform deployment action).1
  nth_rewrite 2 [performed.1] at observed
  exact ⟨observed, performed.2⟩

/-- A run does the same from both scenes on. -/
theorem play (calls : Calls own policy operating calling) (sound : operating.Sound)
    (soundCalling : calling.Sound) (known : own < operating.service.begun)
    (deployment : Deployment) (actions : List Action) :
    (calling.play deployment actions).1 =
      (operating.play deployment actions).1.map (Observation.asCall own policy) := by
  induction actions generalizing operating calling with
  | nil => rfl
  | cons action rest inductionHypothesis =>
    have step := calls.step sound soundCalling known deployment action
    have later := inductionHypothesis step.2 (sound.step deployment action)
      (soundCalling.step deployment action) (sound.lt_begun_step deployment action known)
    rw [play_cons, play_cons, List.map_cons, step.1, later]

end Calls

/-! ### A call in the place of an operation -/

variable {scene : Scene} {deployment : Deployment}

/-- The step in which the operation or the call begins. -/
theorem Sound.calls_begin_step (sound : scene.Sound) (deployment : Deployment) (name : String)
    (policy : AbortPolicy) (order : Order) :
    let operating := scene.step deployment (.operation name (Service.atLeastZero order.delay) 0)
    let calling := scene.step deployment (.service name policy order)
    calling.1 = operating.1.asCall scene.service.begun policy ∧
      Calls scene.service.begun policy operating.2 calling.2 := by
  intro operating calling
  have quiet := sound.quiet
  have settled := quiet.service.happen deployment .settle
  have calm := quiet.prompt.happen quiet.service deployment .settle
  have next : (scene.quiet.settled deployment).begun = scene.service.begun := quiet.begun_settled
  have untold : (scene.quiet.settled deployment).endingsOf
      (scene.quiet.settled deployment).begun = [] := by
    have unborn := quiet.service.task?_unborn (Nat.le_refl scene.service.begun)
    have endings := quiet.service.endingsOf_happen deployment .settle scene.service.begun
    rw [unborn] at endings
    rw [next]
    exact endings
  have same : Calls (scene.quiet.settled deployment).begun policy
      (scene.quiet.change (·.endBusy deployment)) (scene.quiet.change (·.endBusy deployment)) :=
    ⟨settled.calls untold, rfl, rfl, rfl⟩
  have begun : Calls (scene.quiet.settled deployment).begun policy operating.2 calling.2 :=
    same.started name (settled.calls_begin calm untold deployment policy _)
  rw [next] at begun
  exact ⟨begun.observe .nothing, begun⟩

/-- What was observed before the operation of a number began says nothing of it. -/
theorem Sound.asCall_play (sound : scene.Sound) (deployment : Deployment) (actions : List Action)
    {own : Nat} (unborn : (scene.after deployment actions).service.begun ≤ own)
    (policy : AbortPolicy) :
    (scene.play deployment actions).1.map (Observation.asCall own policy) =
      (scene.play deployment actions).1 := by
  have silent := List.filter_eq_nil_iff.1 (sound.record_unborn deployment actions unborn)
  refine (List.map_congr_left fun observation member => ?_).trans (List.map_id' _)
  have ended : observation.ended.map
      (fun entry => (entry.1, entry.2.asCall own policy)) = observation.ended := by
    refine (List.map_congr_left fun entry among => ?_).trans (List.map_id' _)
    have other := silent entry.2
      (List.mem_flatMap.2 ⟨observation, member, List.mem_map_of_mem among⟩)
    rw [Completion.asCall, Ending.asCallOf_other (by simpa using other), id]
  rw [Observation.asCall, ended]

/-- Whatever is told of an operation in a run, it is complete or aborted. -/
theorem Sound.record_operation (sound : scene.Sound) (deployment : Deployment) {action : Action}
    {name : String} {delaySeconds rounds : UInt64}
    (starts : action.start? = some (name, .operation delaySeconds rounds)) (later : List Action) :
    ∀ completion ∈ scene.record deployment (action :: later) scene.service.begun,
      (∃ report, completion.ending = .completed report) ∨ completion.ending = .aborted := by
  intro completion member
  cases born : scene.service.birth deployment (.operation delaySeconds rounds) with
  | atOnce ending =>
    have aborted : ending = .aborted := Service.abortion_of_sleepBirth born
    rw [(sound.ends_at_once deployment starts born later).1, List.mem_singleton] at member
    rw [member]
    exact .inr aborted
  | begins task =>
    have operates : task.purpose = .operation := Service.purpose_of_sleepBirth born
    rw [(sound.begins deployment starts born later).1] at member
    have kept (old : Task) (now : Nat) (happening : Happening) (left : Task)
        (same : old.purpose = .operation)
        (rest : (old.fate deployment now happening).rest old = some left) :
        left.purpose = .operation := (Fate.purpose_of_rest rest).trans same
    obtain ⟨other, now, happening, same, ends⟩ := Course.exists_fate_of_told kept
      (by rintro other ⟨⟩; exact operates) member
    exact Task.ending_of_operation same ends

/-- A service call that asks for so many seconds ends as an operation of that length does which is
begun in its place, whatever else is done before and behind: every step is observed as it is with
the operation, at the same time and with the same receivers held, but that the call ends as its
policy says of the ending of the operation. So it is never told of it what the operation reports, an
abortion is told only if it is to be propagated, and the rounds that are asked for play no part. -/
theorem call_simulates_operation (deployment : Deployment) (backend : Backend)
    (before later : List Action) (name : String) (policy : AbortPolicy) (order : Order) :
    let first := start deployment backend
    let own := (first.after deployment before).service.begun
    let seconds := (max order.delay.toInt 0).toNat.toUInt64
    let operating := before ++ .operation name seconds 0 :: later
    let calling := before ++ .service name policy order :: later
    (first.play deployment calling).1 =
        (first.play deployment operating).1.map (Observation.asCall own policy) ∧
      first.record deployment calling own =
        (first.record deployment operating own).map (Completion.asCall own policy) ∧
      (∀ completion ∈ first.record deployment operating own,
        (∃ report, completion.ending = .completed report) ∨ completion.ending = .aborted) ∧
      (∀ completion ∈ first.record deployment calling own,
        completion.ending = .served .empty ∨
          policy = .propagate ∧ completion.ending = .aborted) ∧
      ∀ rounds, (first.play deployment
          (before ++ .service name policy { order with rounds } :: later)).1 =
        (first.play deployment calling).1 := by
  intro first own seconds operating calling
  have sound := (sound_start deployment backend).after deployment before
  have length : seconds = Service.atLeastZero order.delay := by
    have same : (max order.delay.toInt 0).toNat = order.delay.toInt.toNat := by omega
    exact congrArg Nat.toUInt64 same
  have played (order : Order) (same : Service.atLeastZero order.delay = seconds) :
      (first.play deployment (before ++ .service name policy order :: later)).1 =
        (first.play deployment operating).1.map (Observation.asCall own policy) := by
    have step := sound.calls_begin_step deployment name policy order
    rw [same] at step
    have rest := step.2.play (sound.step deployment _) (sound.step deployment _)
      (sound.begun_lt_step deployment rfl) deployment later
    rw [play_append, play_append, List.map_append,
      (sound_start deployment backend).asCall_play deployment before (Nat.le_refl _)]
    rw [play_cons, play_cons, List.map_cons, step.1, rest]
  have observed := played order length.symm
  have recorded : first.record deployment calling own =
      (first.record deployment operating own).map (Completion.asCall own policy) := by
    have told : (first.play deployment calling).1.flatMap tellings =
        ((first.play deployment operating).1.flatMap tellings).map
          (Completion.asCall own policy) := by
      rw [observed, List.flatMap_map, List.map_flatMap]
      refine List.flatMap_congr fun observation _ => ?_
      simp only [tellings, Observation.asCall, List.map_map]
      rfl
    rw [record, told, List.filter_map]
    rfl
  have operation : ∀ completion ∈ first.record deployment operating own,
      (∃ report, completion.ending = .completed report) ∨ completion.ending = .aborted := by
    rw [(sound_start deployment backend).record_from]
    exact sound.record_operation deployment rfl later
  refine ⟨observed, recorded, operation, fun completion member => ?_, fun rounds =>
    (played { order with rounds } length.symm).trans observed.symm⟩
  rw [recorded] at member
  obtain ⟨old, among, rfl⟩ := List.mem_map.1 member
  have mine : old.serial = own := by simpa using (List.mem_filter.1 among).2
  have ending : (old.asCall own policy).ending = old.ending.asCall policy := by
    rw [Completion.asCall, mine, Ending.asCallOf_own]
  rw [ending]
  rcases operation old among with ⟨report, same⟩ | same
  · exact .inl (by rw [same, Ending.asCall])
  · rw [same]
    cases policy with
    | propagate => exact .inr ⟨rfl, rfl⟩
    | logAndDefault => exact .inl rfl

end Scene

end LatencyService
