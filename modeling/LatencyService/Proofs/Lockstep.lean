/-
Two runs side by side, one with a timeout for requests and one without. As long
as their clocks agree they begin the same tasks under the same numbers, and a
request is led through both in the same way until its deadline has come.
-/

import LatencyService.Proofs.Twin

namespace LatencyService

/-- How far an action moves the clock that does not wait for a task. -/
def Action.span : Action → Nat
  | .advance milliseconds => milliseconds
  | _ => 0

namespace Scene

/-! ### What a step adds to the stretches before -/

section Step

variable {deployment : Deployment} {scene : Scene} {action : Action} {serial : Nat} {task : Task}

variable (sound : scene.Sound) (known : serial < scene.service.begun)
  (awaits : scene.Awaits deployment serial task) {rest : List Action}
  (spared : .cancel serial ∉ scene.history deployment (action :: rest))
include sound known awaits spared

end Step

/-! ### What a run tells of a task that begins -/

section Beginning

variable {deployment : Deployment} {scene : Scene} {action : Action} {named : String × Start}
  {task : Task}

variable (sound : scene.Sound) (starts : action.start? = some named)
  (born : scene.service.birth deployment named.2 = .begins task)
include sound starts born

end Beginning

/-! ### Clocks that agree -/

/-- With and without a timeout for requests the clock shows the same time before and behind every
action of a run. -/
def Abreast (deployment : Deployment) (plain timed : Scene) : List Action → Prop
  | [] => plain.service.now = timed.service.now
  | action :: rest =>
    plain.service.now = timed.service.now ∧
      Abreast deployment (plain.step deployment.untimed action).2 (timed.step deployment action).2
        rest

variable {deployment : Deployment} {seconds : UInt64} {plain timed : Scene}

theorem Abreast.now {actions : List Action} (abreast : Abreast deployment plain timed actions) :
    plain.service.now = timed.service.now := by
  cases actions with
  | nil => exact abreast
  | cons action rest => exact abreast.1

/-- In a step the backend changes by what begins there, if anything does. -/
theorem Sound.backend_step {scene : Scene} (sound : scene.Sound) (deployment : Deployment)
    (action : Action) :
    ∃ service : Service, service.backend = scene.service.backend ∧
      (scene.step deployment action).2.service.backend =
        action.start?.elim service.backend fun named =>
          service.backendAfter deployment named.2 := by
  refine ⟨scene.undergone deployment action, sound.quiet.service.backend_undergo _, ?_⟩
  rcases service_step deployment scene action with ⟨named, starts, same⟩ | ⟨starts, _, -, same⟩
  · obtain ⟨undergone, calm⟩ := sound.undergone deployment action
    rw [same, starts]
    exact (undergone.begin calm deployment named.2).backend
  · rw [same, starts]
    rfl

/-- When the clocks agree behind a step, the same can begin in both runs. -/
theorem twins_step (soundPlain : plain.Sound) (soundTimed : timed.Sound)
    (given : deployment.settings.timeouts.requestSeconds = some seconds)
    (positive : 0 < seconds.toNat) (twins : plain.service.Twins timed.service) {action : Action}
    (clocks : (plain.step deployment.untimed action).2.service.now =
      (timed.step deployment action).2.service.now) :
    (plain.step deployment.untimed action).2.service.Twins
      (timed.step deployment action).2.service := by
  refine ⟨clocks, ?_, ?_, ?_⟩
  · rw [soundPlain.begun_step, soundTimed.begun_step, twins.begun]
  · obtain ⟨untimed, before, changes⟩ := soundPlain.backend_step deployment.untimed action
    obtain ⟨dated, beforeTimed, changesTimed⟩ := soundTimed.backend_step deployment action
    have same : untimed.backend = dated.backend :=
      before.trans (twins.backend.trans beforeTimed.symm)
    rw [changes, changesTimed]
    cases action.start? with
    | none => exact same
    | some named => exact Service.backendAfter_untimed given positive same named.2
  · rw [Bool.eq_iff_iff, soundPlain.isTriggered_step, soundTimed.isTriggered_step,
      twins.isTriggered]

/-- When the clocks agree all the time, the same can begin in both runs behind all actions. -/
theorem Abreast.after (soundPlain : plain.Sound) (soundTimed : timed.Sound)
    (given : deployment.settings.timeouts.requestSeconds = some seconds)
    (positive : 0 < seconds.toNat) (twins : plain.service.Twins timed.service)
    {before rest : List Action} (abreast : Abreast deployment plain timed (before ++ rest)) :
    (plain.after deployment.untimed before).service.Twins (timed.after deployment before).service ∧
      Abreast deployment (plain.after deployment.untimed before) (timed.after deployment before)
        rest := by
  induction before generalizing plain timed with
  | nil => exact ⟨twins, abreast⟩
  | cons action before inductionHypothesis =>
    have next := twins_step soundPlain soundTimed given positive twins abreast.2.now
    exact inductionHypothesis (soundPlain.step _ action) (soundTimed.step _ action) next abreast.2

/-! ### The task of a request beside its twin -/

end Scene

end LatencyService
