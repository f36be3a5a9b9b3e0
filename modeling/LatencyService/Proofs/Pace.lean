/-
How the clock moves in a run. Busy loops have always ended right before the
clock is moved. If nobody moves it further than to the next moment at which
something happens by itself, then it never passes such a moment without
stopping there; to let time pass until a task has ended never does.
-/

import LatencyService.Proofs.Steps

namespace LatencyService

/-! ### Busy loops end before the clock is moved -/

namespace Happening

/-- Busy loops end right before every move of the clock; at the beginning they may have ended. -/
def Paced (settled : Bool) : List Happening → Prop
  | [] => True
  | .settle :: rest => Paced true rest
  | .move _ :: rest => settled = true ∧ Paced false rest
  | _ :: rest => Paced false rest

theorem Paced.mono {happenings : List Happening} (paced : Paced false happenings)
    (settled : Bool) : Paced settled happenings := by
  cases happenings with
  | nil => trivial
  | cons happening rest =>
    cases happening with
    | move later => exact absurd paced.1 Bool.false_ne_true
    | _ => exact paced

theorem Paced.append {settled : Bool} {first second : List Happening}
    (front : Paced settled first) (back : Paced false second) :
    Paced settled (first ++ second) := by
  induction first generalizing settled with
  | nil => exact back.mono settled
  | cons happening rest inductionHypothesis =>
    cases happening with
    | move later => exact ⟨front.1, inductionHypothesis front.2⟩
    | _ => exact inductionHypothesis front

theorem Paced.behind_move {settled : Bool} {early late : List Happening} {later : Nat}
    (paced : Paced settled (early ++ .move later :: late)) : Paced false late := by
  induction early generalizing settled with
  | nil => exact paced.2
  | cons happening rest inductionHypothesis =>
    cases happening with
    | move earlier => exact inductionHypothesis paced.2
    | _ => exact inductionHypothesis paced

/-- What comes before a move that is not the first thing to happen. -/
theorem cons_eq_append_move {first : Happening} {rest early late : List Happening} {later : Nat}
    (parts : first :: rest = early ++ .move later :: late) (other : first ≠ .move later) :
    ∃ behind, early = first :: behind ∧ rest = behind ++ .move later :: late := by
  rcases List.cons_eq_append_iff.1 parts with ⟨_, same⟩ | split
  · exact absurd (List.cons.inj same).1.symm other
  · exact split

end Happening

namespace Service

variable {deployment : Deployment}

theorem paced_passage (serial : Nat) (last : Option Nat) (fuel : Nat) (service : Service) :
    Happening.Paced false (service.passage deployment serial last fuel) := by
  induction fuel generalizing service with
  | zero => trivial
  | succ fuel inductionHypothesis =>
    have stop : Happening.Paced false (.settle :: (last.map Happening.move).toList) := by
      cases last with
      | none => trivial
      | some later => exact ⟨rfl, trivial⟩
    unfold passage
    dsimp only
    split
    · trivial
    · split
      · trivial
      · split
        · exact stop
        · split
          · exact stop
          · exact ⟨rfl, inductionHypothesis _⟩

end Service

namespace Scene

variable {deployment : Deployment} {scene : Scene}

theorem paced_happenings (action : Action) :
    Happening.Paced false (scene.happenings deployment action) := by
  cases action with
  | cancel name =>
    rw [happenings]
    cases scene.handles.lookup name <;> trivial
  | advance milliseconds => exact ⟨rfl, trivial⟩
  | join name =>
    rw [happenings]
    cases scene.handles.lookup name with
    | none => trivial
    | some serial => exact (Service.paced_passage serial _ _ _).mono true
  | _ => trivial

theorem paced_history (actions : List Action) :
    Happening.Paced false (scene.history deployment actions) := by
  induction actions generalizing scene with
  | nil => trivial
  | cons action rest inductionHypothesis =>
    exact (paced_happenings action).append inductionHypothesis

end Scene

/-! ### The next moment at which something happens -/

/-- Of two times, the earlier one is no later than either. -/
theorem earlier?_le {first second : Option Nat} {time : Nat}
    (either : first = some time ∨ second = some time) :
    ∃ both ∈ earlier? first second, both ≤ time := by
  rcases either with rfl | rfl
  · cases second with
    | none => exact ⟨time, rfl, Nat.le_refl _⟩
    | some other => exact ⟨min time other, rfl, Nat.min_le_left _ _⟩
  · cases first with
    | none => exact ⟨time, rfl, Nat.le_refl _⟩
    | some other => exact ⟨min other time, rfl, Nat.min_le_right _ _⟩

namespace Service

theorem foldl_earlier?_le {tasks : List Task} {known : Option Nat} {time : Nat}
    (either : known = some time ∨ ∃ task ∈ tasks, task.due? = some time) :
    ∃ next ∈ tasks.foldl (fun due task => earlier? due task.due?) known, next ≤ time := by
  induction tasks generalizing known time with
  | nil =>
    rcases either with same | ⟨task, member, _⟩
    · exact ⟨time, same, Nat.le_refl _⟩
    · exact nomatch member
  | cons first rest inductionHypothesis =>
    have joined (one : known = some time ∨ first.due? = some time) :
        ∃ next ∈ rest.foldl (fun due task => earlier? due task.due?)
          (earlier? known first.due?), next ≤ time := by
      obtain ⟨both, same, below⟩ := earlier?_le one
      obtain ⟨next, found, least⟩ := inductionHypothesis (.inl same)
      exact ⟨next, found, Nat.le_trans least below⟩
    rcases either with same | ⟨task, member, same⟩
    · exact joined (.inl same)
    · rcases List.mem_cons.1 member with mine | later
      · exact joined (.inr (mine ▸ same))
      · exact inductionHypothesis (.inr ⟨task, later, same⟩)

/-- Nothing is due for a task before the next moment at which something happens by itself. -/
theorem nextDue?_le {service : Service} {task : Task} (member : task ∈ service.tasks) {due : Nat}
    (there : due ∈ task.due?) : ∃ next ∈ service.nextDue?, next ≤ due :=
  foldl_earlier?_le (.inr ⟨task, member, there⟩)

variable {deployment : Deployment} {held : Nat}

/-- While time passes until some task has ended, the clock stops wherever something is due. -/
theorem Sound.move_le_due_passage {service : Service} (sound : service.Sound held) (serial : Nat)
    {last : Option Nat} {fuel waited : Nat} {early late : List Happening} {later : Nat}
    (parts : service.passage deployment waited last fuel = early ++ .move later :: late) :
    ∀ task ∈ ((service.course serial).follow deployment early).task?, ∀ due ∈ task.due?,
      later ≤ due := by
  induction fuel generalizing service early with
  | zero => exact absurd parts (by simp [passage])
  | succ fuel inductionHypothesis =>
    intro task there due mine
    have settles := sound.happen deployment .settle
    have course := sound.course_happen deployment .settle serial
    -- What is left of a task when the busy loops have ended is waiting at the service.
    have waiting (only : early = [.settle]) :
        ∃ next ∈ (service.endBusy deployment).nextDue?, next ≤ due := by
      rw [only] at there
      have found : (service.happen deployment .settle).task? serial = some task :=
        (congrArg Course.task? course).trans there
      exact nextDue?_le (mem_of_task? found) mine
    unfold passage at parts
    dsimp only at parts
    split at parts
    · simp at parts
    · split at parts
      · obtain ⟨behind, _, rest⟩ := Happening.cons_eq_append_move parts nofun
        simp at rest
      · -- The clock is moved to the last moment because nothing comes before that.
        have stop (limit : ∀ next ∈ (service.endBusy deployment).nextDue?,
            ∀ moment ∈ last, moment ≤ next)
            (stops : .settle :: (last.map Happening.move).toList = early ++ .move later :: late) :
            later ≤ due := by
          obtain ⟨behind, front, moved⟩ := Happening.cons_eq_append_move stops nofun
          cases last with
          | none => exact absurd moved (by simp)
          | some moment =>
            obtain ⟨none_behind, same⟩ : behind = [] ∧ later = moment := by
              cases behind with
              | nil => exact ⟨rfl, (Happening.move.inj (List.cons.inj moved).1).symm⟩
              | cons _ _ => simp at moved
            obtain ⟨next, found, least⟩ := waiting (none_behind ▸ front)
            have before := limit next found moment rfl
            omega
        split at parts
        · rename_i nothing
          exact stop (fun next found => by rw [nothing] at found; cases found) parts
        · rename_i next found
          split at parts
          · rename_i late
            refine stop (fun other there moment here => ?_) parts
            rw [found] at there
            cases there
            cases here
            simp at late
            omega
          · obtain ⟨behind, front, moved⟩ := Happening.cons_eq_append_move parts nofun
            cases behind with
            | nil =>
              obtain ⟨other, there, least⟩ := waiting front
              rw [found] at there
              cases there
              have same := Happening.move.inj (List.cons.inj moved).1
              omega
            | cons head tail =>
              obtain ⟨moves, rest⟩ := List.cons.inj moved
              have moving := settles.happen deployment (.move next)
              refine inductionHypothesis moving rest task ?_ due mine
              have both := settles.course_happen deployment (.move next) serial
              rw [front, ← moves] at there
              rw [course] at both
              exact (congrArg (fun course => (Course.follow deployment course tail).task?)
                both).trans there

end Service

namespace Scene

variable {deployment : Deployment} {scene : Scene}

/-- An action does not move the clock beyond the next moment at which something happens by
itself. -/
def Stops (deployment : Deployment) (scene : Scene) : Action → Prop
  | .advance milliseconds =>
    let service := scene.settled deployment
    ∀ due ∈ service.nextDue?, service.now + milliseconds ≤ due
  | _ => True

/-- In a run the clock stops at every moment at which something happens by itself. -/
def Unhurried (deployment : Deployment) (scene : Scene) : List Action → Prop
  | [] => True
  | action :: rest =>
    scene.quiet.Stops deployment action ∧ Unhurried deployment (scene.step deployment action).2 rest

theorem Sound.move_le_due_happenings (sound : scene.Sound) {action : Action}
    (stops : scene.Stops deployment action) {serial : Nat} {early late : List Happening}
    {later : Nat} (parts : scene.happenings deployment action = early ++ .move later :: late) :
    ∀ task ∈ ((scene.service.course serial).follow deployment early).task?, ∀ due ∈ task.due?,
      later ≤ due := by
  intro task there due mine
  have settles := sound.service.happen deployment .settle
  have course := sound.service.course_happen deployment .settle serial
  cases action with
  | advance milliseconds =>
    obtain ⟨behind, front, moved⟩ := Happening.cons_eq_append_move parts nofun
    obtain ⟨none_behind, same⟩ : behind = [] ∧
        later = (scene.settled deployment).now + milliseconds := by
      cases behind with
      | nil => exact ⟨rfl, (Happening.move.inj (List.cons.inj moved).1).symm⟩
      | cons _ _ => simp at moved
    rw [front, none_behind] at there
    have found : (scene.settled deployment).task? serial = some task :=
      (congrArg Course.task? course).trans there
    obtain ⟨next, known, least⟩ := Service.nextDue?_le (Service.mem_of_task? found) mine
    exact same ▸ Nat.le_trans (stops next known) least
  | join name =>
    obtain ⟨behind, front, passes⟩ := Happening.cons_eq_append_move parts nofun
    cases found : scene.handles.lookup name with
    | none => simp [found] at passes
    | some waited =>
      rw [front] at there
      simp only [found] at passes
      refine settles.move_le_due_passage serial passes task ?_ due mine
      exact (congrArg (fun course => (Course.follow deployment course behind).task?)
        course).trans there
  | _ =>
    have member : .move later ∈ scene.happenings deployment _ :=
      parts ▸ List.mem_append_right early List.mem_cons_self
    simp [happenings] at member

/-- In an unhurried run nothing is due for any task before the clock stops. -/
theorem Sound.move_le_due (sound : scene.Sound) {actions : List Action}
    (unhurried : scene.Unhurried deployment actions) {serial : Nat}
    (known : serial < scene.service.begun) {early late : List Happening} {later : Nat}
    (parts : scene.history deployment actions = early ++ .move later :: late) :
    ∀ task ∈ ((scene.service.course serial).follow deployment early).task?, ∀ due ∈ task.due?,
      later ≤ due := by
  induction actions generalizing scene early with
  | nil => simp [history] at parts
  | cons action rest inductionHypothesis =>
    have next := sound.step deployment action
    have course := sound.course_step deployment action fun _ => Nat.ne_of_lt known
    have later_known := sound.lt_begun_step deployment action known
    rcases List.append_eq_append_iff.1 parts with ⟨front, same, behind⟩ | ⟨back, same, behind⟩
    · rw [same, Course.follow_append, ← course]
      exact inductionHypothesis next unhurried.2 later_known behind
    · rcases List.cons_eq_append_iff.1 behind with ⟨nothing, rest⟩ | ⟨more, front, _⟩
      · rw [nothing, List.append_nil] at same
        rw [← same, ← course]
        have split : history deployment _ _ = [] ++ .move later :: late := rest
        exact inductionHypothesis next unhurried.2 later_known split
      · rw [front] at same
        exact sound.quiet.move_le_due_happenings unhurried.1 same

end Scene

end LatencyService
