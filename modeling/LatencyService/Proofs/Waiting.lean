/-
What a task sees while it waits. The clock never goes back, so that nothing is
told of a time that has passed; and a task goes on waiting until something is
due for it, unless it is cancelled or the shutdown reaches it.
-/

import LatencyService.Proofs.History

namespace LatencyService

namespace Happening

/-- The time that the clock shows when several things have happened. -/
def clockAfter (now : Nat) (happenings : List Happening) : Nat := happenings.foldl clock now

theorem le_clock (now : Nat) (happening : Happening) : now ≤ happening.clock now := by
  cases happening with
  | move later => exact Nat.le_max_left _ _
  | _ => exact Nat.le_refl _

/-- The clock never goes back. -/
theorem le_clockAfter (now : Nat) (happenings : List Happening) :
    now ≤ clockAfter now happenings := by
  induction happenings generalizing now with
  | nil => exact Nat.le_refl _
  | cons happening rest inductionHypothesis =>
    exact Nat.le_trans (le_clock now happening) (inductionHypothesis _)

/-- The clock comes no further than it is moved. -/
theorem clockAfter_lt {now limit : Nat} {happenings : List Happening} (before : now < limit)
    (below : ∀ later, .move later ∈ happenings → later < limit) :
    clockAfter now happenings < limit := by
  induction happenings generalizing now with
  | nil => exact before
  | cons happening rest inductionHypothesis =>
    refine inductionHypothesis ?_ fun later member => below later (List.mem_cons_of_mem _ member)
    cases happening with
    | move later => exact Nat.max_lt.2 ⟨before, below later List.mem_cons_self⟩
    | _ => exact before

end Happening

namespace Task

variable {task : Task} {now later : Nat}

theorem isDueAt_iff : task.isDueAt now = true ↔ ∃ due ∈ task.due?, due ≤ now := by
  rw [isDueAt]
  cases task.due? <;> simp

/-- What is due stays due. -/
theorem isDueAt_mono (due : task.isDueAt now = true) (passed : now ≤ later) :
    task.isDueAt later = true := by
  obtain ⟨time, there, before⟩ := isDueAt_iff.1 due
  exact isDueAt_iff.2 ⟨time, there, Nat.le_trans before passed⟩

end Task

namespace Course

variable {deployment : Deployment} {now : Nat} {task : Task} {happenings : List Happening}

theorem now_follow (course : Course) (happenings : List Happening) :
    (course.follow deployment happenings).now =
      Happening.clockAfter course.now happenings := by
  induction happenings generalizing course with
  | nil => rfl
  | cons happening rest inductionHypothesis => exact inductionHypothesis _

/-- A task for which nothing comes to be due goes on waiting. -/
theorem follow_waiting (deployment : Deployment) (waiting : task.stage ≠ .busy)
    (spared : .cancel task.serial ∉ happenings)
    (calm : task.holds = true → .trigger ∉ happenings)
    (idle : task.isDueAt (Happening.clockAfter now happenings) = false) :
    (⟨now, some task⟩ : Course).follow deployment happenings =
        ⟨Happening.clockAfter now happenings, some task⟩ ∧
      (⟨now, some task⟩ : Course).told deployment happenings = [] := by
  induction happenings generalizing now with
  | nil => exact ⟨rfl, rfl⟩
  | cons happening rest inductionHypothesis =>
    have early : task.isDueAt (happening.clock now) = false :=
      Bool.eq_false_iff.2 fun due => Bool.eq_false_iff.1 idle
        (Task.isDueAt_mono due (Happening.le_clockAfter _ rest))
    have waits : task.fate deployment (happening.clock now) happening = .waits := by
      cases happening with
      | settle => exact if_neg waiting
      | move later => exact if_neg (by rw [early]; exact Bool.false_ne_true)
      | trigger => exact if_neg fun holds => calm holds List.mem_cons_self
      | cancel serial =>
        exact if_neg fun same : task.serial = serial => spared (same ▸ List.mem_cons_self)
    have stays := next_of_waits waits
    rw [follow_cons, told, stays.1, stays.2]
    exact inductionHypothesis (fun member => spared (List.mem_cons_of_mem _ member))
      (fun holds member => calm holds (List.mem_cons_of_mem _ member)) idle

end Course

end LatencyService
