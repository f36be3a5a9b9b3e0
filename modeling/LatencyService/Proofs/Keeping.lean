/-
What the service keeps. Many properties of it speak of the log, the counters and
what has ended, and of each task by itself. Such a property is kept by all that
can happen to the service if it is kept where a task ends, for nothing else
touches what it speaks of. So this file goes through all that happens once, for
every property of the kind; who has one shows only how tasks end.
-/

import LatencyService.Proofs.History

namespace LatencyService

namespace Service

variable {deployment : Deployment} {service : Service} {suits : Task → Prop}
  {good : Service → Prop}

/-! ### Properties that are kept -/

/-- A property of the service that every task has to suit, and that is kept when a task ends by
itself. -/
structure Keeps (deployment : Deployment) (suits : Task → Prop) (good : Service → Prop) :
    Prop where
  suited : ∀ {service : Service}, good service → ∀ task ∈ service.tasks, suits task
  /-- All but the log, the counters, what has ended and the tasks is of no account. -/
  congr : ∀ {service other : Service}, good service → other.journal = service.journal →
    other.metrics = service.metrics → other.ended = service.ended →
    (∀ task ∈ other.tasks, suits task) → good other
  /-- Whether a task suits is not changed when it wakes. -/
  busy : ∀ {task : Task}, suits task → suits { task with stage := .busy }
  complete : ∀ {service : Service} {task : Task}, good service → suits task →
    good (service.complete deployment task)
  timeout : ∀ {service : Service} {task : Task} {exchange : Exchange}, good service →
    suits task → task.purpose.exchange? = some exchange →
    good (service.finish task.serial
      (.answered (sealResponse exchange.isHead exchange.identifier timedOut)))
  failRelay : ∀ {service : Service} {task : Task} {exchange : Exchange} {header : Header},
    good service → suits task → task.purpose = .relay exchange header →
    ∀ failure, good (service.failRelay deployment task.serial exchange failure)

/-- A property that is kept when a task is cut short, too. -/
structure KeepsAlways (deployment : Deployment) (suits : Task → Prop) (good : Service → Prop) :
    Prop extends Keeps deployment suits good where
  interrupted : ∀ {service : Service}, good service →
    ∀ delaySeconds, good (service.record [.delayInterrupted delaySeconds])
  abort : ∀ {service : Service} {task : Task}, good service → suits task →
    good (service.abort task)

namespace Keeps

/-! ### Small changes -/

/-- Nothing is changed of what the property speaks of. -/
theorem unaltered (keeps : Keeps deployment suits good) (now : good service) {other : Service}
    (journal : other.journal = service.journal) (metrics : other.metrics = service.metrics)
    (ended : other.ended = service.ended) (tasks : other.tasks = service.tasks) : good other :=
  keeps.congr now journal metrics ended fun task member =>
    keeps.suited now task (tasks ▸ member)

theorem remove (keeps : Keeps deployment suits good) (now : good service) (task : Task) :
    good (service.remove task) :=
  keeps.congr now rfl rfl rfl fun other member =>
    keeps.suited now other (List.mem_filter.1 member).1

theorem replace (keeps : Keeps deployment suits good) (now : good service) {task : Task}
    (mine : suits task) : good (service.replace task) := by
  refine keeps.congr now rfl rfl rfl fun other member => ?_
  obtain ⟨old, known, same⟩ := List.mem_map.1 member
  rw [← same]
  split
  · exact mine
  · exact keeps.suited now old known

/-- A task is taken in. -/
theorem append (keeps : Keeps deployment suits good) (now : good service) {task : Task}
    (mine : suits task) (shutdown : Shutdown) :
    good { service with shutdown, tasks := service.tasks ++ [task] } := by
  refine keeps.congr now rfl rfl rfl fun other member => ?_
  rcases List.mem_append.1 member with old | new
  · exact keeps.suited now other old
  · rw [List.mem_singleton.1 new]
    exact mine

/-- A task is taken in and away again, whether it suits or not. -/
theorem append_remove (keeps : Keeps deployment suits good) (now : good service) (task : Task)
    (shutdown : Shutdown) :
    good (({ service with shutdown, tasks := service.tasks ++ [task] } : Service).remove task) := by
  refine keeps.congr now rfl rfl rfl fun other member => ?_
  obtain ⟨there, apart⟩ := List.mem_filter.1 member
  rcases List.mem_append.1 there with old | new
  · exact keeps.suited now other old
  · rw [List.mem_singleton.1 new, bne_self_eq_false] at apart
    cases apart

/-! ### What happens to tasks -/

theorem wake (keeps : Keeps deployment suits good) (now : good service) {task : Task}
    (mine : suits task) : good (service.wake deployment task) := by
  have completed : good ((service.remove task).complete deployment task) :=
    keeps.complete (keeps.remove now task) mine
  have busy : good (service.replace { task with stage := .busy }) :=
    keeps.replace now (keeps.busy mine)
  unfold Service.wake
  split
  · exact completed
  · split
    · exact completed
    · exact keeps.unaltered busy rfl rfl rfl rfl
  · exact completed
  · rename_i relays
    exact keeps.failRelay (keeps.remove now task) mine relays _
  · exact now

theorem attend (keeps : Keeps deployment suits good) (now : good service) {task : Task}
    (mine : suits task) : good (service.attend deployment task) := by
  unfold Service.attend
  split
  · rename_i asked
    split
    · exact keeps.timeout (keeps.remove now task) mine asked
    · exact keeps.wake now mine
  · exact keeps.wake now mine

/-- Tasks are treated one after the other. -/
theorem foldl {treat : Service → Task → Service}
    (treated : ∀ {service : Service}, good service → ∀ {task : Task}, suits task →
      good (treat service task))
    (now : good service) {tasks : List Task} (suited : ∀ task ∈ tasks, suits task) :
    good (tasks.foldl treat service) := by
  induction tasks generalizing service with
  | nil => exact now
  | cons task rest inductionHypothesis =>
    refine inductionHypothesis (treated now (suited task List.mem_cons_self)) ?_
    exact fun other member => suited other (List.mem_cons_of_mem _ member)

theorem runDue (keeps : Keeps deployment suits good) (now : good service) :
    good (service.runDue deployment) := by
  refine foldl keeps.attend now fun task member => ?_
  exact keeps.suited now task (List.mem_filter.1 (List.mem_mergeSort.1 member)).1

/-- Whatever happens but a trigger. -/
theorem happen (keeps : Keeps deployment suits good) (now : good service)
    {happening : Happening} (spared : happening ≠ .trigger) :
    good (service.happen deployment happening) := by
  cases happening with
  | settle =>
    refine foldl keeps.wake now fun task member => ?_
    exact keeps.suited now task (List.mem_filter.1 member).1
  | move moment =>
    have moved : good { service with now := max service.now moment } :=
      keeps.unaltered now rfl rfl rfl rfl
    exact keeps.runDue moved
  | trigger => exact absurd rfl spared
  | cancel serial =>
    unfold Service.happen
    dsimp only
    split
    · exact keeps.remove now _
    · exact now

/-! ### What begins -/

/-- A task begins to sleep, or is aborted at once behind the shutdown. -/
theorem beginSleep (keeps : Keeps deployment suits good) (now : good service) {serial : Nat}
    {purpose : Purpose} {delaySeconds rounds : UInt64}
    (aborted : service.shutdown.isTriggered = true → ∀ other, good other → ∀ stage,
      good (abort other ⟨serial, purpose, delaySeconds, rounds, service.now, stage⟩))
    (sleeps : service.shutdown.isTriggered = false → ∀ stage,
      suits ⟨serial, purpose, delaySeconds, rounds, service.now, stage⟩) :
    good (service.beginSleep deployment serial purpose delaySeconds rounds) := by
  unfold Service.beginSleep
  dsimp only
  split
  · rename_i triggered
    exact aborted triggered _ (keeps.append_remove now _ _) _
  · rename_i untriggered
    exact keeps.runDue (keeps.append now (sleeps (Bool.eq_false_iff.2 untriggered) _) _)

/-- A task begins to wait for the shutdown, or is over at once behind it. -/
theorem beginWait (keeps : Keeps deployment suits good) (now : good service) {serial : Nat}
    (aborted : service.shutdown.isTriggered = true → ∀ other, good other → ∀ stage,
      good (abort other ⟨serial, .wait, 0, 0, service.now, stage⟩))
    (waits : ∀ stage, suits ⟨serial, .wait, 0, 0, service.now, stage⟩) :
    good (service.beginWait serial) := by
  unfold Service.beginWait
  dsimp only
  split
  · rename_i triggered
    exact aborted triggered _ (keeps.append_remove now _ _) _
  · exact keeps.append now (waits _) _

end Keeps

namespace KeepsAlways

theorem interrupt (keeps : KeepsAlways deployment suits good) (now : good service) {task : Task}
    (mine : suits task) : good (service.interrupt task) := by
  unfold Service.interrupt
  split
  · split
    · exact keeps.abort (keeps.interrupted (keeps.remove now task) _) mine
    · exact now
  · split
    · exact keeps.abort (keeps.remove now task) mine
    · exact now
  · exact now

/-- Whatever happens. -/
theorem happen (keeps : KeepsAlways deployment suits good) (now : good service)
    (happening : Happening) : good (service.happen deployment happening) := by
  by_cases triggers : happening = .trigger
  · have triggered : good { service with shutdown := service.shutdown.trigger } :=
      keeps.unaltered now rfl rfl rfl rfl
    rw [triggers]
    exact Keeps.foldl keeps.interrupt triggered (keeps.suited triggered)
  · exact keeps.toKeeps.happen now triggers

/-- Whatever happens, one thing after the other. -/
theorem undergo (keeps : KeepsAlways deployment suits good) (now : good service)
    (happenings : List Happening) : good (service.undergo deployment happenings) := by
  induction happenings generalizing service with
  | nil => exact now
  | cons happening rest inductionHypothesis =>
    exact inductionHypothesis (keeps.happen now happening)

theorem beginSleep (keeps : KeepsAlways deployment suits good) (now : good service)
    {serial : Nat} {purpose : Purpose} {delaySeconds rounds : UInt64}
    (mine : ∀ stage, suits ⟨serial, purpose, delaySeconds, rounds, service.now, stage⟩) :
    good (service.beginSleep deployment serial purpose delaySeconds rounds) :=
  keeps.toKeeps.beginSleep now (fun _ _ other stage => keeps.abort other (mine stage))
    fun _ => mine

theorem beginWait (keeps : KeepsAlways deployment suits good) (now : good service) {serial : Nat}
    (mine : ∀ stage, suits ⟨serial, .wait, 0, 0, service.now, stage⟩) :
    good (service.beginWait serial) :=
  keeps.toKeeps.beginWait now (fun _ _ other stage => keeps.abort other (mine stage)) mine

end KeepsAlways

end Service

end LatencyService
