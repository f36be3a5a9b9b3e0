/-
What happens to the service, one thing after the other. A task that has begun
sees nothing of the service but the clock and itself, and it is led through all
that happens by what it sees. Time that passes until some task has ended is a
list of things that happen, too.
-/

import LatencyService.Proofs.Beginning

namespace LatencyService

namespace Service

/-! ### Things happen one after the other -/

/-- Carry out what happens to the service, in its order. -/
def undergo (deployment : Deployment) (service : Service) (happenings : List Happening) : Service :=
  happenings.foldl (happen deployment) service

/-- What happens while time passes until a task has ended or the last moment has come. -/
def passage (deployment : Deployment) (serial : Nat) (last : Option Nat) (fuel : Nat)
    (service : Service) : List Happening :=
  match fuel with
  | 0 => []
  | fuel + 1 =>
    if !service.isLive serial then []
    else
      let quiet := service.endBusy deployment
      if !quiet.isLive serial then [.settle]
      else
        let stop := .settle :: (last.map Happening.move).toList
        match quiet.nextDue? with
        | none => stop
        | some due =>
          if last.any (· < due) then stop
          else
            .settle :: .move due ::
              passage deployment serial last fuel (quiet.moveTo deployment due)

variable (deployment : Deployment)

/-- Time passes by what happens meanwhile. -/
theorem passTime_eq_undergo (serial : Nat) (last : Option Nat) (fuel : Nat) (service : Service) :
    service.passTime deployment serial last fuel =
      service.undergo deployment (service.passage deployment serial last fuel) := by
  induction fuel generalizing service with
  | zero => rfl
  | succ fuel inductionHypothesis =>
    unfold passTime passage
    dsimp only
    cases service.isLive serial with
    | false => rfl
    | true =>
      cases (service.endBusy deployment).isLive serial with
      | false => rfl
      | true =>
        cases (service.endBusy deployment).nextDue? with
        | none => cases last <;> rfl
        | some due =>
          by_cases late : last.any (· < due) = true
          · simp only [if_pos late]
            cases last <;> rfl
          · simp only [if_neg late]
            exact inductionHypothesis _

/-! ### What the service is left with -/

section Undergo

variable {service : Service} {held : Nat} {deployment}

theorem undergo_cons (happening : Happening) (rest : List Happening) :
    service.undergo deployment (happening :: rest) =
      (service.happen deployment happening).undergo deployment rest := rfl

theorem Sound.undergo (sound : service.Sound held) (deployment : Deployment)
    (happenings : List Happening) : (service.undergo deployment happenings).Sound held := by
  induction happenings generalizing service with
  | nil => exact sound
  | cons happening rest inductionHypothesis =>
    exact inductionHypothesis (sound.happen deployment happening)

theorem Prompt.undergo (prompt : service.Prompt) (sound : service.Sound held)
    (deployment : Deployment) (happenings : List Happening) :
    (service.undergo deployment happenings).Prompt := by
  induction happenings generalizing service with
  | nil => exact prompt
  | cons happening rest inductionHypothesis =>
    exact inductionHypothesis (prompt.happen sound deployment happening)
      (sound.happen deployment happening)

theorem Sound.begun_undergo (sound : service.Sound held) (happenings : List Happening) :
    (service.undergo deployment happenings).begun = service.begun := by
  induction happenings generalizing service with
  | nil => rfl
  | cons happening rest inductionHypothesis =>
    rw [undergo_cons, inductionHypothesis (sound.happen deployment happening), sound.begun_happen]

theorem Sound.backend_undergo (sound : service.Sound held) (happenings : List Happening) :
    (service.undergo deployment happenings).backend = service.backend := by
  induction happenings generalizing service with
  | nil => rfl
  | cons happening rest inductionHypothesis =>
    rw [undergo_cons, inductionHypothesis (sound.happen deployment happening), sound.backend_happen]

/-- The shutdown has been triggered if it was before, or if that is among what happened. -/
theorem Sound.isTriggered_undergo (sound : service.Sound held) (happenings : List Happening) :
    (service.undergo deployment happenings).shutdown.isTriggered =
      (service.shutdown.isTriggered || happenings.contains .trigger) := by
  induction happenings generalizing service with
  | nil => exact (Bool.or_false _).symm
  | cons happening rest inductionHypothesis =>
    rw [undergo_cons, inductionHypothesis (sound.happen deployment happening),
      sound.isTriggered_happen, List.contains_cons]
    cases happening with
    | trigger => simp [poised]
    | _ => rfl

end Undergo

end Service

/-! ### What one task sees of it -/

/-- The time that the clock shows when something has happened. -/
def Happening.clock (now : Nat) : Happening → Nat
  | .move later => max now later
  | _ => now

/-- All that a task sees of the service: the clock and itself, unless it has ended. -/
structure Course where
  now : Nat
  task? : Option Task
  deriving DecidableEq

namespace Course

variable (deployment : Deployment)

/-- The course of a task when something has happened. -/
def next (course : Course) (happening : Happening) : Course :=
  let now := happening.clock course.now
  ⟨now, course.task?.bind fun task => (task.fate deployment now happening).rest task⟩

/-- What is told of a task when something happens. -/
def completions (course : Course) (happening : Happening) : List Completion :=
  let now := happening.clock course.now
  course.task?.elim [] fun task => (task.fate deployment now happening).completions task now

/-- The course of a task when several things have happened. -/
def follow (course : Course) (happenings : List Happening) : Course :=
  happenings.foldl (next deployment) course

/-- All that is told of a task when several things happen, in the order of telling. -/
def told (course : Course) : List Happening → List Completion
  | [] => []
  | happening :: rest =>
    course.completions deployment happening ++ told (course.next deployment happening) rest

variable (course : Course)

theorem follow_append (first second : List Happening) :
    course.follow deployment (first ++ second) =
      (course.follow deployment first).follow deployment second := List.foldl_append

theorem told_append (first second : List Happening) :
    course.told deployment (first ++ second) =
      course.told deployment first ++ (course.follow deployment first).told deployment second := by
  induction first generalizing course with
  | nil => rfl
  | cons happening rest inductionHypothesis =>
    rw [List.cons_append, told, told, inductionHypothesis, List.append_assoc]
    rfl

/-- A task that has ended tells nothing more. -/
theorem told_ended (now : Nat) (happenings : List Happening) :
    (⟨now, none⟩ : Course).told deployment happenings = [] := by
  induction happenings generalizing now with
  | nil => rfl
  | cons happening rest inductionHypothesis => exact inductionHypothesis _

/-- At most one thing is told at a time. -/
theorem reverse_completions (happening : Happening) :
    (course.completions deployment happening).reverse =
      course.completions deployment happening := by
  unfold completions
  cases course.task? with
  | none => rfl
  | some task => exact Fate.reverse_completions task _ _

/-! ### One thing happens -/

variable {deployment course} {now : Nat} {task : Task} {happening : Happening}

theorem next_of_waits
    (waits : task.fate deployment (happening.clock now) happening = .waits) :
    (⟨now, some task⟩ : Course).next deployment happening = ⟨happening.clock now, some task⟩ ∧
      (⟨now, some task⟩ : Course).completions deployment happening = [] :=
  ⟨congrArg (Course.mk _) (congrArg (Fate.rest task) waits),
    congrArg (Fate.completions task _) waits⟩

theorem next_of_works
    (works : task.fate deployment (happening.clock now) happening = .works) :
    (⟨now, some task⟩ : Course).next deployment happening =
        ⟨happening.clock now, some { task with stage := .busy }⟩ ∧
      (⟨now, some task⟩ : Course).completions deployment happening = [] :=
  ⟨congrArg (Course.mk _) (congrArg (Fate.rest task) works),
    congrArg (Fate.completions task _) works⟩

theorem next_of_ends {ending : Option Ending}
    (ends : task.fate deployment (happening.clock now) happening = .ends ending) :
    (⟨now, some task⟩ : Course).next deployment happening = ⟨happening.clock now, none⟩ ∧
      (⟨now, some task⟩ : Course).completions deployment happening =
        (Fate.ends ending).completions task (happening.clock now) :=
  ⟨congrArg (Course.mk _) (congrArg (Fate.rest task) ends),
    congrArg (Fate.completions task _) ends⟩

/-- When a task ends, all is told of it that there is to tell. -/
theorem told_of_ends {ending : Ending} {rest : List Happening}
    (ends : task.fate deployment (happening.clock now) happening = .ends (some ending)) :
    (⟨now, some task⟩ : Course).told deployment (happening :: rest) =
      [⟨task.serial, happening.clock now, ending⟩] := by
  rw [told, (next_of_ends ends).1, (next_of_ends ends).2, told_ended]
  rfl

/-! ### The end of a course -/

/-- A task that has ended does not come back. -/
theorem task?_follow_ended (now : Nat) (happenings : List Happening) :
    ((⟨now, none⟩ : Course).follow deployment happenings).task? = none := by
  induction happenings generalizing now with
  | nil => rfl
  | cons happening rest inductionHypothesis => exact inductionHypothesis _

theorem task?_follow_none (ended : course.task? = none) (happenings : List Happening) :
    (course.follow deployment happenings).task? = none := by
  obtain ⟨now, task?⟩ := course
  cases ended
  exact task?_follow_ended now happenings

theorem told_none (ended : course.task? = none) (happenings : List Happening) :
    course.told deployment happenings = [] := by
  obtain ⟨now, task?⟩ := course
  cases ended
  exact told_ended deployment now happenings

theorem follow_cons (happening : Happening) (rest : List Happening) :
    course.follow deployment (happening :: rest) =
      (course.next deployment happening).follow deployment rest := rfl

/-- The end of busy loops is nothing to a task that is not busy. -/
theorem next_settle_waiting (waiting : task.stage ≠ .busy) (deployment : Deployment) (now : Nat) :
    (⟨now, some task⟩ : Course).next deployment .settle = ⟨now, some task⟩ ∧
      (⟨now, some task⟩ : Course).completions deployment .settle = [] :=
  next_of_waits (if_neg waiting)

/-- Behind the end of busy loops comes what happens to such a task. -/
theorem follow_settle_waiting (waiting : task.stage ≠ .busy) (deployment : Deployment) (now : Nat)
    (rest : List Happening) :
    (⟨now, some task⟩ : Course).follow deployment (.settle :: rest) =
        (⟨now, some task⟩ : Course).follow deployment rest ∧
      (⟨now, some task⟩ : Course).told deployment (.settle :: rest) =
        (⟨now, some task⟩ : Course).told deployment rest := by
  have still := next_settle_waiting waiting deployment now
  rw [follow_cons, told, still.1, still.2]
  exact ⟨rfl, rfl⟩

/-- A task of which its end is told has ended. -/
theorem task?_of_completions {happening : Happening} {completion : Completion}
    (member : completion ∈ course.completions deployment happening) :
    (course.next deployment happening).task? = none := by
  unfold completions at member
  unfold next
  cases known : course.task? with
  | none => rfl
  | some task =>
    rw [known, Option.elim_some] at member
    exact Fate.rest_of_completions member

theorem task?_of_told {happenings : List Happening} {completion : Completion}
    (member : completion ∈ course.told deployment happenings) :
    (course.follow deployment happenings).task? = none := by
  induction happenings generalizing course with
  | nil => exact nomatch member
  | cons happening rest inductionHypothesis =>
    rcases List.mem_append.1 member with first | later
    · exact task?_follow_none (task?_of_completions first) rest
    · exact inductionHypothesis later

/-- Whatever is told of a task is the ending that some fate has for it, while the task keeps to what
no fate changes that leaves it. -/
theorem exists_fate_of_told {keeps : Task → Prop}
    (kept : ∀ task now happening left, keeps task →
      (task.fate deployment now happening).rest task = some left → keeps left)
    (first : ∀ task ∈ course.task?, keeps task) {happenings : List Happening}
    {completion : Completion} (member : completion ∈ course.told deployment happenings) :
    ∃ (task : Task) (now : Nat) (happening : Happening), keeps task ∧
      task.fate deployment now happening = .ends (some completion.ending) := by
  induction happenings generalizing course with
  | nil => exact nomatch member
  | cons happening rest inductionHypothesis =>
    rcases List.mem_append.1 member with now | later
    · unfold completions at now
      cases known : course.task? with
      | none =>
        rw [known] at now
        exact nomatch now
      | some task =>
        rw [known, Option.elim_some] at now
        obtain ⟨ending, ends, same⟩ := Fate.ends_of_completions now
        rw [same]
        exact ⟨task, happening.clock course.now, happening, first task known, ends⟩
    · refine inductionHypothesis (fun task left => ?_) later
      obtain ⟨old, known, rest⟩ := Option.bind_eq_some_iff.1 left
      exact kept old _ happening task (first old known) rest

/-- A task that is still there keeps to what no fate changes that leaves it. -/
theorem keeps_follow {keeps : Task → Prop}
    (kept : ∀ task now happening left, keeps task →
      (task.fate deployment now happening).rest task = some left → keeps left)
    (first : ∀ task ∈ course.task?, keeps task) (happenings : List Happening) :
    ∀ task ∈ (course.follow deployment happenings).task?, keeps task := by
  induction happenings generalizing course with
  | nil => exact first
  | cons happening rest inductionHypothesis =>
    refine inductionHypothesis fun task left => ?_
    obtain ⟨old, known, rest⟩ := Option.bind_eq_some_iff.1 left
    exact kept old _ happening task (first old known) rest

theorem serial_next {serial : Nat} (mine : ∀ task ∈ course.task?, task.serial = serial)
    (happening : Happening) :
    ∀ task ∈ (course.next deployment happening).task?, task.serial = serial := by
  intro task left
  obtain ⟨old, known, rest⟩ := Option.bind_eq_some_iff.1 left
  rw [Fate.serial_of_rest rest]
  exact mine old known

/-- A task that was cancelled has ended. -/
theorem task?_of_cancel {serial : Nat} {happenings : List Happening}
    (mine : ∀ task ∈ course.task?, task.serial = serial)
    (member : .cancel serial ∈ happenings) :
    (course.follow deployment happenings).task? = none := by
  induction happenings generalizing course with
  | nil => exact nomatch member
  | cons happening rest inductionHypothesis =>
    rcases List.mem_cons.1 member with same | later
    · refine task?_follow_none ?_ rest
      cases there : course.task? with
      | none => rw [next, there, Option.bind_none]
      | some task =>
        rw [next, there, Option.bind_some, ← same, Task.fate, if_pos (mine task there)]
        rfl
    · exact inductionHypothesis (serial_next mine happening) later

end Course

namespace Service

variable {service : Service} {held : Nat} {deployment : Deployment}

/-- The course of a task at the service. -/
def course (service : Service) (serial : Nat) : Course := ⟨service.now, service.task? serial⟩

theorem now_poised (service : Service) (happening : Happening) :
    (service.poised happening).now = happening.clock service.now := by
  cases happening <;> rfl

theorem Sound.course_happen (sound : service.Sound held) (deployment : Deployment)
    (happening : Happening) (serial : Nat) :
    (service.happen deployment happening).course serial =
      (service.course serial).next deployment happening := by
  rw [course, sound.now_happen, sound.task?_happen, now_poised]
  rfl

/-- A task is led through what happens by its course alone. -/
theorem Sound.course_undergo (sound : service.Sound held) (happenings : List Happening)
    (serial : Nat) :
    (service.undergo deployment happenings).course serial =
      (service.course serial).follow deployment happenings := by
  induction happenings generalizing service with
  | nil => rfl
  | cons happening rest inductionHypothesis =>
    rw [undergo_cons, inductionHypothesis (sound.happen deployment happening),
      sound.course_happen]
    rfl

theorem Sound.endingsOf_undergo (sound : service.Sound held) (happenings : List Happening)
    (serial : Nat) :
    (service.undergo deployment happenings).endingsOf serial =
      ((service.course serial).told deployment happenings).reverse ++ service.endingsOf serial := by
  induction happenings generalizing service with
  | nil => rfl
  | cons happening rest inductionHypothesis =>
    rw [undergo_cons, inductionHypothesis (sound.happen deployment happening),
      sound.course_happen, sound.endingsOf_happen, now_poised, Course.told, List.reverse_append,
      List.append_assoc, Course.reverse_completions]
    rfl

end Service

end LatencyService
