/-
Requests that come one after the other. Each is waited for until it is
answered, so that nothing is left of it when the next one comes, except a
relayed call that nobody gives up: it stays for good, and nothing ever happens
to it. A service of which no more than such calls are left is at rest. This
file shows that whoever is served by a service at rest is told what the birth
of its task says, once, and that the service is at rest again. So the waiting
always comes to its end.
-/

import LatencyService.Proofs.Answer
import LatencyService.Proofs.Passing
import LatencyService.Proofs.Receivers

namespace LatencyService

namespace Task

/-- Nothing will happen to the task any more: it is not busy, nothing is ever due for it, and it does
not watch the shutdown. -/
structure Lasts (task : Task) : Prop where
  waiting : task.stage ≠ .busy
  endless : task.due? = none
  released : task.holds = false

variable {task : Task}

theorem Lasts.isDueAt (lasts : task.Lasts) (now : Nat) : task.isDueAt now = false := by
  rw [Task.isDueAt, lasts.endless]
  rfl

/-- A task that is not busy, does not wait for the shutdown, and for which nothing is due lasts. -/
theorem lasts_of_due? (waiting : task.stage ≠ .busy) (other : task.isListening = false)
    (endless : task.due? = none) : task.Lasts := by
  refine ⟨waiting, endless, ?_⟩
  rw [holds_eq, other, Bool.or_false, isAsleep]
  cases stage : task.stage with
  | asleep wake receiver =>
    rw [due?, stage] at endless
    have nothing : earlier? (some wake) task.deadline? = none := endless
    cases deadline : task.deadline? with
    | none =>
      rw [deadline] at nothing
      cases nothing
    | some time =>
      rw [deadline] at nothing
      cases nothing
  | _ => rfl

end Task

/-- What is told of a task that is waited for from its birth on: it is over at once, or is attended
to when its time has come, or lasts. -/
def Birth.outcome (deployment : Deployment) (serial now : Nat) : Birth → List Completion
  | .atOnce ending => [⟨serial, now, ending⟩]
  | .begins task => task.due?.elim [] fun due => task.conclusion deployment (max now due)

/-- The clock comes to a time at which something is due for a task. -/
theorem Course.next_move_due (deployment : Deployment) {task : Task} {now time : Nat}
    (due : task.isDueAt time = true) (later : now ≤ time) :
    (⟨now, some task⟩ : Course).next deployment (.move time) =
        ⟨time, (task.attendFate deployment time).rest task⟩ ∧
      (⟨now, some task⟩ : Course).completions deployment (.move time) =
        (task.attendFate deployment time).completions task time := by
  have clock : Happening.clock now (.move time) = time := Nat.max_eq_right later
  have attended : task.fate deployment time (.move time) = task.attendFate deployment time :=
    if_pos due
  rw [Course.next, Course.completions, clock, Option.bind_some, Option.elim_some, attended]
  exact ⟨rfl, rfl⟩

namespace Service

variable {deployment : Deployment} {service : Service} {held serial : Nat} {task : Task}

/-! ### Services at rest -/

/-- Nothing will happen by itself. -/
def Rests (service : Service) : Prop := ∀ task ∈ service.tasks, task.Lasts

/-- Nothing will happen by itself, unless to the task of a number. -/
def RestsBut (service : Service) (serial : Nat) : Prop :=
  ∀ other, other ≠ serial → ∀ task ∈ service.task? other, task.Lasts

theorem Sound.rests_iff (sound : service.Sound held) :
    service.Rests ↔ ∀ serial, ∀ task ∈ service.task? serial, task.Lasts := by
  refine ⟨fun rests serial task found => rests task (mem_of_task? found), fun each task member => ?_⟩
  exact each task.serial task (sound.distinct.task?_of_mem member)

/-- Other tasks stay as they are while time passes. -/
theorem RestsBut.course_undergo (rests : service.RestsBut serial) (sound : service.Sound held)
    {happenings : List Happening}
    (passes : ∀ happening ∈ happenings, happening = .settle ∨ ∃ later, happening = .move later)
    {other : Nat} (others : other ≠ serial) :
    (service.undergo deployment happenings).task? other = service.task? other ∧
      (service.undergo deployment happenings).endingsOf other = service.endingsOf other := by
  have course : (service.undergo deployment happenings).course other =
      (service.course other).follow deployment happenings := sound.course_undergo happenings other
  rw [sound.endingsOf_undergo]
  cases found : service.task? other with
  | none =>
    rw [Service.course, Service.course, found] at course
    rw [Service.course, found, Course.told_ended]
    exact ⟨(congrArg Course.task? course).trans (Course.task?_follow_ended _ _), rfl⟩
  | some task =>
    have lasts := rests other others task found
    have waits : (⟨service.now, some task⟩ : Course).follow deployment happenings =
          ⟨Happening.clockAfter service.now happenings, some task⟩ ∧
        (⟨service.now, some task⟩ : Course).told deployment happenings = [] :=
      Course.follow_waiting deployment lasts.waiting (fun member => by simpa using passes _ member)
        (fun _ member => by simpa using passes _ member) (lasts.isDueAt _)
    rw [Service.course, Service.course, found, waits.1] at course
    rw [Service.course, found, waits.2]
    exact ⟨congrArg Course.task? course, rfl⟩

theorem RestsBut.undergo (rests : service.RestsBut serial) (sound : service.Sound held)
    {happenings : List Happening}
    (passes : ∀ happening ∈ happenings, happening = .settle ∨ ∃ later, happening = .move later) :
    (service.undergo deployment happenings).RestsBut serial := by
  intro other others task found
  rw [(rests.course_undergo sound passes others).1] at found
  exact rests other others task found

/-- The next moment at which something happens by itself is one at which something is due. -/
theorem foldl_earlier?_mem (tasks : List Task) (known : Option Nat) :
    tasks.foldl (fun due task => earlier? due task.due?) known = known ∨
      ∃ task ∈ tasks, tasks.foldl (fun due task => earlier? due task.due?) known = task.due? := by
  induction tasks generalizing known with
  | nil => exact .inl rfl
  | cons first rest inductionHypothesis =>
    have either : earlier? known first.due? = known ∨ earlier? known first.due? = first.due? := by
      cases known with
      | none => cases first.due? <;> exact .inr rfl
      | some time =>
        cases first.due? with
        | none => exact .inl rfl
        | some other =>
          rcases Nat.le_total time other with before | after
          · exact .inl (congrArg some (Nat.min_eq_left before))
          · exact .inr (congrArg some (Nat.min_eq_right after))
    rw [List.foldl_cons]
    rcases inductionHypothesis (earlier? known first.due?) with same | ⟨task, member, same⟩
    · rcases either with old | new
      · exact .inl (same.trans old)
      · exact .inr ⟨first, List.mem_cons_self, same.trans new⟩
    · exact .inr ⟨task, List.mem_cons_of_mem _ member, same⟩

/-- When nothing happens to the others, what is due next is due for the one task. -/
theorem RestsBut.nextDue?_eq (rests : service.RestsBut serial) (sound : service.Sound held)
    (found : service.task? serial = some task) : service.nextDue? = task.due? := by
  have mine (other : Task) (member : other ∈ service.tasks) :
      other.due? = none ∨ other.due? = task.due? := by
    have known := sound.distinct.task?_of_mem member
    by_cases same : other.serial = serial
    · rw [same, found] at known
      exact .inr (congrArg Task.due? (Option.some.inj known).symm)
    · exact .inl (rests other.serial same other known).endless
  have next : service.nextDue? = none ∨ service.nextDue? = task.due? := by
    rcases foldl_earlier?_mem service.tasks none with same | ⟨other, member, same⟩
    · exact .inl same
    · rcases mine other member with last | due
      · exact .inl (same.trans last)
      · exact .inr (same.trans due)
  rcases next with none_due | same
  · cases due : task.due? with
    | none => exact none_due
    | some time =>
      obtain ⟨first, there, -⟩ := nextDue?_le (mem_of_task? found) due
      rw [none_due] at there
      cases there
  · exact same

/-! ### Waiting for one task -/

section Waiting

variable (sound : service.Sound held) (found : service.task? serial = some task) (fuel : Nat)
include sound found

/-- A busy loop is over before time passes. -/
theorem Sound.passage_busy (busy : task.stage = .busy) :
    service.passage deployment serial none (fuel + 1) = [.settle] := by
  have live : service.isLive serial = true := isLive_iff.2 ⟨task, found⟩
  have gone : (service.endBusy deployment).isLive serial = false := by
    have left := sound.task?_happen deployment .settle serial
    rw [found, Option.bind_some, Task.fate, Task.settleFate, if_pos busy, Task.wakeFate,
      busy] at left
    exact isLive_eq_false_iff.2 left
  rw [passage]
  dsimp only
  rw [live, gone]
  rfl

/-- Busy loops end and nothing happens to the task. -/
theorem Sound.task?_endBusy (waiting : task.stage ≠ .busy) :
    (service.endBusy deployment).task? serial = some task := by
  have left := sound.task?_happen deployment .settle serial
  rw [found, Option.bind_some, Task.fate, Task.settleFate, if_neg waiting] at left
  exact left

/-- Time passes until something is due for the task, if that ever comes. -/
theorem RestsBut.passage_waiting (rests : service.RestsBut serial)
    (waiting : task.stage ≠ .busy) :
    service.passage deployment serial none (fuel + 1) =
      .settle :: task.due?.elim [] fun due =>
        .move due :: ((service.endBusy deployment).moveTo deployment due).passage deployment
          serial none fuel := by
  have live : service.isLive serial = true := isLive_iff.2 ⟨task, found⟩
  have still : (service.endBusy deployment).task? serial = some task :=
    sound.task?_endBusy found waiting
  have calm : (service.undergo deployment [.settle]).RestsBut serial :=
    rests.undergo sound (by simp)
  have next : (service.endBusy deployment).nextDue? = task.due? :=
    calm.nextDue?_eq (sound.happen deployment .settle) still
  have quiet : (service.endBusy deployment).isLive serial = true := isLive_iff.2 ⟨task, still⟩
  rw [passage]
  dsimp only
  rw [live, quiet, next]
  cases task.due? <;> rfl

end Waiting

/-- A task that has been attended to is waited for until its busy loop is over, if it has one. -/
theorem Sound.told_passage_attended (sound : service.Sound held) (deployment : Deployment)
    (fits : task.Fits)
    (due : task.isDueAt service.now = true)
    (left : service.task? serial = (task.attendFate deployment service.now).rest task)
    (fuel : Nat) :
    (task.attendFate deployment service.now).completions task service.now ++
        (service.course serial).told deployment
          (service.passage deployment serial none (fuel + 1)) =
      task.conclusion deployment service.now := by
  rw [Task.conclusion]
  rcases Task.attendFate_cases deployment fits due with ⟨ending, ends⟩ | ⟨works, -⟩
  · rw [ends] at left ⊢
    have gone : (service.course serial).task? = none := left
    rw [Course.told_none gone, List.append_nil]
  · rw [works] at left ⊢
    have busy := Course.told_busy deployment service.now
      (rfl : ({ task with stage := .busy } : Task).stage = .busy)
      (by trivial : Happening.Paced false [.settle]) (by simp)
    rw [sound.passage_busy left fuel rfl, Service.course, left]
    exact busy.1.trans (if_pos List.mem_cons_self)

/-- A task that waits is waited for until it has ended, unless it lasts. -/
theorem Sound.told_passage_waiting (sound : service.Sound held) (rests : service.RestsBut serial)
    (fits : task.Fits) (waiting : task.stage ≠ .busy) (found : service.task? serial = some task)
    (early : task.isDueAt service.now = false) (fuel : Nat) :
    (service.course serial).told deployment (service.passage deployment serial none (fuel + 2)) =
      task.due?.elim [] (task.conclusion deployment) := by
  have behind := Course.follow_settle_waiting waiting deployment service.now
  rw [RestsBut.passage_waiting sound found _ rests waiting, Service.course, found, (behind _).2]
  cases same : task.due? with
  | none => rfl
  | some time =>
    have later : service.now ≤ time := Nat.le_of_not_le fun before =>
      Bool.eq_false_iff.1 early (Task.isDueAt_iff.2 ⟨time, same, before⟩)
    have reached : task.isDueAt time = true := Task.isDueAt_iff.2 ⟨time, same, Nat.le_refl time⟩
    -- The service when the clock has come to what is due.
    let moved := (service.endBusy deployment).moveTo deployment time
    have moving := Course.next_move_due deployment reached later
    have course : moved.course serial = ⟨time, (task.attendFate deployment time).rest task⟩ := by
      have both : moved.course serial = (service.course serial).follow deployment
          [.settle, .move time] := sound.course_undergo [.settle, .move time] serial
      have start : service.course serial = ⟨service.now, some task⟩ :=
        congrArg (Course.mk service.now) found
      refine both.trans ?_
      rw [start, (behind _).1]
      exact moving.1
    have now : moved.now = time := congrArg Course.now course
    have movedSound : moved.Sound held := sound.undergo deployment [.settle, .move time]
    have left : moved.task? serial = (task.attendFate deployment moved.now).rest task := by
      rw [now]
      exact congrArg Course.task? course
    have told := movedSound.told_passage_attended deployment fits (now ▸ reached) left fuel
    rw [course, now] at told
    rw [Option.elim_some, Option.elim_some, Course.told, moving.1, moving.2]
    exact told

/-- A task that has begun is waited for until it has ended, unless it lasts. -/
theorem Sound.told_passage (sound : service.Sound held) (rests : service.RestsBut serial)
    (fits : task.Fits) (waiting : task.stage ≠ .busy)
    (left : service.task? serial = (task.dueFate deployment service.now).rest task)
    (fuel : Nat) :
    (task.dueFate deployment service.now).completions task service.now ++
        (service.course serial).told deployment
          (service.passage deployment serial none (fuel + 2)) =
      (Birth.begins task).outcome deployment serial service.now := by
  rw [Birth.outcome]
  by_cases due : task.isDueAt service.now = true
  · obtain ⟨time, there, reached⟩ := Task.isDueAt_iff.1 due
    have same : task.due? = some time := there
    rw [Task.dueFate, if_pos due] at left ⊢
    have told := sound.told_passage_attended deployment fits due left (fuel + 1)
    rw [same, Option.elim_some, Nat.max_eq_left reached]
    exact told
  · have early : task.isDueAt service.now = false := Bool.eq_false_iff.2 due
    rw [Task.dueFate, if_neg due] at left ⊢
    have silent : Fate.waits.completions task service.now = [] := rfl
    rw [silent, List.nil_append, sound.told_passage_waiting rests fits waiting left early]
    cases same : task.due? with
    | none => rw [Option.elim_none, Option.elim_none]
    | some time =>
      have later : service.now ≤ time :=
        Nat.le_of_not_le fun before => due (Task.isDueAt_iff.2 ⟨time, same, before⟩)
      rw [Option.elim_some, Option.elim_some, Nat.max_eq_right later]

/-! ### Waiting for a task that has begun -/

/-- At most one thing is told of a task that is waited for. -/
theorem reverse_outcome (deployment : Deployment) {birth : Birth} {serial now : Nat}
    (fits : ∀ task, birth = .begins task → task.Fits) :
    (birth.outcome deployment serial now).reverse = birth.outcome deployment serial now := by
  cases birth with
  | atOnce ending => rfl
  | begins task =>
    rw [Birth.outcome]
    cases same : task.due? with
    | none => rfl
    | some time =>
      have due : task.isDueAt (max now time) = true :=
        Task.isDueAt_iff.2 ⟨time, same, Nat.le_max_right now time⟩
      obtain ⟨ending, ends⟩ := Task.exists_conclusion deployment (fits task rfl) due
      rw [Option.elim_some, ends]
      rfl

section Beginning

variable {start : Start} {before after : Service}
  (begun : before.Begun deployment start held after) (others : after.RestsBut before.begun)
  (fuel : Nat)

include begun others

/-- What is told of a task from its beginning on until it has been waited for. -/
theorem Begun.told_passage :
    (before.birth deployment start).completions deployment before.begun before.now ++
        (after.course before.begun).told deployment
          (after.passage deployment before.begun none (fuel + 2)) =
      (before.birth deployment start).outcome deployment before.begun before.now := by
  have left := begun.task?
  cases born : before.birth deployment start with
  | atOnce ending =>
    rw [born] at left
    have gone : (after.course before.begun).task? = none := left
    rw [Course.told_none gone, List.append_nil]
    rfl
  | begins task =>
    have new := newborn_of_birth born
    rw [born, Birth.rest, ← begun.now] at left
    rw [← begun.now]
    exact begun.sound.told_passage others new.fits new.waiting left fuel

theorem Begun.endingsOf_passage (silent : before.endingsOf before.begun = []) :
    (after.undergo deployment (after.passage deployment before.begun none (fuel + 2))).endingsOf
        before.begun =
      (before.birth deployment start).outcome deployment before.begun before.now := by
  have fits (task : Task) (born : before.birth deployment start = .begins task) : task.Fits :=
    (newborn_of_birth born).fits
  rw [begun.sound.endingsOf_undergo, begun.endingsOf, silent, List.append_nil,
    ← Birth.reverse_completions, ← List.reverse_append, begun.told_passage others,
    reverse_outcome deployment fits]

variable (active : ∀ task, before.birth deployment start = .begins task → task.isListening = false)
include active

/-- A task that is left when it has been waited for lasts. -/
theorem Begun.lasts_passage :
    ∀ task ∈ (after.undergo deployment
      (after.passage deployment before.begun none (fuel + 2))).task? before.begun, task.Lasts := by
  intro task found
  let passage := after.passage deployment before.begun none (fuel + 2)
  have course : (after.undergo deployment passage).course before.begun =
      (after.course before.begun).follow deployment passage :=
    begun.sound.course_undergo passage before.begun
  have left : ((after.course before.begun).follow deployment passage).task? = some task :=
    (congrArg Course.task? course).symm.trans found
  have told := begun.told_passage others fuel
  have was := begun.task?
  -- Of a task of which something was told nothing is left.
  have silent (completion : Completion) (member : completion ∈
      (before.birth deployment start).outcome deployment before.begun before.now) : False := by
    rw [← told] at member
    rcases List.mem_append.1 member with atOnce | later
    · have gone : (after.course before.begun).task? = none :=
        was.trans (Birth.rest_of_completions atOnce)
      rw [Course.task?_follow_none gone] at left
      cases left
    · rw [Course.task?_of_told later] at left
      cases left
  cases born : before.birth deployment start with
  | atOnce ending =>
    rw [born] at silent
    exact (silent _ List.mem_cons_self).elim
  | begins first =>
    have new := newborn_of_birth born
    cases due : first.due? with
    | some time =>
      have reached : first.isDueAt (max before.now time) = true :=
        Task.isDueAt_iff.2 ⟨time, due, Nat.le_max_right before.now time⟩
      obtain ⟨ending, ends⟩ := Task.exists_conclusion deployment new.fits reached
      rw [born, Birth.outcome, due, Option.elim_some, ends] at silent
      exact (silent _ List.mem_cons_self).elim
    | none =>
      have lasts : first.Lasts := Task.lasts_of_due? new.waiting (active first born) due
      have calm : first.isDueAt before.now = false := lasts.isDueAt _
      rw [born, Birth.rest, Task.dueFate, calm] at was
      rw [(RestsBut.passage_waiting begun.sound was (fuel + 1) others new.waiting), due] at found
      have still : (after.endBusy deployment).task? before.begun = some first :=
        begun.sound.task?_endBusy was new.waiting
      have same : first = task := Option.some.inj (still.symm.trans found)
      exact same ▸ lasts

/-- When a task has been waited for that has begun, the service is at rest. -/
theorem Begun.rests_passage :
    (after.undergo deployment
      (after.passage deployment before.begun none (fuel + 2))).Rests := by
  have sound := begun.sound.undergo deployment
    (after.passage deployment before.begun none (fuel + 2))
  refine sound.rests_iff.2 fun serial task found => ?_
  by_cases mine : serial = before.begun
  · rw [mine] at found
    exact begun.lasts_passage others fuel active task found
  · rw [(others.course_undergo begun.sound (fun _ => mem_passage) mine).1] at found
    exact others serial mine task found

end Beginning

/-! ### Serving a request -/

/-- The service when it is asked: what had ended before is forgotten, and the request has come. -/
def asked (deployment : Deployment) (service : Service) (request : Http.Request) : Service :=
  ({ service with ended := [] } : Service).admitRequest deployment request

/-- The service when a request has been served. -/
def served (deployment : Deployment) (service : Service) (request : Http.Request) : Service :=
  (service.asked deployment request).waitFor deployment service.begun none

/-- The response that ended last. -/
def responseOf : List Completion → Option Http.Response
  | ⟨_, _, .answered response⟩ :: _ => some response
  | _ => none

/-- Whoever is served gets the response that ended last. -/
theorem serve_eq (deployment : Deployment) (service : Service) (request : Http.Request) :
    service.serve deployment request =
      (responseOf (service.served deployment request).ended,
        service.served deployment request) := by
  unfold serve served asked
  dsimp only
  generalize waitFor deployment _ service.begun none = after
  unfold responseOf
  cases after.ended with
  | nil => rfl
  | cons completion rest =>
    obtain ⟨serial, time, ending⟩ := completion
    cases ending <;> rfl

/-- The service as it is asked. -/
theorem Sound.begun_asked (sound : service.Sound held) (prompt : service.Prompt)
    (deployment : Deployment) (request : Http.Request) :
    ({ service with ended := [] } : Service).Begun deployment (.request request) held
      (service.asked deployment request) := by
  have forgetful : ({ service with ended := [] } : Service).Sound held :=
    ⟨sound.distinct, sound.counted, sound.numbered, sound.behind, sound.fitting, sound.drained⟩
  have calm : ({ service with ended := [] } : Service).Prompt := prompt
  exact forgetful.begin calm deployment (.request request)

/-- Where only one task has ended, all that has ended is what is told of it. -/
theorem ended_eq_endingsOf {service : Service} (silent : ∀ other, other ≠ serial →
    service.endingsOf other = []) : service.ended = service.endingsOf serial := by
  refine (List.filter_eq_self.2 fun completion member => ?_).symm
  rw [beq_iff_eq]
  refine Classical.byContradiction fun other => ?_
  have among : completion ∈ service.endingsOf completion.serial :=
    List.mem_filter.2 ⟨member, beq_self_eq_true _⟩
  rw [silent completion.serial other] at among
  cases among

/-- A service at rest that has served a request: it is at rest again, and nothing has ended but the
task of the request, as its birth says. -/
structure Served (deployment : Deployment) (request : Http.Request) (held : Nat)
    (before after : Service) : Prop where
  sound : after.Sound held
  prompt : after.Prompt
  rests : after.Rests
  begun : after.begun = before.begun + 1
  backend : after.backend = before.backendAfter deployment (.request request)
  isTriggered : after.shutdown.isTriggered = before.shutdown.isTriggered
  ended : after.ended =
    (before.birth deployment (.request request)).outcome deployment before.begun before.now

/-- No request waits for the shutdown and for nothing else. -/
theorem isListening_of_requestBirth {task : Task}
    (born : service.birth deployment (.request request) = .begins task) :
    task.isListening = false := by
  have receives := receives_birth deployment service request
  rw [born] at receives
  obtain ⟨-⟩ | ⟨route, asks, -⟩ := receives
  refine Bool.eq_false_iff.2 fun listening => ?_
  have fits := (newborn_of_birth born).fits
  unfold Task.isListening at listening
  unfold Task.Fits at fits
  cases stage : task.stage with
  | listening receiver =>
    rw [stage] at fits
    have waits : task.purpose = .wait := fits
    rw [waits] at asks
    cases asks
  | _ =>
    rw [stage] at listening
    cases listening

/-- A service at rest serves every request. -/
theorem Sound.serve (sound : service.Sound held) (prompt : service.Prompt)
    (rests : service.Rests) (deployment : Deployment) (request : Http.Request) :
    service.Served deployment request held (service.served deployment request) := by
  have begun := sound.begun_asked prompt deployment request
  -- What was at rest has not noticed that the request came.
  have others : (service.asked deployment request).RestsBut service.begun := by
    intro other different task found
    have known : (service.asked deployment request).task? other = service.task? other :=
      begun.task?_other other different
    rw [known] at found
    exact rests task (mem_of_task? found)
  have passed : service.served deployment request =
      (service.asked deployment request).undergo deployment
        ((service.asked deployment request).passage deployment service.begun none
          (3 * (service.asked deployment request).tasks.length + 1 + 2)) :=
    passTime_eq_undergo deployment service.begun none _ (service.asked deployment request)
  generalize service.asked deployment request = asked at begun others passed
  generalize 3 * asked.tasks.length + 1 = fuel at passed
  rw [passed]
  have silent (other : Nat) (different : other ≠ service.begun) :
      (asked.undergo deployment (asked.passage deployment service.begun none
        (fuel + 2))).endingsOf other = [] := by
    rw [(others.course_undergo begun.sound (fun _ => mem_passage) different).2]
    exact begun.endingsOf_other other different
  refine ⟨begun.sound.undergo deployment _, begun.prompt.undergo begun.sound deployment _,
    begun.rests_passage others fuel fun _ => isListening_of_requestBirth, ?_, ?_, ?_, ?_⟩
  · rw [begun.sound.begun_undergo]
    exact begun.begun
  · rw [begun.sound.backend_undergo]
    exact begun.backend
  · have untriggered : (asked.passage deployment service.begun none (fuel + 2)).contains
        .trigger = false := by
      rw [← Bool.not_eq_true, List.contains_iff_mem]
      exact fun member => by simpa using mem_passage member
    rw [begun.sound.isTriggered_undergo, untriggered, Bool.or_false]
    exact begun.isTriggered
  · have same : ({ service with ended := [] } : Service).birth deployment (.request request) =
        service.birth deployment (.request request) := by
      refine birth_congr ?_ ?_ ?_ ?_ ?_ _ <;> rfl
    rw [ended_eq_endingsOf silent, ← same]
    exact begun.endingsOf_passage others fuel rfl

end Service

end LatencyService
