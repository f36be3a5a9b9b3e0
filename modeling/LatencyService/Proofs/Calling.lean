/-
A service call beside the operation that it runs. Let an operation begin in one
run and a service call in its place in another. What becomes of the call is
what becomes of the operation: the same things happen to both at the same time,
and the call ends as its policy says of the ending of the operation. Nobody else
notices which of the two it is. So one run is turned into the other by a map,
and everything that happens commutes with it.
-/

import LatencyService.Proofs.Receivers

namespace LatencyService

/-! ### The call in the place of the operation -/

/-- An operation becomes a service call, and everything else stays what it is. -/
def Purpose.asCall (policy : AbortPolicy) : Purpose → Purpose
  | .operation => .service policy
  | other => other

/-- How a service call ends by the way in which its operation ends: whatever an operation reports is
dropped, and the policy tells what becomes of an abortion. -/
def Ending.asCall (policy : AbortPolicy) : Ending → Ending
  | .completed _ => .served .empty
  | .aborted =>
    match policy with
    | .propagate => .aborted
    | .logAndDefault => .served .empty
  | other => other

/-- The task of a number becomes a service call. -/
def Task.asCall (own : Nat) (policy : AbortPolicy) (task : Task) : Task :=
  { task with purpose := if task.serial = own then task.purpose.asCall policy else task.purpose }

/-- How a task ends, if the task of a number is a service call. -/
def Ending.asCallOf (own : Nat) (policy : AbortPolicy) (serial : Nat) (ending : Ending) : Ending :=
  if serial = own then ending.asCall policy else ending

/-- What is told of a task, if the task of a number is a service call. -/
def Completion.asCall (own : Nat) (policy : AbortPolicy) (completion : Completion) : Completion :=
  { completion with ending := completion.ending.asCallOf own policy completion.serial }

/-- The fate of a task, if the task of a number is a service call. -/
def Fate.asCall (own : Nat) (policy : AbortPolicy) (serial : Nat) : Fate → Fate
  | .ends ending => .ends (ending.map (Ending.asCallOf own policy serial))
  | other => other

/-- What a task is born as, if the task of a number is a service call. -/
def Birth.asCall (own : Nat) (policy : AbortPolicy) (serial : Nat) : Birth → Birth
  | .atOnce ending => .atOnce (ending.asCallOf own policy serial)
  | .begins task => .begins (task.asCall own policy)

/-- The service at which the task of a number is a service call. -/
def Service.asCall (own : Nat) (policy : AbortPolicy) (service : Service) : Service :=
  { service with
    tasks := service.tasks.map (Task.asCall own policy)
    ended := service.ended.map (Completion.asCall own policy) }

/-- What is observed when the task of a number is a service call. -/
def Observation.asCall (own : Nat) (policy : AbortPolicy) (observation : Observation) :
    Observation :=
  { observation with
    ended := observation.ended.map fun entry => (entry.1, entry.2.asCall own policy) }

/-- The task of a number, if it is this one, is an operation. -/
def Task.Operates (own : Nat) (task : Task) : Prop :=
  task.serial = own → task.purpose = .operation

variable {own : Nat} {policy : AbortPolicy}

theorem Ending.asCallOf_own (ending : Ending) :
    ending.asCallOf own policy own = ending.asCall policy := if_pos rfl

theorem Ending.asCallOf_other {serial : Nat} (other : serial ≠ own) :
    Ending.asCallOf own policy serial = id := funext fun _ => if_neg other

/-! ### One task -/

namespace Task

variable {deployment : Deployment} {now : Nat} {task : Task}

theorem asCall_other (other : task.serial ≠ own) : task.asCall own policy = task := by
  rw [asCall, if_neg other]

theorem asCall_own (mine : task.serial = own) (operates : task.purpose = .operation) :
    task.asCall own policy = { task with purpose := .service policy } := by
  rw [asCall, if_pos mine, operates]
  rfl

theorem Operates.due? (operates : task.Operates own) :
    (task.asCall own policy).due? = task.due? := by
  by_cases mine : task.serial = own
  · rw [asCall_own mine (operates mine), Task.due?, Task.due?, deadline?, deadline?, operates mine]
    rfl
  · rw [asCall_other mine]

/-- What becomes of an operation becomes of the call in its place. -/
theorem wakeFate_call (operates : task.purpose = .operation) :
    ({ task with purpose := .service policy } : Task).wakeFate deployment now =
      (task.wakeFate deployment now).asCall task.serial policy task.serial := by
  obtain ⟨serial, purpose, delaySeconds, rounds, started, stage⟩ := task
  cases operates
  have completes : (Fate.ends (some (.served .empty))) =
      (Fate.ends (some (.completed (Service.reportOf deployment.settings.operation
        (now - started))))).asCall serial policy serial := by
    rw [Fate.asCall, Option.map_some, Ending.asCallOf_own]
    rfl
  cases stage with
  | asleep wake receiver =>
    by_cases none : rounds = 0
    · simpa [wakeFate, completionFate, Purpose.success?, none] using completes
    · simp [wakeFate, none, Fate.asCall]
  | busy => exact completes
  | listening receiver => rfl
  | relaying url giveUp => rfl

theorem abortion_call : (Purpose.service policy).abortion =
    Purpose.operation.abortion.asCall policy := by
  cases policy <;> rfl

theorem fate_call (operates : task.purpose = .operation) (happening : Happening) :
    ({ task with purpose := .service policy } : Task).fate deployment now happening =
      (task.fate deployment now happening).asCall task.serial policy task.serial := by
  have wakes : ({ task with purpose := .service policy } : Task).wakeFate deployment now =
      (task.wakeFate deployment now).asCall task.serial policy task.serial :=
    wakeFate_call operates
  cases happening with
  | settle =>
    simp only [fate, settleFate]
    split
    · exact wakes
    · rfl
  | move later =>
    have due : ({ task with purpose := .service policy } : Task).isDueAt now =
        task.isDueAt now := by
      rw [isDueAt, isDueAt, Task.due?, Task.due?, deadline?, deadline?, operates]
      rfl
    simp only [fate, dueFate, attendFate, operates, due]
    split
    · exact wakes
    · rfl
  | trigger =>
    simp only [fate, operates, abortion_call]
    show (if task.holds then _ else _) = Fate.asCall _ _ _ (if task.holds then _ else _)
    split
    · simp [Fate.asCall, Ending.asCallOf_own]
    · rfl
  | cancel serial =>
    simp only [fate]
    split <;> rfl

/-- Whatever becomes of a task commutes with taking the operation of a number for a call. -/
theorem Operates.fate (operates : task.Operates own) (deployment : Deployment) (now : Nat)
    (happening : Happening) :
    (task.asCall own policy).fate deployment now happening =
      (task.fate deployment now happening).asCall own policy task.serial := by
  by_cases mine : task.serial = own
  · rw [asCall_own mine (operates mine), fate_call (operates mine), mine]
  · rw [asCall_other mine]
    cases task.fate deployment now happening with
    | ends ending => rw [Fate.asCall, Ending.asCallOf_other mine, Option.map_id, id]
    | _ => rfl

end Task

/-- An operation is complete or aborted when it ends. -/
theorem Task.ending_of_operation {deployment : Deployment} {now : Nat} {task : Task}
    {happening : Happening} {ending : Ending} (operates : task.purpose = .operation)
    (ends : task.fate deployment now happening = .ends (some ending)) :
    (∃ report, ending = .completed report) ∨ ending = .aborted := by
  have woken (wakes : task.wakeFate deployment now = .ends (some ending)) :
      ∃ report, ending = .completed report := by
    obtain ⟨serial, purpose, delaySeconds, rounds, started, stage⟩ := task
    cases operates
    cases stage with
    | asleep wake receiver =>
      simp only [wakeFate, completionFate, Purpose.success?] at wakes
      split at wakes
      · cases wakes
        exact ⟨_, rfl⟩
      · cases wakes
    | busy =>
      cases wakes
      exact ⟨_, rfl⟩
    | listening receiver => cases wakes
    | relaying url giveUp => cases wakes
  cases happening with
  | settle =>
    simp only [fate, settleFate] at ends
    split at ends
    · exact .inl (woken ends)
    · cases ends
  | move later =>
    simp only [fate, dueFate, attendFate, operates, Purpose.exchange?] at ends
    split at ends
    · exact .inl (woken ends)
    · cases ends
  | trigger =>
    simp only [fate, operates] at ends
    split at ends
    · cases ends
      exact .inr rfl
    · cases ends
  | cancel serial =>
    simp only [fate] at ends
    split at ends <;> cases ends

/-! ### The service -/

namespace Service

variable {deployment : Deployment} {service : Service}

theorem asCall_meet (service : Service) (task : Task) (fate : Fate) :
    (service.meet task fate).asCall own policy =
      (service.asCall own policy).meet (task.asCall own policy)
        (fate.asCall own policy task.serial) := by
  have removed : (service.tasks.filter (·.serial != task.serial)).map (Task.asCall own policy) =
      (service.tasks.map (Task.asCall own policy)).filter (·.serial != task.serial) := by
    rw [List.filter_map]
    rfl
  rcases fate with _ | _ | _ | ending
  · rfl
  · simp only [meet, Fate.asCall, asCall, replace, List.map_map]
    congr 1
    refine List.map_congr_left fun other _ => ?_
    by_cases same : other.serial = task.serial
    · simp [same, Task.asCall]
    · simp [same, Task.asCall]
  · simp only [meet, Fate.asCall, asCall, conclude, remove, removed]
    rfl
  · simp only [meet, Fate.asCall, asCall, conclude, remove, finish, removed]
    rfl

theorem asCall_sweep {fate : Task → Fate} {tasks : List Task}
    (commutes : ∀ task ∈ tasks,
      fate (task.asCall own policy) = (fate task).asCall own policy task.serial) :
    (service.sweep fate tasks).asCall own policy =
      (service.asCall own policy).sweep fate (tasks.map (Task.asCall own policy)) := by
  induction tasks generalizing service with
  | nil => rfl
  | cons task rest inductionHypothesis =>
    have later := @inductionHypothesis (service.meet task (fate task))
      fun other member => commutes other (List.mem_cons_of_mem _ member)
    rw [sweep_cons, later, asCall_meet, List.map_cons, sweep_cons,
      commutes task List.mem_cons_self]

theorem asCall_due (operates : ∀ task ∈ service.tasks, task.Operates own) :
    (service.asCall own policy).due = service.due.map (Task.asCall own policy) := by
  have filtered : (service.tasks.map (Task.asCall own policy)).filter (·.isDueAt service.now) =
      (service.tasks.filter (·.isDueAt service.now)).map (Task.asCall own policy) := by
    rw [List.filter_map]
    refine congrArg (List.map _) (List.filter_congr fun task member => ?_)
    show (task.asCall own policy).isDueAt service.now = task.isDueAt service.now
    rw [Task.isDueAt, (operates task member).due?, Task.isDueAt]
  rw [due, due]
  refine (congrArg (List.mergeSort · _) filtered).trans (List.map_mergeSort ?_).symm
  intro first among second other
  rw [(operates first (List.mem_filter.1 among).1).due?,
    (operates second (List.mem_filter.1 other).1).due?]

theorem asCall_reached (operates : ∀ task ∈ service.tasks, task.Operates own)
    (happening : Happening) :
    (service.asCall own policy).reached happening =
      (service.reached happening).map (Task.asCall own policy) := by
  cases happening with
  | settle => exact List.filter_map
  | move now =>
    let moved : Service := { service with now := max service.now now }
    exact @asCall_due own policy moved operates
  | trigger => rfl
  | cancel serial =>
    have found : (service.tasks.map (Task.asCall own policy)).find? (·.serial == serial) =
        (service.tasks.find? (·.serial == serial)).map (Task.asCall own policy) := List.find?_map
    show Option.toList _ = List.map _ (Option.toList _)
    rw [asCall, found]
    cases service.tasks.find? (·.serial == serial) <;> rfl

/-- At the second service a call is in the place of the operation of a number at the first one. -/
structure Calls (own : Nat) (policy : AbortPolicy) (operating calling : Service) : Prop where
  same : calling.bare = (operating.asCall own policy).bare
  operates : ∀ task ∈ operating.tasks, task.Operates own

namespace Calls

variable {operating calling : Service} {held : Nat}

theorem now (calls : Calls own policy operating calling) : calling.now = operating.now :=
  (congrArg Service.now calls.same :)

theorem begun (calls : Calls own policy operating calling) : calling.begun = operating.begun :=
  (congrArg Service.begun calls.same :)

theorem backend (calls : Calls own policy operating calling) :
    calling.backend = operating.backend := (congrArg Service.backend calls.same :)

theorem shutdown (calls : Calls own policy operating calling) :
    calling.shutdown = operating.shutdown := (congrArg Service.shutdown calls.same :)

theorem tasks (calls : Calls own policy operating calling) :
    calling.tasks = operating.tasks.map (Task.asCall own policy) :=
  (congrArg Service.tasks calls.same :)

theorem ended (calls : Calls own policy operating calling) :
    calling.ended = operating.ended.map (Completion.asCall own policy) :=
  (congrArg Service.ended calls.same :)

/-- Whatever happens to both, the call stays in the place of the operation. -/
theorem happen (calls : Calls own policy operating calling) (sound : operating.Sound held)
    (soundCalling : calling.Sound held) (deployment : Deployment) (happening : Happening) :
    Calls own policy (operating.happen deployment happening)
      (calling.happen deployment happening) := by
  have poised : (calling.poised happening).bare =
      ((operating.poised happening).asCall own policy).bare := by
    have bared (service : Service) :
        (service.poised happening).bare = service.bare.poised happening := by
      cases happening <;> rfl
    have maps : (operating.poised happening).asCall own policy =
        (operating.asCall own policy).poised happening := by
      cases happening <;> rfl
    rw [maps, bared, bared, calls.same]
  have reached : calling.reached happening =
      (operating.reached happening).map (Task.asCall own policy) := by
    have bared (service : Service) :
        service.bare.reached happening = service.reached happening := by
      cases happening <;> rfl
    rw [← bared calling, calls.same, bared, asCall_reached calls.operates]
  have clock : (calling.poised happening).now = (operating.poised happening).now :=
    (congrArg Service.now poised :)
  have bared (service : Service) :
      (service.asCall own policy).bare = service.bare.asCall own policy := rfl
  obtain ⟨sweeps, swept⟩ := sound.bare_happen deployment happening
  have there : (operating.poised happening).bare.tasks = operating.tasks := by
    cases happening <;> rfl
  refine ⟨?_, fun task member mine => ?_⟩
  · rw [(soundCalling.bare_happen deployment happening).2, clock, poised, reached, bared, bared,
      swept, asCall_sweep fun task member => ?_]
    have known : task ∈ operating.tasks := there ▸ sweeps.present task member
    exact (calls.operates task known).fate deployment _ happening
  · obtain ⟨old, known, left⟩ := sound.exists_rest member
    rw [Fate.purpose_of_rest left]
    exact calls.operates old known ((Fate.serial_of_rest left).symm.trans mine)

theorem undergo (calls : Calls own policy operating calling) (sound : operating.Sound held)
    (soundCalling : calling.Sound held) (deployment : Deployment) (happenings : List Happening) :
    Calls own policy (operating.undergo deployment happenings)
      (calling.undergo deployment happenings) := by
  induction happenings generalizing operating calling with
  | nil => exact calls
  | cons happening rest inductionHypothesis =>
    exact inductionHypothesis (calls.happen sound soundCalling deployment happening)
      (sound.happen deployment happening) (soundCalling.happen deployment happening)

/-! ### Time passes -/

theorem isLive (calls : Calls own policy operating calling) (serial : Nat) :
    calling.isLive serial = operating.isLive serial := by
  rw [Service.isLive, Service.isLive, calls.tasks, List.any_map]
  rfl

theorem nextDue? (calls : Calls own policy operating calling) :
    calling.nextDue? = operating.nextDue? := by
  rw [Service.nextDue?, Service.nextDue?, calls.tasks, List.foldl_map]
  refine List.foldl_ext _ _ _ fun due task member => ?_
  rw [(calls.operates task member).due?]

/-- While somebody waits for a task, the same happens to both. -/
theorem passage (calls : Calls own policy operating calling) (sound : operating.Sound held)
    (soundCalling : calling.Sound held) (deployment : Deployment) (serial : Nat)
    (last : Option Nat) (fuel : Nat) :
    calling.passage deployment serial last fuel =
      operating.passage deployment serial last fuel := by
  induction fuel generalizing operating calling with
  | zero => rfl
  | succ fuel inductionHypothesis =>
    have quiet := calls.happen sound soundCalling deployment .settle
    have soundQuiet := sound.happen deployment .settle
    have soundQuietCalling := soundCalling.happen deployment .settle
    have live := quiet.isLive serial
    have due := quiet.nextDue?
    simp only [Service.happen] at live due
    unfold Service.passage
    dsimp only
    rw [calls.isLive, live, due]
    cases (operating.endBusy deployment).nextDue? with
    | none => rfl
    | some time =>
      have later := inductionHypothesis
        (quiet.happen soundQuiet soundQuietCalling deployment (.move time))
        (soundQuiet.happen deployment (.move time))
        (soundQuietCalling.happen deployment (.move time))
      simp only [Service.happen] at later
      dsimp only
      rw [later]

theorem waitFor (calls : Calls own policy operating calling) (sound : operating.Sound held)
    (soundCalling : calling.Sound held) (deployment : Deployment) (serial : Nat)
    (last : Option Nat) :
    Calls own policy (operating.waitFor deployment serial last)
      (calling.waitFor deployment serial last) := by
  have length : calling.tasks.length = operating.tasks.length := by
    rw [calls.tasks, List.length_map]
  rw [Service.waitFor, Service.waitFor, passTime_eq_undergo, passTime_eq_undergo, length,
    calls.passage sound soundCalling]
  exact calls.undergo sound soundCalling deployment _

/-! ### Tasks begin -/

/-- Logs and counters have no part in it. -/
theorem congr {operating' calling' : Service} (calls : Calls own policy operating calling)
    (first : operating'.bare = operating.bare) (second : calling'.bare = calling.bare) :
    Calls own policy operating' calling' where
  same := by
    have bared (service : Service) :
        (service.asCall own policy).bare = service.bare.asCall own policy := rfl
    rw [second, calls.same, bared, bared, first]
  operates := by
    have tasks : operating'.tasks = operating.tasks := (congrArg Service.tasks first :)
    rw [tasks]
    exact calls.operates

theorem takeIn (calls : Calls own policy operating calling) {birth : Birth}
    (operates : ∀ task, birth = .begins task → task.Operates own) :
    Calls own policy (operating.takeIn birth)
      (calling.takeIn (birth.asCall own policy operating.begun)) := by
  have bared (service : Service) (birth : Birth) :
      (service.takeIn birth).bare = service.bare.takeIn birth := by
    cases birth <;> rfl
  have maps : (operating.takeIn birth).asCall own policy =
      (operating.asCall own policy).takeIn (birth.asCall own policy operating.begun) := by
    cases birth with
    | atOnce ending => rfl
    | begins task =>
      simp only [Service.takeIn, asCall, Birth.asCall, List.map_append, List.map_cons, List.map_nil]
      rfl
  refine ⟨by rw [maps, bared, bared, calls.same], ?_⟩
  cases birth with
  | atOnce ending => exact calls.operates
  | begins task =>
    intro other member
    rcases List.mem_append.1 member with old | new
    · exact calls.operates other old
    · exact List.mem_singleton.1 new ▸ operates task rfl

/-- Something begins at both, and what is born there differs in the call alone. -/
theorem begin_of (calls : Calls own policy operating calling) (sound : operating.Sound held)
    (soundCalling : calling.Sound held) (prompt : operating.Prompt)
    (promptCalling : calling.Prompt) (deployment : Deployment) {start startCalling : Start}
    (births : calling.birth deployment startCalling =
      (operating.birth deployment start).asCall own policy operating.begun)
    (backends : calling.backendAfter deployment startCalling =
      operating.backendAfter deployment start)
    (operates : ∀ task, operating.birth deployment start = .begins task → task.Operates own) :
    Calls own policy (operating.begin deployment start)
      (calling.begin deployment startCalling) := by
  have moved : Calls own policy
      { operating with backend := operating.backendAfter deployment start }
      { calling with backend := calling.backendAfter deployment startCalling } := by
    refine ⟨?_, calls.operates⟩
    have same := congrArg (fun service : Service =>
      ({ service with backend := operating.backendAfter deployment start } : Service)) calls.same
    rw [backends]
    exact same
  have born : Calls own policy (operating.born deployment start)
      (calling.born deployment startCalling) := by
    rw [Service.born, Service.born, births]
    exact moved.takeIn operates
  have attended := born.happen (sound.born deployment start)
    (soundCalling.born deployment startCalling) deployment
    (.move (operating.born deployment start).now)
  rw [happen_now, ← born.now, happen_now] at attended
  exact attended.congr (sound.bare_begin prompt deployment start)
    (soundCalling.bare_begin promptCalling deployment startCalling)

/-- Everything else begins at both in the same way. -/
theorem begin_other (calls : Calls own policy operating calling) (sound : operating.Sound held)
    (soundCalling : calling.Sound held) (prompt : operating.Prompt)
    (promptCalling : calling.Prompt) (known : own < operating.begun) (deployment : Deployment)
    (start : Start) :
    Calls own policy (operating.begin deployment start) (calling.begin deployment start) := by
  have other : operating.begun ≠ own := by omega
  have flag : calling.shutdown.isTriggered = operating.shutdown.isTriggered := by
    rw [calls.shutdown]
  have sent : calling.shutdown.signals.sent = operating.shutdown.signals.sent := by
    rw [calls.shutdown]
  refine calls.begin_of sound soundCalling prompt promptCalling deployment ?_ ?_ ?_
  · rw [birth_congr calls.now calls.begun calls.backend flag sent]
    cases born : operating.birth deployment start with
    | atOnce ending => rw [Birth.asCall, Ending.asCallOf_other other, id]
    | begins task =>
      have next : task.serial ≠ own := (newborn_of_birth born).next ▸ other
      rw [Birth.asCall, Task.asCall_other next]
  · cases start with
    | request request =>
      rw [backendAfter, backendAfter, deadlineOf, deadlineOf, calls.now, calls.backend]
    | _ => exact calls.backend
  · exact fun task born mine => absurd ((newborn_of_birth born).next.symm.trans mine) other

end Calls

/-- Before either begins, the service is the same. -/
theorem Sound.calls {service : Service} {held : Nat} (sound : service.Sound held)
    (untold : service.endingsOf service.begun = []) :
    Calls service.begun policy service service := by
  have apart (task : Task) (member : task ∈ service.tasks) : task.serial ≠ service.begun :=
    Nat.ne_of_lt (sound.numbered task member)
  refine ⟨?_, fun task member mine => absurd mine (apart task member)⟩
  have tasks : service.tasks.map (Task.asCall service.begun policy) = service.tasks :=
    (List.map_congr_left fun task member => Task.asCall_other (apart task member)).trans
      (List.map_id' _)
  have ended : service.ended.map (Completion.asCall service.begun policy) = service.ended := by
    refine (List.map_congr_left fun completion member => ?_).trans (List.map_id' _)
    have other := List.filter_eq_nil_iff.1 untold completion member
    rw [Completion.asCall, Ending.asCallOf_other (by simpa using other), id]
  rw [asCall, tasks, ended]

theorem purpose_of_sleepBirth {service : Service} {purpose : Purpose}
    {delaySeconds rounds : UInt64} {task : Task}
    (born : service.sleepBirth purpose delaySeconds rounds = .begins task) :
    task.purpose = purpose := by
  unfold sleepBirth at born
  split at born
  · cases born
  · cases born
    rfl

theorem abortion_of_sleepBirth {service : Service} {purpose : Purpose}
    {delaySeconds rounds : UInt64} {ending : Ending}
    (born : service.sleepBirth purpose delaySeconds rounds = .atOnce ending) :
    ending = purpose.abortion := by
  unfold sleepBirth at born
  split at born
  · cases born
    rfl
  · cases born

/-- An operation and a call begin together. -/
theorem Sound.calls_begin {service : Service} {held : Nat} (sound : service.Sound held)
    (prompt : service.Prompt) (untold : service.endingsOf service.begun = [])
    (deployment : Deployment) (policy : AbortPolicy) (delaySeconds : UInt64) :
    Calls service.begun policy (service.begin deployment (.operation delaySeconds 0))
      (service.begin deployment (.service policy delaySeconds)) := by
  refine (sound.calls untold).begin_of sound sound prompt prompt deployment ?_ rfl ?_
  · show service.sleepBirth (.service policy) delaySeconds 0 =
      (service.sleepBirth .operation delaySeconds 0).asCall _ policy _
    unfold sleepBirth
    split
    · rw [Birth.asCall, Ending.asCallOf_own, Task.abortion_call]
    · rw [Birth.asCall, Task.asCall, if_pos rfl]
      rfl
  · exact fun task born _ => purpose_of_sleepBirth born

end Service

end LatencyService
