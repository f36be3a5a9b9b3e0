/-
The log of the running service. At any time it accounts for all that has ended
by then, and whatever happens to the tasks keeps it so: a task that ends is
logged in the same moment, one that is stopped is not logged at all, and neither
is one that goes on. Only the first trigger finds anybody asleep, and so it alone
cuts delays short. What begins is logged in the same way, if it is over at once.
-/

import LatencyService.Proofs.Ledger

namespace LatencyService

/-- What has ended, and how. -/
def Completion.entry (completion : Completion) : Nat × Ending :=
  (completion.serial, completion.ending)

namespace Service

/-- What has been logged, in its order. -/
def events (service : Service) : List Event :=
  (service.journal.filterMap LogEntry.event?).reverse

/-- What has ended since that was last asked, in its order. -/
def endings (service : Service) : List (Nat × Ending) :=
  service.ended.reverse.map Completion.entry

/-- The log accounts for all that has ended, and the books know the tasks that have not; `past` is
what had ended when that was last asked. -/
structure Logged (books : Books) (delays : List UInt64) (past : List (Nat × Ending))
    (service : Service) : Prop where
  accounts : books.Accounts delays service.events (past ++ service.endings)
  known : ∀ task ∈ service.tasks, books.Knows task

variable {deployment : Deployment} {service : Service} {books : Books}
  {delays : List UInt64} {past : List (Nat × Ending)} {task : Task}

/-! ### What is logged and what ends -/

theorem events_record (events : List Event) :
    (service.record events).events = service.events ++ events := by
  have shown : (events.map LogEntry.event).filterMap LogEntry.event? = events := by
    rw [List.filterMap_map]
    exact List.filterMap_some
  rw [Service.events, record, List.filterMap_append, List.filterMap_reverse, shown,
    List.reverse_append, List.reverse_reverse]
  rfl

theorem endings_finish (serial : Nat) (ending : Ending) :
    (service.finish serial ending).endings = service.endings ++ [(serial, ending)] := by
  rw [endings, finish, List.reverse_cons, List.map_append]
  rfl

theorem events_abort (service : Service) (task : Task) :
    (service.abort task).events = service.events ++ task.purpose.abortionEvents := by
  unfold abort
  cases task.purpose with
  | service policy =>
    cases policy with
    | propagate => exact (List.append_nil service.events).symm
    | logAndDefault => exact events_record _
  | demo exchange header => exact events_record _
  | demoService exchange => exact events_record _
  | relay exchange header => exact events_record _
  | delay | operation | wait => exact (List.append_nil service.events).symm

theorem endings_abort (service : Service) (task : Task) :
    (service.abort task).endings = service.endings ++ [(task.serial, task.purpose.abortion)] := by
  have same := congrArg Service.ended (bare_abort service task)
  have ended : (service.abort task).ended =
      (service.finish task.serial task.purpose.abortion).ended := same
  rw [endings, ended]
  exact endings_finish _ _

theorem events_complete (deployment : Deployment) (service : Service) (task : Task) :
    (service.complete deployment task).events =
      service.events ++
        if task.purpose.operates then
          completionEvents deployment.settings.operation task (service.now - task.started)
        else [] := by
  unfold complete
  dsimp only
  cases task.purpose with
  | operation => exact events_record _
  | service policy => exact events_record _
  | demo exchange header => exact events_record _
  | demoService exchange => exact events_record _
  | delay | wait | relay => exact (List.append_nil service.events).symm

theorem endings_complete (deployment : Deployment) (service : Service) (task : Task) :
    (service.complete deployment task).endings =
      service.endings ++
        (task.purpose.success? (reportOf deployment.settings.operation
          (service.now - task.started))).toList.map (task.serial, ·) := by
  have ended : (service.complete deployment task).ended =
      (service.conclude task.serial (task.purpose.success? (reportOf
        deployment.settings.operation (service.now - task.started)))).ended := by
    refine (congrArg Service.ended (bare_complete deployment service task)).trans ?_
    cases task.purpose.success? _ <;> rfl
  rw [endings, ended]
  cases task.purpose.success? (reportOf deployment.settings.operation
      (service.now - task.started)) with
  | none => exact (List.append_nil service.endings).symm
  | some ending => exact endings_finish _ _

/-- Whoever is still there is left alone when a task ends. -/
theorem tasks_abort (service : Service) (task : Task) :
    (service.abort task).tasks = service.tasks := by
  have same := congrArg Service.tasks (bare_abort service task)
  exact same

theorem tasks_complete (deployment : Deployment) (service : Service) (task : Task) :
    (service.complete deployment task).tasks = service.tasks := by
  refine (congrArg Service.tasks (bare_complete deployment service task)).trans ?_
  cases task.purpose.success? _ <;> rfl

/-! ### Small changes -/

/-- The log and what has ended grow by what belongs together. -/
theorem Logged.add (logged : service.Logged books delays past) {later : List UInt64}
    {events : List Event} {endings : List (Nat × Ending)}
    (accounts : books.Accounts later events endings) {after : Service}
    (logs : after.events = service.events ++ events)
    (ends : after.endings = service.endings ++ endings) (tasks : after.tasks = service.tasks) :
    after.Logged books (delays ++ later) past := by
  refine ⟨?_, fun task member => logged.known task (tasks ▸ member)⟩
  rw [logs, ends, ← List.append_assoc]
  exact logged.accounts.append accounts

/-- Nothing is logged, and nothing ends. -/
theorem Logged.congr (logged : service.Logged books delays past) {other : Service}
    (logs : other.events = service.events) (ends : other.endings = service.endings)
    (known : ∀ task ∈ other.tasks, books.Knows task) : other.Logged books delays past := by
  refine ⟨?_, known⟩
  rw [logs, ends]
  exact logged.accounts

/-- What has ended is asked for, and told no more. -/
theorem Logged.forget (logged : service.Logged books delays past) :
    ({ service with ended := [] } : Service).Logged books delays (past ++ service.endings) := by
  refine ⟨?_, logged.known⟩
  have silent : ({ service with ended := [] } : Service).endings = [] := rfl
  rw [silent, List.append_nil]
  exact logged.accounts

/-- A task ends, and what there is to log of it is logged. -/
theorem Logged.ends (logged : service.Logged books delays past) {events : List Event}
    {endings : List (Nat × Ending)} (accounts : books.Accounts [] events endings)
    {after : Service} (logs : after.events = service.events ++ events)
    (ends : after.endings = service.endings ++ endings) (tasks : after.tasks = service.tasks) :
    after.Logged books delays past := by
  have grown := logged.add accounts logs ends tasks
  rwa [List.append_nil] at grown

/-- Events are logged that tell neither of an ending nor of a delay. -/
theorem Logged.record (logged : service.Logged books delays past) {events : List Event}
    (aside : ∀ event ∈ events, event.isAside = true) :
    (service.record events).Logged books delays past :=
  logged.ends (Books.accounts_aside aside) (events_record events)
    (List.append_nil service.endings).symm rfl

/-! ### The ends of tasks -/

variable {serial : Nat}

theorem Logged.abort (logged : service.Logged books delays past) (lists : books.Lists task)
    (reached : task.purpose.operates = true → books.reached task.serial = true) :
    (service.abort task).Logged books delays past :=
  logged.ends (lists.accounts_abortion reached) (events_abort service task)
    (endings_abort service task) (tasks_abort service task)

theorem Logged.complete (logged : service.Logged books delays past) (knows : books.Knows task) :
    (service.complete deployment task).Logged books delays past :=
  logged.ends (knows.accounts_success deployment.settings.operation (service.now - task.started))
    (events_complete deployment service task) (endings_complete deployment service task)
    (tasks_complete deployment service task)

/-- A request is answered. -/
theorem Logged.answer (logged : service.Logged books delays past) {exchange : Exchange}
    {response : Http.Response} {events : List Event}
    (accounts : books.Accounts [] events [(serial, exchange.answer response)]) :
    ((service.record events).answer serial exchange response).Logged books delays past :=
  logged.ends accounts (events_record events) (endings_finish serial _) rfl

/-- A task ends of which nothing is logged. -/
theorem Logged.finish (logged : service.Logged books delays past) {ending : Ending}
    (accounts : books.Accounts [] [] [(serial, ending)]) :
    (service.finish serial ending).Logged books delays past :=
  logged.ends accounts (List.append_nil service.events).symm (endings_finish serial ending) rfl

theorem Logged.failRelay (logged : service.Logged books delays past) {exchange : Exchange}
    (kept : books.defaulted serial = false) (failure : CallFailure) :
    (service.failRelay deployment serial exchange failure).Logged books delays past := by
  refine logged.ends (Books.accounts_failure deployment.settings.outbound failure exchange kept) ?_
    (endings_finish serial _) rfl
  rw [← List.append_assoc, ← events_record, ← events_record]
  rfl

theorem Logged.finishRelay (logged : service.Logged books delays past) {exchange : Exchange}
    (idle : books.operates serial = false) (kept : books.defaulted serial = false)
    (header : Header) (relayed : Relay.Relayed) :
    (service.finishRelay serial exchange header relayed).Logged books delays past :=
  logged.ends (Books.accounts_relayed relayed exchange _ idle kept) (events_record _)
    (endings_finish serial _) rfl

/-! ### Whatever happens -/

/-- The log accounts for tasks that end by themselves. -/
theorem keeps_logged (deployment : Deployment) (books : Books) (delays : List UInt64)
    (past : List (Nat × Ending)) :
    Keeps deployment books.Knows (Logged books delays past) where
  suited logged := logged.known
  congr {service other} logged journal _ ended known := by
    refine logged.congr ?_ ?_ known
    · rw [events, events, journal]
    · rw [endings, endings, ended]
  busy knows := ⟨⟨knows.operates, knows.defaults⟩, knows.kept⟩
  complete logged := logged.complete
  timeout {service task exchange} logged knows _ :=
    logged.finish (Books.accounts_timeout exchange knows.kept)
  failRelay logged knows _ := logged.failRelay knows.kept

/-- Whatever happens is logged, if a trigger finds nobody who could notice it. -/
theorem Logged.happen (logged : service.Logged books delays past) (deployment : Deployment)
    {happening : Happening}
    (unnoticed : happening = .trigger → ∀ task ∈ service.tasks, task.holds = false) :
    (service.happen deployment happening).Logged books delays past := by
  by_cases triggers : happening = .trigger
  · rw [triggers]
    show (service.tasks.foldl Service.interrupt _).Logged books delays past
    rw [foldl_interrupt_of_released _ (unnoticed triggers)]
    exact logged.congr rfl rfl logged.known
  · exact (keeps_logged deployment books delays past).happen logged triggers

/-- Whatever happens one after the other is logged, if no trigger comes before the shutdown has
been triggered. -/
theorem Logged.undergo {held : Nat} (logged : service.Logged books delays past)
    (sound : service.Sound held) (deployment : Deployment) {happenings : List Happening}
    (late : .trigger ∈ happenings → service.shutdown.isTriggered = true) :
    (service.undergo deployment happenings).Logged books delays past := by
  induction happenings generalizing service with
  | nil => exact logged
  | cons happening rest inductionHypothesis =>
    refine inductionHypothesis (logged.happen deployment fun same => ?_)
      (sound.happen deployment happening) fun later => ?_
    · exact sound.drained (late (same ▸ List.mem_cons_self))
    · have triggered := late (List.mem_cons_of_mem _ later)
      rw [sound.isTriggered_happen]
      cases happening <;> first | rfl | exact triggered

/-! ### The first trigger -/

/-- The shutdown reaches a task that has something to receive, and cuts its delay short if it
sleeps. -/
theorem accounts_interrupt
    (accounts : books.Accounts delays service.events (past ++ service.endings))
    (lists : books.Lists task) (fits : task.Fits)
    (reached : task.isAsleep = true → books.reached task.serial = true)
    (ready : ∀ receiver ∈ task.stage.receiver?, receiver.isReady service.shutdown.signals = true) :
    books.Accounts (delays ++ if task.isAsleep then [task.delaySeconds] else [])
      (service.interrupt task).events (past ++ (service.interrupt task).endings) := by
  have aborted (operating : task.purpose.operates = true → task.isAsleep = true) :=
    lists.accounts_abortion fun operates => reached (operating operates)
  obtain ⟨serial, purpose, delaySeconds, rounds, started, stage⟩ := task
  cases stage with
  | asleep wake receiver =>
    have told := (Books.accounts_interrupted delaySeconds).append (aborted fun _ => rfl)
    unfold interrupt
    dsimp only
    rw [if_pos (ready receiver rfl), events_abort, endings_abort, events_record,
      List.append_assoc, ← List.append_assoc past]
    exact accounts.append told
  | listening receiver =>
    have waits : purpose = .wait := fits
    have told := aborted fun operates => by rw [waits] at operates; cases operates
    unfold interrupt
    dsimp only
    rw [if_pos (ready receiver rfl), events_abort, endings_abort, ← List.append_assoc past]
    exact accounts.append told
  | busy | relaying =>
    show books.Accounts (delays ++ []) service.events _
    rw [List.append_nil]
    exact accounts

/-- The shutdown reaches tasks one after the other. -/
theorem accounts_interrupts {signals : Broadcast} {tasks : List Task}
    (accounts : books.Accounts delays service.events (past ++ service.endings))
    (sent : service.shutdown.signals.sent = signals.sent)
    (each : ∀ task ∈ tasks, books.Lists task ∧ task.Fits ∧
      (task.isAsleep = true → books.reached task.serial = true) ∧
      ∀ receiver ∈ task.stage.receiver?, receiver.isReady signals = true) :
    books.Accounts (delays ++ (tasks.filter Task.isAsleep).map Task.delaySeconds)
      (tasks.foldl interrupt service).events
      (past ++ (tasks.foldl interrupt service).endings) := by
  induction tasks generalizing service delays with
  | nil =>
    rw [List.filter_nil, List.map_nil, List.append_nil]
    exact accounts
  | cons task rest inductionHypothesis =>
    obtain ⟨lists, fits, reached, ready⟩ := each task List.mem_cons_self
    have told := accounts_interrupt accounts lists fits reached fun receiver watching => by
      have there := ready receiver watching
      unfold Receiver.isReady Receiver.unread at there ⊢
      rwa [sent]
    have kept : (service.interrupt task).shutdown.signals.sent = signals.sent := by
      have same := congrArg (fun service => service.shutdown.signals.sent)
        (bare_interrupt service task)
      rw [sent_meet] at same
      exact same.trans sent
    have others := inductionHypothesis told kept
      fun other member => each other (List.mem_cons_of_mem _ member)
    rw [List.append_assoc] at others
    rw [List.filter_cons]
    cases asleep : task.isAsleep with
    | false =>
      rw [asleep] at others
      exact others
    | true =>
      rw [asleep] at others
      exact others

/-- The first trigger cuts the delays of all who sleep, and they are those whom it reaches. -/
theorem Logged.trigger {held : Nat} (logged : service.Logged books delays past)
    (sound : service.Sound held) (deployment : Deployment) {reached : Nat → Bool}
    (ended : ∀ ended ∈ past ++ service.endings, reached ended.1 = books.reached ended.1)
    (asleep : ∀ task ∈ service.tasks, reached task.serial = task.isAsleep) :
    (service.happen deployment .trigger).Logged { books with reached }
      (delays ++ (service.tasks.filter Task.isAsleep).map Task.delaySeconds) past := by
  have lists (task : Task) (member : task ∈ service.tasks) :
      ({ books with reached } : Books).Lists task :=
    ⟨(logged.known task member).operates, (logged.known task member).defaults⟩
  have poised : ({ books with reached } : Books).Accounts delays
      (service.poised .trigger).events (past ++ (service.poised .trigger).endings) :=
    logged.accounts.congr ended
  refine ⟨?_, fun task member => ?_⟩
  · refine accounts_interrupts poised rfl fun task member => ⟨lists task member,
      sound.fitting task member, fun sleeps => (asleep task member).trans sleeps,
      fun receiver watching => ?_⟩
    exact isReady_trigger sound.counted member watching
      (sound.behind task member receiver watching)
  · obtain ⟨old, there, left⟩ := sound.exists_rest member
    rw [Task.fate] at left
    split at left
    · cases left
    · rename_i released
      rw [← Option.some.inj left]
      refine (lists old there).knows_spared ((asleep old there).trans ?_)
      rw [Task.holds_eq, Bool.or_eq_true, not_or] at released
      exact Bool.eq_false_iff.2 released.1

end Service

/-! ### What begins -/

namespace Http.Dispatch

/-- An operation is asked for. -/
def operates : Dispatch → Bool
  | demo .. | demoService _ => true
  | _ => false

/-- An operation is asked for whose abortion is logged and hidden. -/
def defaults : Dispatch → Bool
  | demoService _ => true
  | _ => false

end Http.Dispatch

namespace Start

/-- An operation begins. A request for which there is no time at all is not even looked at. -/
def operates (settings : Settings) : Start → Bool
  | operation .. | service .. => true
  | request asked =>
    settings.timeouts.requestSeconds != some 0 && (Http.Dispatch.ofRequest asked).operates
  | delay _ | wait => false

/-- An operation begins whose abortion is logged and hidden. -/
def defaults (settings : Settings) : Start → Bool
  | service .logAndDefault _ => true
  | request asked =>
    settings.timeouts.requestSeconds != some 0 && (Http.Dispatch.ofRequest asked).defaults
  | _ => false

end Start

/-- The books say of what begins under a number what it is. -/
structure Books.Opens (books : Books) (settings : Settings) (serial : Nat) (start : Start) :
    Prop where
  operates : books.operates serial = start.operates settings
  defaults : books.defaults serial = start.defaults settings

namespace Service

variable {deployment : Deployment} {service : Service} {books : Books}
  {delays : List UInt64} {past : List (Nat × Ending)} {task : Task} {serial : Nat}

theorem Logged.beginSleep (logged : service.Logged books delays past) {purpose : Purpose}
    (operates : books.operates serial = purpose.operates)
    (defaults : books.defaults serial = purpose.defaults)
    (reached : books.reached serial = service.shutdown.isTriggered)
    (delaySeconds rounds : UInt64) :
    (service.beginSleep deployment serial purpose delaySeconds rounds).Logged books delays
      past := by
  refine (keeps_logged deployment books delays past).beginSleep logged ?_ ?_
  · intro triggered other logged stage
    exact logged.abort ⟨operates, defaults⟩ fun _ => reached.trans triggered
  · intro untriggered stage
    exact Books.Lists.knows_spared ⟨operates, defaults⟩ (reached.trans untriggered)

theorem Logged.beginWait (logged : service.Logged books delays past) (deployment : Deployment)
    (operates : books.operates serial = false) (defaults : books.defaults serial = false)
    (reached : books.reached serial = service.shutdown.isTriggered) :
    (service.beginWait serial).Logged books delays past := by
  refine (keeps_logged deployment books delays past).beginWait logged ?_ fun stage => ?_
  · intro triggered other logged stage
    exact logged.abort ⟨operates, defaults⟩ fun _ => reached.trans triggered
  · exact Books.Lists.knows ⟨operates, defaults⟩ rfl

theorem Logged.beginRelay (logged : service.Logged books delays past)
    (idle : books.operates serial = false) (shown : books.defaults serial = false)
    (exchange : Exchange) (header : Header) :
    (service.beginRelay deployment serial exchange header).Logged books delays past := by
  have kept : books.defaulted serial = false := by rw [Books.defaulted, shown, Bool.false_and]
  have called (backend : Backend) :
      (({ service with backend } : Service).record
        (Relay.eventsBefore deployment.settings.outbound)).Logged books delays past := by
    have same : ({ service with backend } : Service).Logged books delays past :=
      logged.congr rfl rfl logged.known
    exact same.record (by simp [Relay.eventsBefore, Event.isAside])
  unfold Service.beginRelay
  dsimp only
  cases (Relay.run deployment.settings.outbound service.backend).1 with
  | relayed relayed => exact (called _).finishRelay idle kept header relayed
  | failed failure => exact (called _).failRelay kept failure
  | pending url =>
    have keeps := keeps_logged deployment books delays past
    exact keeps.runDue (keeps.append (called _) (Books.Lists.knows ⟨idle, shown⟩ rfl) _)

theorem Logged.beginRequest (logged : service.Logged books delays past) {request : Http.Request}
    (opens : books.Opens deployment.settings serial (.request request))
    (reached : books.reached serial = service.shutdown.isTriggered) :
    (service.beginRequest deployment serial request).Logged books delays past := by
  have noted (entry : LogEntry) (silent : entry.event? = none) :
      ({ service with journal := entry :: service.journal } : Service).Logged books delays
        past := by
    refine logged.congr ?_ rfl logged.known
    rw [events, List.filterMap_cons_none silent]
    rfl
  have kept (shown : (Start.request request).defaults deployment.settings = false) :
      books.defaulted serial = false := by
    rw [Books.defaulted, opens.defaults, shown, Bool.false_and]
  unfold Service.beginRequest
  dsimp only
  by_cases impatient : deployment.settings.timeouts.requestSeconds = some 0
  · have shown : (Start.request request).defaults deployment.settings = false := by
      rw [Start.defaults, impatient]
      rfl
    rw [if_pos (deadline_spent impatient)]
    exact (noted _ rfl).finish (Books.accounts_timeout ⟨.health, _, _, none⟩ (kept shown))
  · have patient : (deployment.settings.timeouts.requestSeconds != some 0) = true :=
      bne_iff_ne.2 impatient
    have operates := opens.operates
    have defaults := opens.defaults
    rw [Start.operates, patient, Bool.true_and] at operates
    rw [Start.defaults, patient, Bool.true_and] at defaults
    rw [Start.defaults, patient, Bool.true_and] at kept
    rw [deadline_left impatient, if_neg Bool.false_ne_true]
    cases dispatched : Http.Dispatch.ofRequest request with
    | unmatched response =>
      rw [dispatched] at kept
      exact (noted _ rfl).finish
        (Books.accounts_unmatched dispatched ⟨.health, _, _, none⟩ (kept rfl))
    | answered route response events =>
      rw [dispatched] at kept operates
      exact (noted _ rfl).answer (Books.accounts_ready dispatched _ operates (kept rfl))
    | demo header order =>
      rw [dispatched] at operates defaults
      exact ((noted _ rfl).record (by simp [Event.isAside])).beginSleep
        operates defaults reached _ _
    | demoService order =>
      rw [dispatched] at operates defaults
      exact (noted _ rfl).beginSleep operates defaults reached _ _
    | relay header =>
      rw [dispatched] at operates defaults
      exact (noted _ rfl).beginRelay operates defaults _ header

/-- Whatever begins is logged. -/
theorem Logged.begin (logged : service.Logged books delays past) {start : Start}
    (opens : books.Opens deployment.settings service.begun start)
    (reached : books.reached service.begun = service.shutdown.isTriggered) :
    (service.begin deployment start).Logged books delays past := by
  have enrolled : service.enroll.Logged books delays past :=
    logged.congr rfl rfl logged.known
  cases start with
  | request request => exact enrolled.beginRequest opens reached
  | delay delaySeconds =>
    exact enrolled.beginSleep opens.operates opens.defaults reached _ _
  | operation delaySeconds rounds =>
    exact enrolled.beginSleep opens.operates opens.defaults reached _ _
  | service policy delaySeconds =>
    cases policy <;> exact enrolled.beginSleep opens.operates opens.defaults reached _ _
  | wait => exact enrolled.beginWait deployment opens.operates opens.defaults reached

end Service

end LatencyService
