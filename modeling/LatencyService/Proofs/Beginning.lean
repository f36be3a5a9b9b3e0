/-
How tasks begin. Whatever a task is to do, it is over at once or it is there
from now on, and which of the two it is can be told from the clock, the
shutdown and the backend before anything is changed. So this file says what a
task is born as, as a value, and shows that the running service takes in just
that. A task of no length is over at once, too; for it the clock is made to
show again the time that it shows.
-/

import LatencyService.Proofs.Happening

namespace LatencyService

/-- Something that is begun at the service. -/
inductive Start where
  | delay (delaySeconds : UInt64)
  /-- A delay of so many seconds, and a busy loop of so many rounds behind it. -/
  | operation (delaySeconds rounds : UInt64)
  | service (policy : AbortPolicy) (delaySeconds : UInt64)
  | wait
  | request (request : Http.Request)
  deriving Repr

/-- What a task is born as. -/
inductive Birth where
  /-- It is over at once. -/
  | atOnce (ending : Ending)
  | begins (task : Task)
  deriving DecidableEq

namespace Birth

/-- The task that begins. -/
def task? : Birth → Option Task
  | atOnce _ => none
  | begins task => some task

/-- The task as it is once what is due for it at a time has been attended to. -/
def rest (deployment : Deployment) (now : Nat) : Birth → Option Task
  | atOnce _ => none
  | begins task => (task.dueFate deployment now).rest task

/-- What has ended at once. -/
def completions (deployment : Deployment) (serial now : Nat) : Birth → List Completion
  | atOnce ending => [⟨serial, now, ending⟩]
  | begins task => (task.dueFate deployment now).completions task now

/-- At most one thing is told when a task begins. -/
theorem reverse_completions (deployment : Deployment) (serial now : Nat) (birth : Birth) :
    (birth.completions deployment serial now).reverse =
      birth.completions deployment serial now := by
  cases birth with
  | atOnce ending => rfl
  | begins task => exact Fate.reverse_completions task now _

/-- A task of which something is told when it begins has ended. -/
theorem rest_of_completions {deployment : Deployment} {serial now : Nat} {birth : Birth}
    {completion : Completion} (member : completion ∈ birth.completions deployment serial now) :
    birth.rest deployment now = none := by
  cases birth with
  | atOnce ending => rfl
  | begins task => exact Fate.rest_of_completions member

end Birth

/-- A limit that is not zero leaves some time. -/
theorem positive_of_limit {limit : Option UInt64} (left : limit ≠ some 0) :
    ∀ seconds ∈ limit, 0 < seconds.toNat := by
  intro seconds configured
  refine UInt64.pos_iff_ne_zero.2 ?_
  rintro rfl
  exact left configured

namespace Service

/-! ### What tasks are born as -/

/-- What a task that sleeps is born as. -/
def sleepBirth (service : Service) (purpose : Purpose) (delaySeconds rounds : UInt64) : Birth :=
  if service.shutdown.isTriggered then .atOnce purpose.abortion
  else
    let stage := Stage.asleep (service.now + 1000 * delaySeconds.toNat) service.shutdown.subscribe.1
    .begins
      { serial := service.begun, purpose, delaySeconds, rounds, started := service.now, stage }

/-- What a task that waits for the shutdown is born as. -/
def waitBirth (service : Service) : Birth :=
  if service.shutdown.isTriggered then .atOnce .woken
  else
    let stage := Stage.listening service.shutdown.subscribe.1
    .begins { serial := service.begun, purpose := .wait, started := service.now, stage }

/-- What a relayed call is born as. -/
def relayBirth (deployment : Deployment) (service : Service) (exchange : Exchange)
    (header : Header) : Birth :=
  let settings := deployment.settings.outbound
  match (Relay.run settings service.backend).1 with
  | .relayed relayed =>
    .atOnce (exchange.answer (.json 200 (Reply.full header (.ofData relayed.body)).render))
  | .failed failure => .atOnce (exchange.answer (Relay.problemOf settings failure).response)
  | .pending url =>
    let giveUp := settings.timeoutSeconds.map fun seconds => service.now + 1000 * seconds.toNat
    let stage := Stage.relaying url giveUp
    .begins { serial := service.begun, purpose := .relay exchange header, started := service.now
              stage }

/-- When a request that comes now is given up. -/
def deadlineOf (deployment : Deployment) (service : Service) : Option Nat :=
  deployment.settings.timeouts.requestSeconds.map fun seconds => service.now + 1000 * seconds.toNat

/-- A request that comes now and finds an endpoint. -/
def exchangeOf (deployment : Deployment) (service : Service) (request : Http.Request)
    (route : Http.Route) : Exchange where
  route := route
  identifier := (identify deployment service.begun request).1
  isHead := request.method == "HEAD"
  deadline := service.deadlineOf deployment

/-- What a request is born as that has time left. -/
def orderBirth (deployment : Deployment) (service : Service) (request : Http.Request) : Birth :=
  let exchange := service.exchangeOf deployment request
  match Http.Dispatch.ofRequest request with
  -- The answer says nothing of the endpoint, so that any will do where there is none.
  | .unmatched response => .atOnce ((exchange .health).answer response)
  | .answered route response _ => .atOnce ((exchange route).answer response)
  | .demo header order =>
    service.sleepBirth (.demo (exchange .demo) header) (atLeastZero order.delay)
      (atLeastZero order.rounds)
  | .demoService order =>
    service.sleepBirth (.demoService (exchange .demoService)) (atLeastZero order.delay) 0
  | .relay header => service.relayBirth deployment (exchange .relay) header

/-- What a request is born as. -/
def requestBirth (deployment : Deployment) (service : Service) (request : Http.Request) : Birth :=
  if service.deadlineOf deployment = some service.now then
    .atOnce ((service.exchangeOf deployment request .health).answer timedOut)
  else service.orderBirth deployment request

/-- What the next task is born as. -/
def birth (deployment : Deployment) (service : Service) : Start → Birth
  | .delay delaySeconds => service.sleepBirth .delay delaySeconds 0
  | .operation delaySeconds rounds => service.sleepBirth .operation delaySeconds rounds
  | .service policy delaySeconds => service.sleepBirth (.service policy) delaySeconds 0
  | .wait => service.waitBirth
  | .request request => service.requestBirth deployment request

/-- The backend when a task has begun: a relayed call has been answered, if this is one. -/
def backendAfter (deployment : Deployment) (service : Service) : Start → Backend
  | .request request =>
    if service.deadlineOf deployment = some service.now then service.backend
    else
      match Http.Dispatch.ofRequest request with
      | .relay _ => (Relay.run deployment.settings.outbound service.backend).2
      | _ => service.backend
  | _ => service.backend

/-! ### Taking a task in -/

/-- The next task begins. -/
def begin (deployment : Deployment) (service : Service) : Start → Service
  | .delay delaySeconds => service.enroll.beginSleep deployment service.begun .delay delaySeconds 0
  | .operation delaySeconds rounds =>
    service.enroll.beginSleep deployment service.begun .operation delaySeconds rounds
  | .service policy delaySeconds =>
    service.enroll.beginSleep deployment service.begun (.service policy) delaySeconds 0
  | .wait => service.enroll.beginWait service.begun
  | .request request => service.admitRequest deployment request

/-- Take in what was born. -/
def takeIn (service : Service) : Birth → Service
  | .atOnce ending => service.enroll.finish service.begun ending
  | .begins task =>
    { service.enroll with
      tasks := service.tasks ++ [task]
      shutdown := if task.holds then service.shutdown.subscribe.2 else service.shutdown }

/-- The service with what is born there, before it has been attended to. -/
def born (deployment : Deployment) (service : Service) (start : Start) : Service :=
  ({ service with backend := service.backendAfter deployment start } : Service).takeIn
    (service.birth deployment start)

variable {deployment : Deployment} {service : Service} {held : Nat}

/-- When nothing is due, nothing happens by itself. -/
theorem Prompt.runDue (prompt : service.Prompt) (deployment : Deployment) :
    service.runDue deployment = service := by
  have idle : service.tasks.filter (·.isDueAt service.now) = [] :=
    List.filter_eq_nil_iff.2 fun task member => by simp [prompt task member]
  rw [Service.runDue, idle, List.mergeSort_nil, List.foldl_nil]

/-- The clock is made to show the time that it shows. -/
theorem happen_now (deployment : Deployment) (service : Service) :
    service.happen deployment (.move service.now) = service.runDue deployment := by
  rw [happen, moveTo, Nat.max_self]

/-- What happens by itself does not depend on the log or the counters. -/
theorem runDue_congr {first second : Service} (same : first.bare = second.bare) :
    (first.runDue deployment).bare = (second.runDue deployment).bare := by
  have bared (service : Service) : (service.runDue deployment).bare =
      service.bare.sweep (Task.dueFate deployment service.bare.now) service.bare.due :=
    bare_runDue deployment service
  rw [bared, bared, same]

theorem deadlineOf_eq {seconds : UInt64}
    (given : deployment.settings.timeouts.requestSeconds = some seconds) :
    service.deadlineOf deployment = some (service.now + 1000 * seconds.toNat) := by
  rw [deadlineOf, given]
  rfl

theorem deadlineOf_later (left : service.deadlineOf deployment ≠ some service.now) :
    ∀ deadline ∈ service.deadlineOf deployment, service.now < deadline := by
  intro deadline there
  obtain ⟨seconds, configured, same⟩ := Option.map_eq_some_iff.1 there
  have other : deadline ≠ service.now := fun now => left (now ▸ there)
  omega

/-- What is born depends on the clock, the shutdown, the backend and the next number alone. -/
theorem birth_congr {first second : Service}
    (now : first.now = second.now) (begun : first.begun = second.begun)
    (backend : first.backend = second.backend)
    (flag : first.shutdown.isTriggered = second.shutdown.isTriggered)
    (sent : first.shutdown.signals.sent = second.shutdown.signals.sent) (start : Start) :
    first.birth deployment start = second.birth deployment start := by
  have receiver : first.shutdown.subscribe.1 = second.shutdown.subscribe.1 :=
    congrArg Receiver.mk sent
  have sleeps (purpose : Purpose) (delaySeconds rounds : UInt64) :
      first.sleepBirth purpose delaySeconds rounds =
        second.sleepBirth purpose delaySeconds rounds := by
    rw [sleepBirth, sleepBirth, flag, now, begun, receiver]
  have relays (exchange : Exchange) (header : Header) :
      first.relayBirth deployment exchange header =
        second.relayBirth deployment exchange header := by
    rw [relayBirth, relayBirth, backend, now, begun]
  have deadline : first.deadlineOf deployment = second.deadlineOf deployment := by
    rw [deadlineOf, deadlineOf, now]
  have exchange (request : Http.Request) :
      first.exchangeOf deployment request = second.exchangeOf deployment request := by
    funext route
    rw [exchangeOf, exchangeOf, deadline, begun]
  cases start with
  | delay delaySeconds => exact sleeps _ _ _
  | operation delaySeconds rounds => exact sleeps _ _ _
  | service policy delaySeconds => exact sleeps _ _ _
  | wait =>
    rw [birth, birth, waitBirth, waitBirth, flag, now, begun,
      receiver]
  | request request =>
    simp only [birth, requestBirth, orderBirth, deadline, now, exchange,
      sleeps, relays]

/-! ### The service takes in what is born -/

/-- The number of the next task is no other's. -/
theorem Sound.filter_begun (sound : service.Sound held) {task : Task}
    (mine : task.serial = service.begun) :
    (service.tasks ++ [task]).filter (·.serial != task.serial) = service.tasks := by
  rw [List.filter_append, List.filter_cons_of_neg (by simp), List.filter_nil, List.append_nil]
  refine List.filter_eq_self.2 fun other member => ?_
  have below := sound.numbered other member
  simp only [bne_iff_ne]
  omega

/-- A task that holds a receiver already when it is aborted at once leaves nothing behind. -/
theorem Sound.bare_abort_born (sound : service.Sound held) (prompt : service.Prompt) {task : Task}
    (mine : task.serial = service.begun) (holds : task.stage.receiver?.isSome = true)
    (metrics : Metrics) (journal : List LogEntry) :
    ((({ service.enroll with
            metrics, journal
            tasks := service.tasks ++ [task]
            shutdown := service.shutdown.subscribe.2 } : Service).remove task).abort task).bare =
      ((service.takeIn (.atOnce task.purpose.abortion)).runDue deployment).bare := by
  have still : (service.takeIn (.atOnce task.purpose.abortion)).Prompt := prompt
  rw [still.runDue, bare_abort, remove]
  dsimp only
  rw [sound.filter_begun mine, if_pos holds, mine]
  rfl

theorem Sound.bare_beginSleep (sound : service.Sound held) (prompt : service.Prompt)
    (purpose : Purpose) (delaySeconds rounds : UInt64) (metrics : Metrics)
    (journal : List LogEntry) :
    (({ service.enroll with metrics, journal } : Service).beginSleep deployment service.begun
        purpose delaySeconds rounds).bare =
      ((service.takeIn (service.sleepBirth purpose delaySeconds rounds)).runDue
        deployment).bare := by
  unfold beginSleep sleepBirth
  dsimp only
  split
  · rename_i triggered
    have flag : service.shutdown.isTriggered = true := triggered
    rw [if_pos flag]
    refine sound.bare_abort_born prompt ?_ ?_ metrics journal
    · rfl
    · rfl
  · rename_i untriggered
    have flag : ¬service.shutdown.isTriggered = true := untriggered
    rw [if_neg flag]
    exact runDue_congr rfl

theorem Sound.bare_beginWait (sound : service.Sound held) (prompt : service.Prompt) :
    (service.enroll.beginWait service.begun).bare =
      ((service.takeIn service.waitBirth).runDue deployment).bare := by
  unfold beginWait waitBirth
  dsimp only
  split
  · rename_i triggered
    have flag : service.shutdown.isTriggered = true := triggered
    rw [if_pos flag]
    refine sound.bare_abort_born prompt ?_ ?_ service.metrics service.journal
    · rfl
    · rfl
  · rename_i untriggered
    have flag : ¬service.shutdown.isTriggered = true := untriggered
    rw [if_neg flag, Prompt.runDue]
    · rfl
    · intro task member
      rcases List.mem_append.1 member with old | new
      · exact prompt task old
      · rw [List.mem_singleton.1 new]
        rfl

theorem Prompt.bare_beginRelay (prompt : service.Prompt) (exchange : Exchange) (header : Header)
    (metrics : Metrics) (journal : List LogEntry) :
    (({ service.enroll with metrics, journal } : Service).beginRelay deployment service.begun
        exchange header).bare =
      ((({ service with backend :=
          (Relay.run deployment.settings.outbound service.backend).2 } : Service).takeIn
        (service.relayBirth deployment exchange header)).runDue deployment).bare := by
  unfold beginRelay relayBirth enroll
  dsimp only
  generalize Relay.run deployment.settings.outbound service.backend = result
  obtain ⟨outcome, backend⟩ := result
  have still (ending : Ending) :
      (({ service with backend } : Service).takeIn (.atOnce ending)).Prompt := prompt
  cases outcome with
  | relayed relayed =>
    rw [(still _).runDue]
    rfl
  | failed failure =>
    rw [(still _).runDue]
    rfl
  | pending url => exact runDue_congr rfl

/-- A request is born at the service. -/
theorem Sound.bare_admitRequest (sound : service.Sound held) (prompt : service.Prompt)
    (request : Http.Request) :
    (service.admitRequest deployment request).bare =
      ((({ service with backend := service.backendAfter deployment (.request request) } :
        Service).takeIn (service.requestBirth deployment request)).runDue deployment).bare := by
  have still (ending : Ending) : (service.takeIn (.atOnce ending)).Prompt := prompt
  unfold admitRequest beginRequest requestBirth backendAfter
  dsimp only
  by_cases late : service.deadlineOf deployment = some service.now
  · have spent : (deployment.settings.timeouts.requestSeconds.map fun seconds =>
        service.enroll.now + 1000 * seconds.toNat) = some service.enroll.now := late
    rw [if_pos late, if_pos late, if_pos (beq_iff_eq.2 spent), (still _).runDue]
    rfl
  · have left : ¬(deployment.settings.timeouts.requestSeconds.map fun seconds =>
        service.enroll.now + 1000 * seconds.toNat) = some service.enroll.now := late
    rw [if_neg late, if_neg late, if_neg (fun same => left (beq_iff_eq.1 same)), orderBirth]
    cases Http.Dispatch.ofRequest request with
    | unmatched response =>
      rw [(still _).runDue]
      rfl
    | answered route response events =>
      rw [(still _).runDue]
      rfl
    | demo header order => exact sound.bare_beginSleep prompt _ _ _ _ _
    | demoService order => exact sound.bare_beginSleep prompt _ _ _ _ _
    | relay header => exact prompt.bare_beginRelay _ header _ _

/-- Whatever begins, what was born is taken in, and then attended to if it is over already. -/
theorem Sound.bare_begin (sound : service.Sound held) (prompt : service.Prompt)
    (deployment : Deployment) (start : Start) :
    (service.begin deployment start).bare =
      ((service.born deployment start).runDue deployment).bare := by
  cases start with
  | delay delaySeconds => exact sound.bare_beginSleep prompt _ _ _ _ _
  | operation delaySeconds rounds => exact sound.bare_beginSleep prompt _ _ _ _ _
  | service policy delaySeconds => exact sound.bare_beginSleep prompt _ _ _ _ _
  | wait => exact sound.bare_beginWait prompt
  | request request => exact sound.bare_admitRequest prompt request

/-! ### What is born keeps the service sound -/

/-- A task that may begin at the service: the next one in number, that begins now, is not busy yet,
and holds a receiver only if the shutdown has not been triggered. -/
structure Newborn (service : Service) (task : Task) : Prop where
  next : task.serial = service.begun
  punctual : task.started = service.now
  fits : task.Fits
  waiting : task.stage ≠ .busy
  behind : ∀ receiver ∈ task.stage.receiver?, receiver.seen ≤ service.shutdown.signals.sent
  untriggered : task.holds = true → service.shutdown.isTriggered = false

theorem newborn_of_sleepBirth {purpose : Purpose} {delaySeconds rounds : UInt64} {task : Task}
    (sleeps : purpose.sleeps = true)
    (born : service.sleepBirth purpose delaySeconds rounds = .begins task) :
    service.Newborn task := by
  unfold sleepBirth at born
  split at born
  · cases born
  · rename_i untriggered
    cases born
    refine ⟨rfl, rfl, sleeps, nofun, fun receiver watching => ?_,
      fun _ => by simpa using untriggered⟩
    rw [← Option.some.inj watching]
    exact Nat.le_refl _

theorem newborn_of_waitBirth {task : Task} (born : service.waitBirth = .begins task) :
    service.Newborn task := by
  unfold waitBirth at born
  split at born
  · cases born
  · rename_i untriggered
    cases born
    refine ⟨rfl, rfl, rfl, nofun, fun receiver watching => ?_, fun _ => by simpa using untriggered⟩
    rw [← Option.some.inj watching]
    exact Nat.le_refl _

theorem newborn_of_relayBirth {exchange : Exchange} {header : Header} {task : Task}
    (born : service.relayBirth deployment exchange header = .begins task) :
    service.Newborn task := by
  unfold relayBirth at born
  dsimp only at born
  split at born
  · cases born
  · cases born
  · cases born
    exact ⟨rfl, rfl, ⟨exchange, header, rfl⟩, nofun, nofun, nofun⟩

/-- Whatever is born and not over at once is a task that may begin. -/
theorem newborn_of_birth {start : Start} {task : Task}
    (born : service.birth deployment start = .begins task) : service.Newborn task := by
  cases start with
  | delay delaySeconds => exact newborn_of_sleepBirth rfl born
  | operation delaySeconds rounds => exact newborn_of_sleepBirth rfl born
  | service policy delaySeconds => exact newborn_of_sleepBirth rfl born
  | wait => exact newborn_of_waitBirth born
  | request request =>
    simp only [birth, requestBirth, orderBirth] at born
    split at born
    · cases born
    · split at born
      · cases born
      · cases born
      · exact newborn_of_sleepBirth rfl born
      · exact newborn_of_sleepBirth rfl born
      · exact newborn_of_relayBirth born

/-- The service stays sound when it takes in a task that may begin. -/
theorem Sound.takeIn (sound : service.Sound held) {birth : Birth}
    (newborn : ∀ task, birth = .begins task → service.Newborn task) :
    (service.takeIn birth).Sound held := by
  cases birth with
  | atOnce ending =>
    exact ⟨sound.distinct, sound.counted, fun task member =>
      Nat.lt_succ_of_lt (sound.numbered task member), sound.behind, sound.fitting, sound.drained⟩
  | begins task =>
    have new := newborn task rfl
    have sent : (service.takeIn (.begins task)).shutdown.signals.sent =
        service.shutdown.signals.sent := by
      rw [Service.takeIn]
      split <;> rfl
    have triggered : (service.takeIn (.begins task)).shutdown.isTriggered =
        service.shutdown.isTriggered := by
      rw [Service.takeIn]
      split <;> rfl
    -- Every task was there before, or is the new one.
    have either (motive : Task → Prop) (old : ∀ other ∈ service.tasks, motive other)
        (mine : motive task) : ∀ other ∈ (service.takeIn (.begins task)).tasks, motive other := by
      intro other member
      rcases List.mem_append.1 member with known | fresh
      · exact old other known
      · exact List.mem_singleton.1 fresh ▸ mine
    refine ⟨?_, ?_, either _ ?_ ?_, either _ ?_ ?_, either _ sound.fitting new.fits, ?_⟩
    · show ((service.tasks ++ [task]).map Task.serial).Nodup
      rw [List.map_append, List.map_singleton, List.nodup_append]
      refine ⟨sound.distinct, List.nodup_singleton _, fun serial among other new' => ?_⟩
      obtain ⟨old, member, rfl⟩ := List.mem_map.1 among
      have below := sound.numbered old member
      rw [List.mem_singleton.1 new', new.next]
      omega
    · have counted : service.shutdown.receiverCount = _ := sound.counted
      show (if task.holds then service.shutdown.subscribe.2 else service.shutdown).receiverCount =
        held + (service.tasks ++ [task]).countP Task.holds
      rw [List.countP_append]
      cases holds : task.holds
      · simp [holds, counted]
      · simp [holds, counted, Nat.add_assoc]
    · exact fun other member => Nat.lt_succ_of_lt (sound.numbered other member)
    · exact new.next ▸ Nat.lt_succ_self _
    · exact fun other member receiver watching => sent ▸ sound.behind other member receiver watching
    · exact fun receiver watching => sent ▸ new.behind receiver watching
    · intro flag
      rw [triggered] at flag
      refine either _ (sound.drained flag) (Bool.eq_false_iff.2 fun holds => ?_)
      exact Bool.eq_false_iff.1 (new.untriggered holds) flag

/-! ### What a beginning leaves -/

section Views

variable (sound : service.Sound held) (prompt : service.Prompt) (deployment : Deployment)
  (start : Start)

theorem now_born : (service.born deployment start).now = service.now := by
  rw [born]
  cases service.birth deployment start <;> rfl

theorem begun_born : (service.born deployment start).begun = service.begun + 1 := by
  rw [born]
  cases service.birth deployment start <;> rfl

theorem backend_born :
    (service.born deployment start).backend = service.backendAfter deployment start := by
  rw [born]
  cases service.birth deployment start <;> rfl

theorem isTriggered_born :
    (service.born deployment start).shutdown.isTriggered = service.shutdown.isTriggered := by
  rw [born]
  cases service.birth deployment start with
  | atOnce ending => rfl
  | begins task =>
    rw [takeIn]
    split <;> rfl

include sound

theorem Sound.born : (service.born deployment start).Sound held := by
  have same : ({ service with backend := service.backendAfter deployment start } :
      Service).Sound held :=
    ⟨sound.distinct, sound.counted, sound.numbered, sound.behind, sound.fitting, sound.drained⟩
  refine same.takeIn fun task begins => ?_
  have new := newborn_of_birth begins
  exact ⟨new.next, new.punctual, new.fits, new.waiting, new.behind, new.untriggered⟩

/-- A number that has not been given out is no task's. -/
theorem Sound.task?_unborn {serial : Nat} (unborn : service.begun ≤ serial) :
    service.task? serial = none := by
  refine Option.eq_none_iff_forall_ne_some.2 fun task found => ?_
  have below := sound.numbered task (mem_of_task? found)
  rw [serial_of_task? found] at below
  omega

theorem Sound.task?_born_self :
    (service.born deployment start).task? service.begun =
      (service.birth deployment start).task? := by
  have unborn := sound.task?_unborn (Nat.le_refl service.begun)
  rw [Service.born]
  cases same : service.birth deployment start with
  | atOnce ending => exact unborn
  | begins task =>
    have next : task.serial = service.begun := (newborn_of_birth same).next
    show (service.tasks ++ [task]).find? (·.serial == service.begun) = some task
    rw [List.find?_append, ← task?, unborn, Option.none_or]
    exact List.find?_cons_of_pos (beq_iff_eq.2 next)

/-- The next task is left as it was born, or has ended at once. -/
theorem Sound.task?_runDue_born :
    ((service.born deployment start).runDue deployment).task? service.begun =
      (service.birth deployment start).rest deployment service.now := by
  rw [← happen_now, (sound.born deployment start).task?_happen, sound.task?_born_self]
  cases same : service.birth deployment start with
  | atOnce ending => rfl
  | begins task =>
    show (task.dueFate deployment (max _ _)).rest task = _
    rw [Nat.max_self, now_born]
    rfl

theorem Sound.endingsOf_runDue_born :
    ((service.born deployment start).runDue deployment).endingsOf service.begun =
      (service.birth deployment start).completions deployment service.begun service.now ++
        service.endingsOf service.begun := by
  rw [← happen_now, (sound.born deployment start).endingsOf_happen, sound.task?_born_self]
  cases same : service.birth deployment start with
  | atOnce ending =>
    rw [Service.born, same]
    show (⟨service.begun, service.now, ending⟩ :: service.ended).filter
      (·.serial == service.begun) = ⟨service.begun, service.now, ending⟩ :: _
    exact List.filter_cons_of_pos (beq_self_eq_true _)
  | begins task =>
    have kept : (service.born deployment start).endingsOf service.begun =
        service.endingsOf service.begun := by
      rw [Service.born, same]
      rfl
    show (task.dueFate deployment (max _ _)).completions task (max _ _) ++ _ = _
    rw [Nat.max_self, now_born, kept]
    rfl

omit sound in
theorem task?_born_other {serial : Nat} (other : serial ≠ service.begun) :
    (service.born deployment start).task? serial = service.task? serial := by
  rw [Service.born]
  cases same : service.birth deployment start with
  | atOnce ending => rfl
  | begins task =>
    have next : task.serial = service.begun := (newborn_of_birth same).next
    show (service.tasks ++ [task]).find? (·.serial == serial) = service.task? serial
    rw [List.find?_append, List.find?_cons_of_neg, List.find?_nil, Option.or_none]
    · rfl
    · simpa [next] using Ne.symm other

omit sound in
theorem endingsOf_born_other {serial : Nat} (other : serial ≠ service.begun) :
    (service.born deployment start).endingsOf serial = service.endingsOf serial := by
  rw [Service.born]
  cases service.birth deployment start with
  | atOnce ending => exact List.filter_cons_of_neg (by simpa using Ne.symm other)
  | begins task => rfl

include prompt

/-- No other task notices that one begins. -/
theorem Sound.view_runDue_born_other {serial : Nat} (other : serial ≠ service.begun) :
    ((service.born deployment start).runDue deployment).task? serial = service.task? serial ∧
      ((service.born deployment start).runDue deployment).endingsOf serial =
        service.endingsOf serial := by
  have sound' := sound.born deployment start
  rw [← happen_now, sound'.task?_happen, sound'.endingsOf_happen, task?_born_other _ _ other,
    endingsOf_born_other _ _ other]
  have clock : ((service.born deployment start).poised
      (.move (service.born deployment start).now)).now = service.now :=
    (Nat.max_self _).trans (now_born deployment start)
  rw [clock]
  cases found : service.task? serial with
  | none => exact ⟨rfl, rfl⟩
  | some task =>
    have waits : task.fate deployment service.now (.move (service.born deployment start).now) =
        .waits := if_neg (by simp [prompt task (mem_of_task? found)])
    rw [Option.bind_some, Option.elim_some, waits]
    exact ⟨rfl, rfl⟩

end Views

/-- The service as a beginning leaves it. -/
structure Begun (deployment : Deployment) (start : Start) (held : Nat) (before after : Service) :
    Prop where
  sound : after.Sound held
  prompt : after.Prompt
  now : after.now = before.now
  begun : after.begun = before.begun + 1
  backend : after.backend = before.backendAfter deployment start
  isTriggered : after.shutdown.isTriggered = before.shutdown.isTriggered
  task? : after.task? before.begun = (before.birth deployment start).rest deployment before.now
  endingsOf : after.endingsOf before.begun =
    (before.birth deployment start).completions deployment before.begun before.now ++
      before.endingsOf before.begun
  task?_other : ∀ serial, serial ≠ before.begun → after.task? serial = before.task? serial
  endingsOf_other : ∀ serial, serial ≠ before.begun →
    after.endingsOf serial = before.endingsOf serial

/-- Whether the service is sound does not depend on the log or the counters. -/
theorem sound_bare : service.bare.Sound held ↔ service.Sound held :=
  ⟨fun sound => ⟨sound.distinct, sound.counted, sound.numbered, sound.behind, sound.fitting,
      sound.drained⟩,
    fun sound => ⟨sound.distinct, sound.counted, sound.numbered, sound.behind, sound.fitting,
      sound.drained⟩⟩

/-- A beginning leaves the service sound, and every task but the new one as it was. -/
theorem Sound.begin (sound : service.Sound held) (prompt : service.Prompt)
    (deployment : Deployment) (start : Start) :
    service.Begun deployment start held (service.begin deployment start) := by
  have born := sound.born deployment start
  have attended := sound_bare.2 (born.happen deployment (.move (service.born deployment start).now))
  have calm := born.prompt_move deployment (service.born deployment start).now
  have now := born.now_happen deployment (.move (service.born deployment start).now)
  have begun := born.begun_happen deployment (.move (service.born deployment start).now)
  have backend := born.backend_happen deployment (.move (service.born deployment start).now)
  have flag := born.isTriggered_happen deployment (.move (service.born deployment start).now)
  have same := sound.bare_begin prompt deployment start
  rw [happen_now] at attended calm now begun backend flag
  have others (serial : Nat) (other : serial ≠ service.begun) :=
    sound.view_runDue_born_other prompt deployment start other
  refine ⟨sound_bare.1 ?_, ?_, ?_, ?_, ?_, ?_, ?_, ?_, fun serial other => ?_,
    fun serial other => ?_⟩
  · rwa [same]
  · have calmBare : ((service.born deployment start).runDue deployment).bare.Prompt := calm
    rwa [← same] at calmBare
  · exact (congrArg Service.now same).trans
      (now.trans ((Nat.max_self _).trans (now_born deployment start)))
  · exact (congrArg Service.begun same).trans (begun.trans (begun_born deployment start))
  · exact (congrArg Service.backend same).trans (backend.trans (backend_born deployment start))
  · exact (congrArg (fun service => service.shutdown.isTriggered) same).trans
      (flag.trans (isTriggered_born deployment start))
  · exact (congrArg (fun other => other.task? service.begun) same).trans
      (sound.task?_runDue_born deployment start)
  · exact (congrArg (fun other => other.endingsOf service.begun) same).trans
      (sound.endingsOf_runDue_born deployment start)
  · exact (congrArg (fun other => other.task? serial) same).trans (others serial other).1
  · exact (congrArg (fun other => other.endingsOf serial) same).trans (others serial other).2

end Service

end LatencyService
