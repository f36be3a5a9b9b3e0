/-
The counters of a run. In a run some requests are answered, and each answer is
told of: in a scene under the number of its request, and to whoever sends one
request after the other in return. The counters say nothing that is not told:
for every endpoint and status they show how many answers with that status were
given to requests at the path of the endpoint, those to requests that took too
long left out. They forget only the order in which the answers came.
-/

import LatencyService.Proofs.Counting
import LatencyService.Proofs.Serving
import Mathlib.Algebra.BigOperators.Finprod

namespace LatencyService

open scoped BigOperators

/-! ### What counters show -/

namespace Tally

variable {Key : Type} [DecidableEq Key]

theorem mem_keys_ofList {keys : List Key} {key : Key} :
    key ∈ (ofList keys).entries.map Prod.fst ↔ key ∈ keys := by
  induction keys using List.reverseRecOn with
  | nil => exact Iff.rfl
  | append_singleton keys last inductionHypothesis =>
    rw [ofList_concat, add, keys_increment, List.mem_append, List.mem_singleton]
    split
    · rename_i known
      refine inductionHypothesis.trans ⟨.inl, fun either => either.elim id fun same => ?_⟩
      exact same ▸ inductionHypothesis.1 (same ▸ known)
    · rw [List.mem_append, List.mem_singleton, inductionHypothesis]

/-- The entries are the keys that were counted, each with its count. -/
theorem mem_entries_ofList [BEq Key] [LawfulBEq Key] {keys : List Key} {key : Key} {times : Nat} :
    (key, times) ∈ (ofList keys).entries ↔ key ∈ keys ∧ times = keys.count key := by
  have shows {times : Nat} (member : (key, times) ∈ (ofList keys).entries) :
      keys.count key = times :=
    (count_ofList keys key).symm.trans (count_of_mem (nodup_ofList keys) member)
  refine ⟨fun member => ⟨?_, (shows member).symm⟩, ?_⟩
  · exact mem_keys_ofList.1 (List.mem_map_of_mem member)
  · rintro ⟨known, rfl⟩
    obtain ⟨⟨other, times⟩, member, same⟩ := List.mem_map.1 (mem_keys_ofList.2 known)
    cases same
    rw [shows member]
    exact member

end Tally

namespace Metrics

/-- The line of the page that shows how often an endpoint has answered with a status. -/
def requestLine (route : Http.Route) (status count : Nat) : String :=
  line "demo_requests_total" [("endpoint", route.path), ("status", toString status)] count

/-- The line of the page that shows how many answers of an endpoint were measured. -/
def durationLine (route : Http.Route) (count : Nat) : String :=
  line "demo_request_duration_seconds_count" [("endpoint", route.path)] count

/-- The counters are those of some answers, each with its endpoint and status: every endpoint shows
its answers by status and all of its answers together, and nothing else is labelled as one. -/
structure Counts (metrics : Metrics) (answers : List (Http.Route × Nat)) : Prop where
  requests : ∀ route status, metrics.requests.count (route, status) = answers.count (route, status)
  durations : ∀ route,
    metrics.durations.count route = ∑ᶠ status, metrics.requests.count (route, status)
  shown : ∀ route status, (route, status) ∈ answers →
    requestLine route status (metrics.requests.count (route, status)) ∈ metrics.page
  labels : ∀ text ∈ metrics.page,
    (∃ route ∈ Http.Route.all, ∃ status, (route, status) ∈ answers ∧
      (text = requestLine route status (metrics.requests.count (route, status)) ∨
        text = durationLine route (metrics.durations.count route))) ∨
      ∃ status count, text = line "demo_outbound_calls_total" [("status", status)] count

/-- What is counted under an endpoint is counted there under some status. -/
theorem count_map_fst {statuses : Finset Nat} {answers : List (Http.Route × Nat)}
    (known : ∀ answer ∈ answers, answer.2 ∈ statuses) (route : Http.Route) :
    (answers.map Prod.fst).count route = ∑ status ∈ statuses, answers.count (route, status) := by
  induction answers with
  | nil => exact Finset.sum_const_zero.symm
  | cons answer rest inductionHypothesis =>
    obtain ⟨first, status⟩ := answer
    have among : status ∈ statuses := known _ List.mem_cons_self
    have one : ∑ other ∈ statuses, (if (first, status) = (route, other) then 1 else 0) =
        if first = route then 1 else 0 := by
      by_cases same : first = route
      · simp [same, among]
      · simp [same]
    have each (other : Nat) : List.count (route, other) ((first, status) :: rest) =
        rest.count (route, other) + if (first, status) = (route, other) then 1 else 0 := by
      rw [List.count_cons]
      simp only [beq_iff_eq]
    rw [Finset.sum_congr rfl fun other _ => each other, Finset.sum_add_distrib, one,
      ← inductionHypothesis fun answer member => known answer (List.mem_cons_of_mem _ member),
      List.map_cons, List.count_cons]
    simp only [beq_iff_eq]

theorem TallyOf.durations_eq {answers : List (Http.Route × Nat)} {metrics : Metrics}
    (tally : metrics.TallyOf answers) (route : Http.Route) :
    metrics.durations.count route = ∑ᶠ status, metrics.requests.count (route, status) := by
  let statuses : Finset Nat := (answers.map Prod.snd).toFinset
  have known (answer : Http.Route × Nat) (member : answer ∈ answers) : answer.2 ∈ statuses :=
    List.mem_toFinset.2 (List.mem_map_of_mem member)
  have support : (Function.support fun status => metrics.requests.count (route, status)) ⊆
      statuses := by
    intro status counted
    rw [Function.mem_support, tally.requests, Tally.count_ofList] at counted
    exact known (route, status) (List.count_pos_iff.1 (Nat.pos_of_ne_zero counted))
  rw [finsum_eq_sum_of_support_subset _ support, tally.durations, Tally.count_ofList,
    count_map_fst known]
  refine Finset.sum_congr rfl fun status _ => ?_
  rw [tally.requests, Tally.count_ofList]

/-- The lines of the page. -/
theorem mem_page {metrics : Metrics} {text : String} :
    text ∈ metrics.page ↔
      (∃ route status count, ((route, status), count) ∈ metrics.requests.entries ∧
        text = requestLine route status count) ∨
      (∃ route count, (route, count) ∈ metrics.durations.entries ∧
        text = durationLine route count) ∨
      ∃ status count, (status, count) ∈ metrics.relays.entries ∧
        text = line "demo_outbound_calls_total"
          [("status", (status.map toString).getD "error")] count := by
  rw [page, List.mem_mergeSort, List.mem_append, List.mem_append, List.mem_map, List.mem_map,
    List.mem_map, or_assoc]
  refine or_congr ?_ (or_congr ?_ ?_)
  · exact ⟨fun ⟨⟨⟨route, status⟩, count⟩, member, same⟩ =>
        ⟨route, status, count, member, same.symm⟩,
      fun ⟨route, status, count, member, same⟩ => ⟨((route, status), count), member, same.symm⟩⟩
  · exact ⟨fun ⟨⟨route, count⟩, member, same⟩ => ⟨route, count, member, same.symm⟩,
      fun ⟨route, count, member, same⟩ => ⟨(route, count), member, same.symm⟩⟩
  · exact ⟨fun ⟨⟨status, count⟩, member, same⟩ => ⟨status, count, member, same.symm⟩,
      fun ⟨status, count, member, same⟩ => ⟨(status, count), member, same.symm⟩⟩

/-- The tally of some answers shows just those. -/
theorem TallyOf.counts {answers : List (Http.Route × Nat)} {metrics : Metrics}
    (tally : metrics.TallyOf answers) : metrics.Counts answers := by
  have requests (route : Http.Route) (status : Nat) :
      metrics.requests.count (route, status) = answers.count (route, status) := by
    rw [tally.requests, Tally.count_ofList]
  have durations (route : Http.Route) :
      metrics.durations.count route = (answers.map Prod.fst).count route := by
    rw [tally.durations, Tally.count_ofList]
  have entries {key : Http.Route × Nat} {times : Nat} :
      (key, times) ∈ metrics.requests.entries ↔ key ∈ answers ∧ times = answers.count key := by
    rw [tally.requests]
    exact Tally.mem_entries_ofList
  have measured {route : Http.Route} {times : Nat} :
      (route, times) ∈ metrics.durations.entries ↔
        route ∈ answers.map Prod.fst ∧ times = (answers.map Prod.fst).count route := by
    rw [tally.durations]
    exact Tally.mem_entries_ofList
  have listed (route : Http.Route) : route ∈ Http.Route.all := by cases route <;> decide
  refine ⟨requests, tally.durations_eq, fun route status member => ?_, fun text member => ?_⟩
  · refine mem_page.2 (.inl ⟨route, status, _, entries.2 ⟨member, requests route status⟩, rfl⟩)
  · rcases mem_page.1 member with ⟨route, status, count, there, same⟩ | ⟨route, count, there, same⟩ |
      ⟨status, count, -, same⟩
    · obtain ⟨known, times⟩ := entries.1 there
      refine .inl ⟨route, listed route, status, known, .inl ?_⟩
      rw [requests, ← times]
      exact same
    · obtain ⟨known, times⟩ := measured.1 there
      obtain ⟨⟨other, status⟩, answer, isRoute⟩ := List.mem_map.1 known
      have mine : other = route := isRoute
      refine .inl ⟨route, listed route, status, mine ▸ answer, .inr ?_⟩
      rw [durations, ← times]
      exact same
    · exact .inr ⟨_, count, same⟩

/-- Counters forget the order of the answers. -/
theorem Counts.perm {first second : Metrics} {answers others : List (Http.Route × Nat)}
    (counts : first.Counts answers) (counted : second.Counts others) (perm : answers.Perm others)
    (route : Http.Route) :
    (∀ status, first.requests.count (route, status) = second.requests.count (route, status)) ∧
      first.durations.count route = second.durations.count route := by
  have same (status : Nat) :
      first.requests.count (route, status) = second.requests.count (route, status) := by
    rw [counts.requests, counted.requests, perm.count_eq]
  refine ⟨same, ?_⟩
  rw [counts.durations, counted.durations]
  exact finsum_congr same

end Metrics

/-! ### Nothing is told twice -/

/-- At most one thing stands in two lists if the second is empty behind anything in the first. -/
theorem length_append_le_one {Entry : Type} {first second : List Entry} (front : first.length ≤ 1)
    (back : second.length ≤ 1) (once : first ≠ [] → second = []) :
    (first ++ second).length ≤ 1 := by
  cases first with
  | nil => exact back
  | cons entry rest =>
    rw [once (List.cons_ne_nil entry rest), List.append_nil]
    exact front

theorem Fate.length_completions (task : Task) (now : Nat) (fate : Fate) :
    (fate.completions task now).length ≤ 1 := by
  rcases fate with _ | _ | _ | ending
  · exact Nat.zero_le 1
  · exact Nat.zero_le 1
  · exact Nat.zero_le 1
  · exact Nat.le_refl 1

theorem Birth.length_completions (deployment : Deployment) (serial now : Nat) (birth : Birth) :
    (birth.completions deployment serial now).length ≤ 1 := by
  cases birth with
  | atOnce ending => exact Nat.le_refl 1
  | begins task => exact Fate.length_completions task now _

theorem Course.length_told (deployment : Deployment) (course : Course)
    (happenings : List Happening) : (course.told deployment happenings).length ≤ 1 := by
  induction happenings generalizing course with
  | nil => exact Nat.zero_le 1
  | cons happening rest inductionHypothesis =>
    refine length_append_le_one ?_ (inductionHypothesis _) fun told => ?_
    · unfold completions
      cases course.task? with
      | none => exact Nat.zero_le 1
      | some task => exact Fate.length_completions task _ _
    · obtain ⟨completion, member⟩ := List.exists_mem_of_ne_nil _ told
      exact told_none (task?_of_completions member) rest

/-! ### Scenes -/

namespace Scene

variable {deployment : Deployment} {scene : Scene} {routes : Nat → Option Http.Route}
  {past : List Completion}

/-- All that is told in a run, in the order of telling. -/
def told (deployment : Deployment) (scene : Scene) (actions : List Action) : List Completion :=
  (scene.play deployment actions).1.flatMap tellings

theorem told_cons (action : Action) (rest : List Action) :
    scene.told deployment (action :: rest) =
      (scene.step deployment action).2.service.ended.reverse ++
        (scene.step deployment action).2.told deployment rest := by
  rw [← tellings_step]
  exact List.flatMap_cons

/-- After a step the counters are the tally of the answers. -/
theorem Sound.tallied_step (sound : scene.Sound) (deployment : Deployment)
    (tallied : scene.service.Tallied routes past) {action : Action}
    (asks : ∀ named, action.start? = some named → routes scene.service.begun = named.2.route?) :
    (scene.step deployment action).2.service.Tallied routes
      (past ++ scene.service.ended.reverse) := by
  have quiet : scene.quiet.service.Tallied routes (past ++ scene.service.ended.reverse) :=
    tallied.forget
  have undergone : (scene.undergone deployment action).Tallied routes
      (past ++ scene.service.ended.reverse) :=
    (Service.keeps_tallied deployment routes _).undergo quiet _
  rcases service_step deployment scene action with ⟨named, starts, same⟩ | ⟨-, shutdown, -, same⟩
  · rw [same]
    refine undergone.begin deployment ?_
    rw [sound.begun_undergone]
    exact asks named starts
  · rw [same]
    exact undergone.congr rfl rfl rfl undergone.routed

/-- The counters behind a run are the tally of the answers before it and of those told in it. -/
theorem Sound.tallied_after (sound : scene.Sound) (deployment : Deployment)
    (tallied : scene.service.Tallied routes past) {actions : List Action}
    (asks : ∀ place named, (actions.filterMap Action.start?)[place]? = some named →
      routes (scene.service.begun + place) = named.2.route?) :
    ∃ known, (scene.after deployment actions).service.Tallied routes known ∧
      known ++ (scene.after deployment actions).service.ended.reverse =
        (past ++ scene.service.ended.reverse) ++ scene.told deployment actions := by
  induction actions generalizing scene past with
  | nil => exact ⟨past, tallied, (List.append_nil _).symm⟩
  | cons action rest inductionHypothesis =>
    have begun := sound.begun_step deployment action
    have first (named : String × Start) (starts : action.start? = some named) :
        routes scene.service.begun = named.2.route? := by
      refine asks 0 named ?_
      rw [List.filterMap_cons_some starts]
      rfl
    have next := sound.tallied_step deployment tallied first
    obtain ⟨known, counted, told⟩ := inductionHypothesis (sound.step deployment action) next
      fun place named found => by
        cases starts : action.start? with
        | some own =>
          have later := asks (place + 1) named (by rwa [List.filterMap_cons_some starts])
          rw [starts] at begun
          rw [begun]
          rwa [Nat.add_right_comm]
        | none =>
          have later := asks place named (by rwa [List.filterMap_cons_none starts])
          rw [starts] at begun
          rwa [begun]
    refine ⟨known, counted, ?_⟩
    rw [told_cons, ← List.append_assoc]
    exact told

/-- A task that is stopped before its end was there. -/
theorem exists_of_stopped {name : String}
    (stopped : (scene.step deployment (.cancel name)).1.verdict = .stopped true) :
    ∃ serial task, scene.handles.lookup name = some serial ∧
      scene.service.task? serial = some task := by
  have verdict : (scene.quiet.cancel name).1 = .stopped true := stopped
  unfold cancel at verdict
  split at verdict
  · cases verdict
  · rename_i serial found
    split at verdict
    · rename_i task there
      exact ⟨serial, task, found, there⟩
    · cases verdict

/-- Of a task that is stopped before its end nothing is told, be it before or afterwards. -/
theorem Sound.told_of_stopped (sound : scene.Sound) {before later : List Action} {name : String}
    (stopped : ((scene.after deployment before).step deployment (.cancel name)).1.verdict =
      .stopped true) :
    ∃ serial, (scene.after deployment before).handles.lookup name = some serial ∧
      ∀ completion ∈ scene.told deployment (before ++ .cancel name :: later),
        completion.serial ≠ serial := by
  have middle := sound.after deployment before
  obtain ⟨serial, task, found, there⟩ := exists_of_stopped stopped
  refine ⟨serial, found, fun completion member same => ?_⟩
  have mine : completion ∈ scene.record deployment (before ++ .cancel name :: later) serial :=
    List.mem_filter.2 ⟨member, beq_iff_eq.2 same⟩
  rw [record_append] at mine
  rcases List.mem_append.1 mine with early | late
  · -- Of whatever was told before nothing would have been left to be stopped.
    have gone := sound.task?_of_record (List.mem_filter.1 early).1
    rw [same, there] at gone
    cases gone
  · have known : serial < (scene.after deployment before).service.begun :=
      Service.serial_of_task? there ▸ middle.service.numbered task (Service.mem_of_task? there)
    have cancels : task.fate deployment (scene.after deployment before).service.now
        (.cancel serial) = .ends none := if_pos (Service.serial_of_task? there)
    have history : (scene.after deployment before).history deployment (.cancel name :: later) =
        .cancel serial :: (.settle :: ((scene.after deployment before).step deployment
          (.cancel name)).2.history deployment later) := by
      have handle : (scene.after deployment before).quiet.handles.lookup name = some serial := found
      rw [Scene.history, happenings, handle]
      rfl
    rw [middle.record_eq_told deployment _ known, history, Service.course, there, Course.told,
      (Course.next_of_ends cancels).1, (Course.next_of_ends cancels).2, Course.told_ended] at late
    cases late

/-- Of no task more than one thing is told in a run. -/
theorem Sound.length_record_le (sound : scene.Sound) (deployment : Deployment)
    (actions : List Action) (serial : Nat) :
    (scene.record deployment actions serial).length ≤ 1 := by
  induction actions generalizing scene with
  | nil => exact Nat.zero_le 1
  | cons action rest inductionHypothesis =>
    rw [record_cons]
    refine length_append_le_one ?_ (inductionHypothesis (sound.step deployment action)) fun told => ?_
    · by_cases new : action.start?.isSome = true ∧ serial = scene.service.begun
      · obtain ⟨named, starts⟩ := Option.isSome_iff_exists.1 new.1
        rw [new.2, (sound.step_begins deployment starts).2]
        exact Birth.length_completions deployment _ _ _
      · rw [sound.tellings_step deployment action fun starts same => new ⟨starts, same⟩]
        exact Course.length_told deployment _ _
    · -- Of whom something was told in the step, nothing is left behind it.
      obtain ⟨completion, member⟩ := List.exists_mem_of_ne_nil _ told
      obtain ⟨among, mine⟩ := List.mem_filter.1 member
      obtain ⟨known, gone⟩ := sound.task?_of_tellings among
      rw [beq_iff_eq.1 mine] at known gone
      rw [(sound.step deployment action).record_eq_told deployment rest known]
      exact Course.told_none gone _

/-- The endpoint at the path of the request that begins as the task of a number, if it is one. -/
def routeOf (actions : List Action) (serial : Nat) : Option Http.Route :=
  (actions.filterMap Action.start?)[serial]?.bind fun named => named.2.route?

/-- The answers of a run that were not too late, each with its endpoint and status. -/
def answers (deployment : Deployment) (backend : Backend) (actions : List Action) :
    List (Http.Route × Nat) :=
  ((start deployment backend).told deployment actions).filterMap
    (Completion.countKey? (routeOf actions))

/-- The counters behind a run are the tally of its answers, and whatever is told to have the status
of a request that took too long is the answer to one. -/
theorem tally_after (deployment : Deployment) (backend : Backend) (actions : List Action) :
    ((start deployment backend).after deployment actions).service.metrics.TallyOf
        (answers deployment backend actions) ∧
      ∀ completion ∈ (start deployment backend).told deployment actions, ∀ response,
        completion.ending = .answered response → response.Telling := by
  have initial : (start deployment backend).service.Tallied (routeOf actions) [] :=
    ⟨⟨rfl, rfl⟩, fun _ member => (nomatch member), fun _ member => (nomatch member)⟩
  have asks (place : Nat) (named : String × Start)
      (found : (actions.filterMap Action.start?)[place]? = some named) :
      routeOf actions ((start deployment backend).service.begun + place) = named.2.route? := by
    have next : (start deployment backend).service.begun + place = place := Nat.zero_add place
    rw [next, routeOf, found]
    rfl
  obtain ⟨known, tallied, all⟩ :=
    (sound_start deployment backend).tallied_after deployment initial asks
  have tally := tallied.tally
  have telling := tallied.telling
  rw [all] at tally telling
  exact ⟨tally, telling⟩

end Scene

/-! ### Requests one after the other -/

namespace Service

variable {deployment : Deployment} {service : Service} {routes : Nat → Option Http.Route}
  {past : List Completion} {held : Nat}

/-- The service before it is asked: the shutdown may have been triggered. -/
def readied (service : Service) (triggers : Bool) : Service :=
  if triggers then service.trigger else service

/-- Serve requests one after the other; before each of them the shutdown may be triggered. -/
def serveAll (deployment : Deployment) (service : Service) :
    List (Bool × Http.Request) → List (Option Http.Response) × Service
  | [] => ([], service)
  | (triggers, request) :: rest =>
    let (response, served) := (service.readied triggers).serve deployment request
    let (responses, last) := serveAll deployment served rest
    (response :: responses, last)

/-- The answers to requests that were not too late, each with its endpoint and status. -/
def answersTo (requests : List (Bool × Http.Request)) (responses : List (Option Http.Response)) :
    List (Http.Route × Nat) :=
  (requests.zip responses).filterMap fun (request, response) =>
    response.bind (Http.countKey? (Http.Route.ofPath? request.2.path))

theorem serveAll_cons (triggers : Bool) (request : Http.Request)
    (rest : List (Bool × Http.Request)) :
    service.serveAll deployment ((triggers, request) :: rest) =
      (responseOf ((service.readied triggers).served deployment request).ended ::
          (((service.readied triggers).served deployment request).serveAll deployment rest).1,
        (((service.readied triggers).served deployment request).serveAll deployment rest).2) := by
  rw [serveAll, serve_eq]

theorem answersTo_cons (asked : Bool × Http.Request) (rest : List (Bool × Http.Request))
    (response : Option Http.Response) (responses : List (Option Http.Response)) :
    answersTo (asked :: rest) (response :: responses) =
      (response.bind (Http.countKey? (Http.Route.ofPath? asked.2.path))).toList ++
        answersTo rest responses := by
  rw [answersTo, List.zip_cons_cons]
  cases key : response.bind (Http.countKey? (Http.Route.ofPath? asked.2.path)) with
  | none => exact List.filterMap_cons_none key
  | some known => exact List.filterMap_cons_some key

/-- Nobody who holds no receiver notices the shutdown. -/
theorem foldl_interrupt_of_released (service : Service) {tasks : List Task}
    (released : ∀ task ∈ tasks, task.holds = false) : tasks.foldl interrupt service = service := by
  induction tasks with
  | nil => rfl
  | cons task rest inductionHypothesis =>
    have stays : service.interrupt task = service := by
      have released := released task List.mem_cons_self
      unfold Task.holds at released
      unfold interrupt
      cases stage : task.stage with
      | asleep wake receiver =>
        rw [stage] at released
        cases released
      | listening receiver =>
        rw [stage] at released
        cases released
      | busy => rfl
      | relaying url giveUp => rfl
    rw [List.foldl_cons, stays]
    exact inductionHypothesis fun other member => released other (List.mem_cons_of_mem _ member)

/-- Nobody who is left at a service at rest notices the shutdown. -/
theorem Rests.trigger (rests : service.Rests) :
    service.trigger = { service with shutdown := service.shutdown.trigger } :=
  foldl_interrupt_of_released _ fun task member => (rests task member).released

theorem Rests.readied (rests : service.Rests) (triggers : Bool) :
    ∃ shutdown, service.readied triggers = { service with shutdown } := by
  cases triggers with
  | true => exact ⟨_, rests.trigger⟩
  | false => exact ⟨service.shutdown, rfl⟩

theorem Sound.readied (sound : service.Sound held) (prompt : service.Prompt)
    (deployment : Deployment) (triggers : Bool) :
    (service.readied triggers).Sound held ∧ (service.readied triggers).Prompt := by
  cases triggers with
  | true => exact ⟨sound.happen deployment .trigger, prompt.happen sound deployment .trigger⟩
  | false => exact ⟨sound, prompt⟩

/-- A service at rest that is readied is as before but for its shutdown, and serves a request. -/
theorem Sound.serve_readied (sound : service.Sound held) (prompt : service.Prompt)
    (rests : service.Rests) (deployment : Deployment) (triggers : Bool) (request : Http.Request) :
    ∃ shutdown, service.readied triggers = { service with shutdown } ∧
      (({ service with shutdown } : Service).Sound held ∧
        ({ service with shutdown } : Service).Prompt) ∧
      Served deployment request held { service with shutdown }
        (({ service with shutdown } : Service).served deployment request) := by
  obtain ⟨shutdown, readied⟩ := rests.readied triggers
  have ready := sound.readied prompt deployment triggers
  rw [readied] at ready
  have calm : ({ service with shutdown } : Service).Rests := rests
  exact ⟨shutdown, readied, ready, ready.1.serve ready.2 calm deployment request⟩

/-- The counters of a service that has served a request are the tally of the answers. -/
theorem Tallied.served (tallied : service.Tallied routes past) (deployment : Deployment)
    {request : Http.Request} (mine : routes service.begun = Http.Route.ofPath? request.path) :
    (service.served deployment request).Tallied routes (past ++ service.ended.reverse) := by
  have begins : routes service.begun = (Start.request request).route? := mine
  have asked : (service.asked deployment request).Tallied routes
      (past ++ service.ended.reverse) := tallied.forget.begin deployment begins
  unfold Service.served waitFor
  rw [passTime_eq_undergo]
  exact (keeps_tallied deployment routes _).undergo asked _

theorem mem_of_responseOf {ended : List Completion} {response : Http.Response}
    (found : responseOf ended = some response) :
    ∃ completion ∈ ended, completion.ending = .answered response := by
  cases ended with
  | nil => cases found
  | cons completion rest =>
    obtain ⟨serial, time, ending⟩ := completion
    cases ending with
    | answered other =>
      cases found
      exact ⟨_, List.mem_cons_self, rfl⟩
    | _ => cases found

/-- Of the task of a request that was waited for at most one thing is told. -/
theorem Served.ended_cases {request : Http.Request} {after : Service}
    (served : service.Served deployment request held after) :
    after.ended = [] ∨ ∃ time ending, after.ended = [⟨service.begun, time, ending⟩] := by
  rw [served.ended]
  cases born : service.birth deployment (.request request) with
  | atOnce ending => exact .inr ⟨service.now, ending, rfl⟩
  | begins task =>
    have new := newborn_of_birth born
    rw [Birth.outcome]
    cases same : task.due? with
    | none => exact .inl rfl
    | some time =>
      have due : task.isDueAt (max service.now time) = true :=
        Task.isDueAt_iff.2 ⟨time, same, Nat.le_max_right service.now time⟩
      obtain ⟨ending, ends⟩ := Task.exists_conclusion deployment new.fits due
      rw [new.next] at ends
      exact .inr ⟨_, ending, ends⟩

/-- What a request is counted as can be told from the response that it gets. -/
theorem Served.countKeys {request : Http.Request} {after : Service}
    (served : service.Served deployment request held after)
    (mine : routes service.begun = Http.Route.ofPath? request.path) :
    after.ended.reverse.filterMap (Completion.countKey? routes) =
      ((responseOf after.ended).bind
        (Http.countKey? (Http.Route.ofPath? request.path))).toList := by
  rcases served.ended_cases with none_ended | ⟨time, ending, ended⟩
  · rw [none_ended]
    rfl
  · rw [ended, ← mine]
    cases ending with
    | answered response =>
      show List.filterMap _ [_] = (Http.countKey? (routes service.begun) response).toList
      cases key : Http.countKey? (routes service.begun) response with
      | none => exact List.filterMap_cons_none key
      | some known => exact List.filterMap_cons_some key
    | _ => rfl

/-- The counters of a service that serves requests one after the other are the tally of the
answers. -/
theorem Sound.tally_serveAll (sound : service.Sound held) (prompt : service.Prompt)
    (rests : service.Rests) (deployment : Deployment) (tallied : service.Tallied routes past)
    {requests : List (Bool × Http.Request)}
    (asks : ∀ place asked, requests[place]? = some asked →
      routes (service.begun + place) = Http.Route.ofPath? asked.2.path) :
    (service.serveAll deployment requests).2.metrics.TallyOf
        ((past ++ service.ended.reverse).filterMap (Completion.countKey? routes) ++
          answersTo requests (service.serveAll deployment requests).1) ∧
      ∀ response, some response ∈ (service.serveAll deployment requests).1 →
        response.Telling := by
  induction requests generalizing service past with
  | nil =>
    refine ⟨?_, fun _ member => (nomatch member)⟩
    show service.metrics.TallyOf (_ ++ [])
    rw [List.append_nil]
    exact tallied.tally
  | cons asked rest inductionHypothesis =>
    obtain ⟨triggers, request⟩ := asked
    obtain ⟨shutdown, readied, -, served⟩ :=
      sound.serve_readied prompt rests deployment triggers request
    have first : routes service.begun = Http.Route.ofPath? request.path :=
      asks 0 (triggers, request) rfl
    have counted : ({ service with shutdown } : Service).Tallied routes past :=
      tallied.congr rfl rfl rfl tallied.routed
    have keys := served.countKeys first
    have behind := counted.served deployment first
    obtain ⟨tally, telling⟩ := inductionHypothesis served.sound served.prompt served.rests behind
      fun place asked found => by
        have later := asks (place + 1) asked found
        rw [served.begun]
        rwa [Nat.add_right_comm]
    rw [List.filterMap_append, keys, List.append_assoc] at tally
    rw [serveAll_cons, readied, answersTo_cons]
    refine ⟨tally, fun response member => ?_⟩
    rcases List.mem_cons.1 member with own | later
    · obtain ⟨completion, there, answered⟩ := mem_of_responseOf own.symm
      exact behind.telling completion
        (List.mem_append_right _ (List.mem_reverse.2 there)) response answered
    · exact telling response later

/-- The counters behind requests that are served one after the other are the tally of the answers,
and whatever has the status of a request that took too long is the answer to one. -/
theorem tally_served (deployment : Deployment) (backend : Backend)
    (requests : List (Bool × Http.Request)) :
    ((start deployment backend).serveAll deployment requests).2.metrics.TallyOf
        (answersTo requests ((start deployment backend).serveAll deployment requests).1) ∧
      ∀ response, some response ∈ ((start deployment backend).serveAll deployment requests).1 →
        response.Telling := by
  have initial := Scene.sound_start deployment backend
  let routes (serial : Nat) : Option Http.Route :=
    requests[serial]?.bind fun asked => Http.Route.ofPath? asked.2.path
  have tallied : (start deployment backend).Tallied routes [] :=
    ⟨⟨rfl, rfl⟩, fun _ member => (nomatch member), fun _ member => (nomatch member)⟩
  have rests : (start deployment backend).Rests := fun _ member => (nomatch member)
  refine Sound.tally_serveAll initial.service initial.prompt rests deployment tallied ?_
  intro place asked found
  have next : (start deployment backend).begun + place = place := Nat.zero_add place
  show (requests[(start deployment backend).begun + place]?.bind _) = _
  rw [next, found]
  rfl

end Service

/-! ### The counters are the history -/

/-- At any time in any run, be it a scene or requests that are served one after the other, the
counters are those of the answers that were given by then to requests at the path of an endpoint and
were not too late. Only the answer to a request that took too long has the status by which it is
left out. Of no request more than one answer is told, and none at all of one that is stopped. The
order of the answers does not count. -/
theorem requests_counted :
    (∀ deployment backend actions,
      let first := Scene.start deployment backend
      (first.after deployment actions).service.metrics.Counts
          (Scene.answers deployment backend actions) ∧
        (∀ completion ∈ first.told deployment actions, ∀ response,
          completion.ending = .answered response → response.Telling) ∧
        (∀ serial, (first.record deployment actions serial).length ≤ 1) ∧
        ∀ before name later, actions = before ++ .cancel name :: later →
          ((first.after deployment before).step deployment (.cancel name)).1.verdict =
            .stopped true →
          ∃ serial, (first.after deployment before).handles.lookup name = some serial ∧
            ∀ completion ∈ first.told deployment actions, completion.serial ≠ serial) ∧
    (∀ deployment backend requests,
      let (responses, service) :=
        (Service.start deployment backend).serveAll deployment requests
      service.metrics.Counts (Service.answersTo requests responses) ∧
        ∀ response, some response ∈ responses → response.Telling) ∧
    ∀ (first second : Metrics) (answers others : List (Http.Route × Nat)),
      first.Counts answers → second.Counts others → answers.Perm others → ∀ route,
        (∀ status, first.requests.count (route, status) = second.requests.count (route, status)) ∧
          first.durations.count route = second.durations.count route := by
  refine ⟨fun deployment backend actions => ?_, fun deployment backend requests => ?_,
    fun first second answers others counts counted perm route => counts.perm counted perm route⟩
  · have tally := Scene.tally_after deployment backend actions
    have sound := Scene.sound_start deployment backend
    refine ⟨tally.1.counts, tally.2, sound.length_record_le deployment actions,
      fun before name later parts stopped => ?_⟩
    rw [parts]
    exact sound.told_of_stopped stopped
  · have tally := Service.tally_served deployment backend requests
    exact ⟨tally.1.counts, tally.2⟩

end LatencyService
