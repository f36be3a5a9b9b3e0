/-
What the response to a problem says. Its body is read back as a table with the
code of the problem, the problem in words and, where constraints are violated,
the list of them, each text as it is, whatever characters it is made of. Nothing
else is in it. A request that is refused for violated constraints is told of at
least one.
-/

import LatencyService.Proofs.Echo

namespace LatencyService

namespace Http

/-! ### What a problem tells -/

namespace Problem

/-- What a problem tells under a key. A list of violated constraints that is empty is not told. -/
inductive Tells : Problem → String → Tree → Prop where
  | code {problem : Problem} : Tells problem "error" (.text problem.code)
  | message {problem : Problem} : Tells problem "message" (.text problem.message)
  | details {details : List String} (violated : details ≠ []) :
      Tells (.invalid details) "details" (.list (details.map .text))

variable {problem : Problem} {key : String} {tree : Tree}

/-- Whatever has a list of violated constraints is that list. -/
theorem eq_invalid (listed : problem.details ≠ []) : problem = .invalid problem.details := by
  cases problem with
  | invalid details => rfl
  | _ => exact absurd rfl listed

theorem tells_iff : problem.Tells key tree ↔
    key = "error" ∧ tree = .text problem.code ∨ key = "message" ∧ tree = .text problem.message ∨
      problem.details ≠ [] ∧ key = "details" ∧ tree = .list (problem.details.map .text) := by
  constructor
  · rintro (_ | _ | ⟨violated⟩)
    · exact .inl ⟨rfl, rfl⟩
    · exact .inr (.inl ⟨rfl, rfl⟩)
    · exact .inr (.inr ⟨violated, rfl, rfl⟩)
  · rintro (⟨rfl, rfl⟩ | ⟨rfl, rfl⟩ | ⟨listed, rfl, rfl⟩)
    · exact .code
    · exact .message
    · have told : (invalid problem.details).Tells "details" (.list (problem.details.map .text)) :=
        .details listed
      rwa [← eq_invalid listed] at told

theorem mem_entries_iff : (key, tree) ∈ problem.entries ↔ problem.Tells key tree := by
  rw [tells_iff, entries]
  cases none_violated : problem.details.isEmpty with
  | true =>
    rw [List.isEmpty_iff] at none_violated
    simp [none_violated]
  | false =>
    rw [List.isEmpty_eq_false_iff] at none_violated
    simp only [Bool.false_eq_true, if_false, List.cons_append, List.nil_append, List.mem_cons,
      List.not_mem_nil, or_false, Prod.mk.injEq, none_violated, ne_eq, not_false_eq_true, true_and]
    exact or_left_comm.trans (or_congr_right or_comm)

theorem nodup_keys_entries (problem : Problem) : (problem.entries.map Prod.fst).Nodup := by
  rw [entries]
  split
  · exact (by decide : ["error", "message"].Nodup)
  · exact (by decide : ["details", "error", "message"].Nodup)

/-- The body of the response is read back as the table of what the problem tells. -/
theorem parse_body (problem : Problem) :
    Json.parse problem.response.body = .ok (.table problem.entries) :=
  problem.document_writes_entries.parse (by decide)

end Problem

/-! ### Bad requests -/

namespace Hurdle

variable {Payload : Type} {kind : PayloadKind Payload} {route : Route} {request : Request}
  {hurdle : Hurdle} {problem : Problem}

/-- Whoever violates constraints is told which ones. -/
theorem details_of_problem? (stopped : hurdle.problem? kind request = some problem)
    (violates : problem.code = "validation_failed") : problem.details ≠ [] := by
  have same : hurdle.code = "validation_failed" := (of_problem? stopped).2.symm.trans violates
  cases hurdle with
  | constraints =>
    simp only [problem?] at stopped
    split at stopped
    · cases stopped
    · split at stopped
      · cases stopped
      · rename_i violated
        cases stopped
        intro silent
        rw [Problem.details, List.map_eq_nil_iff, ← List.isEmpty_iff] at silent
        exact violated silent
  | _ => exact absurd same (by decide)

theorem details_of_firstAt? (first : firstAt? route request = some (hurdle, problem))
    (violates : problem.code = "validation_failed") : problem.details ≠ [] := by
  cases route with
  | health => cases first
  | _ => exact details_of_problem? (problem?_of_first? first) violates

end Hurdle

namespace Dispatch

variable {settings : Settings} {request : Request} {response : Response} {route : Route}

/-- Once an endpoint sets to work, the request is not a bad one any more. -/
theorem Works.status_ne {body : Octets} {dispatch : Dispatch} (works : Works body route dispatch)
    (yields : dispatch.Yields settings response) : response.status ≠ 400 := by
  intro bad
  cases works <;> cases yields <;> cases bad

/-- Only a request that a hurdle stops is a bad one. -/
theorem stopped_of_yields (yields : (ofRequest request).Yields settings response)
    (bad : response.status = 400) :
    request.method = "POST" ∧ ∃ route hurdle problem,
      Hurdle.firstAt? route request = some (hurdle, problem) ∧ response = problem.response := by
  unfold ofRequest at yields
  cases found : Route.ofPath? request.path with
  | none =>
    rw [found] at yields
    cases yields
    unfold nothingAt at bad
    split at bad <;> cases bad
  | some route =>
    rw [found] at yields
    dsimp only at yields
    split at yields
    case isFalse =>
      cases yields
      cases bad
    case isTrue allowed =>
      by_cases work : route = .health
      · subst work
        cases yields
        cases bad
      · have posted : request.method = "POST" := by
          cases route with
          | health => exact absurd rfl work
          | _ => simpa [Route.methods] using allowed
        refine ⟨posted, route, ?_⟩
        cases first : Hurdle.firstAt? route request with
        | none => exact absurd bad ((works_of_firstAt? first work).status_ne yields)
        | some stopped =>
          obtain ⟨hurdle, problem⟩ := stopped
          rw [ofRoute_of_firstAt? first] at yields
          cases yields
          exact ⟨hurdle, problem, rfl, rfl⟩

end Dispatch

end Http

/-- Whatever is given to a bad request tells the problem with it. -/
theorem Service.Gives.problem {deployment : Deployment} {request : Http.Request}
    {response : Http.Response} (gives : Gives deployment request response)
    (bad : response.status = 400) :
    ∃ problem : Http.Problem, response.body = problem.response.body ∧
      (problem.code = "validation_failed" → problem.details ≠ []) := by
  obtain ⟨identifier, raw, rfl, yields⟩ := gives.yields
  rw [status_sealResponse] at bad
  rcases yields with rfl | yields
  · cases bad
  · obtain ⟨posted, route, hurdle, problem, first, rfl⟩ :=
      Http.Dispatch.stopped_of_yields yields bad
    have whole : (request.method == "HEAD") = false := by
      rw [posted]
      decide
    refine ⟨problem, ?_, Http.Hurdle.details_of_firstAt? first⟩
    rw [whole]
    rfl

/-! ### Problems are told as they are -/

/-- The response to a problem has its status, is declared as JSON, and is read back as a table that
holds just what the problem tells, each key once: its code, its text and, if there are any, the
violated constraints, which make up the text, too. Whatever is given to a bad request is read back
like that, and if it is refused for violated constraints, then these are told, and there are some. -/
theorem problems_told :
    (∀ problem : Http.Problem,
      problem.response.status = problem.status ∧
      Http.header? problem.response.headers "content-type" =
        some (Octets.ofText "application/json") ∧
      ∃ entries, Json.parse problem.response.body = .ok (.table entries) ∧
        (entries.map Prod.fst).Nodup ∧
        ∀ key tree, (key, tree) ∈ entries ↔ problem.Tells key tree) ∧
    (∀ details, (Http.Problem.invalid details).message =
      "validation failed: " ++ String.intercalate ", " details) ∧
    ∀ (deployment : Deployment) (request : Http.Request) (response : Http.Response),
      Service.Gives deployment request response → response.status = 400 →
      ∃ problem entries, Json.parse response.body = .ok (.table entries) ∧
        (∀ key tree, (key, tree) ∈ entries ↔ Http.Problem.Tells problem key tree) ∧
        (("error", .text "validation_failed") ∈ entries →
          ∃ details, details ≠ [] ∧ problem = .invalid details ∧
            ("details", .list (details.map .text)) ∈ entries) := by
  refine ⟨fun problem => ⟨rfl, ?_, problem.entries, problem.parse_body,
    problem.nodup_keys_entries, fun key tree => Http.Problem.mem_entries_iff⟩, fun details => rfl,
    fun deployment request response gives bad => ?_⟩
  · have named : (Ascii.lower "content-type" == "content-type") = true := by decide
    exact congrArg (Option.map Prod.snd) (List.find?_cons_of_pos named)
  · obtain ⟨problem, same, listed⟩ := gives.problem bad
    refine ⟨problem, problem.entries, same ▸ problem.parse_body,
      fun key tree => Http.Problem.mem_entries_iff, fun violates => ?_⟩
    have code : problem.code = "validation_failed" := by
      rcases Http.Problem.tells_iff.1 (Http.Problem.mem_entries_iff.1 violates) with
        ⟨-, told⟩ | ⟨other, -⟩ | ⟨-, other, -⟩
      · exact (Tree.text.inj told).symm
      · exact absurd other (by decide)
      · exact absurd other (by decide)
    have violated := listed code
    refine ⟨problem.details, violated, Http.Problem.eq_invalid violated, ?_⟩
    exact Http.Problem.mem_entries_iff.2
      (Http.Problem.tells_iff.2 (.inr (.inr ⟨violated, rfl, rfl⟩)))

/-- A request that brings neither a header nor a payload is told that both are missing, in this
order; and quotes, control characters and the like come back as they are. -/
theorem problems_told_of_missing_parts :
    let deployment : Deployment := ⟨{}, fun _ => "identifier"⟩
    let request : Http.Request :=
      { target := "/camel", headers := [("content-type", Octets.ofText "application/json")]
        body := Octets.ofText "\x7b\x7d" }
    let details := ["a \"b\" \\", "\x00\n\x7fé", ""]
    (∃ response, Service.Gives deployment request response ∧ response.status = 400 ∧
      ∃ entries, Json.parse response.body = .ok (.table entries) ∧
        ("details", .list [.text "MWHEADER is null", .text "TRANRQ is null"]) ∈ entries) ∧
      ∃ entries, Json.parse (Http.Problem.invalid details).response.body = .ok (.table entries) ∧
        ("details", .list (details.map .text)) ∈ entries := by
  intro deployment request details
  refine ⟨?_, ?_⟩
  · have refused : ((Service.start deployment {}).serve deployment request).1.map
        (fun response => (response.status, response.body)) =
          some (400, (Http.Problem.invalid ["MWHEADER is null", "TRANRQ is null"]).response.body) := by
      decide +kernel
    obtain ⟨response, returns, same⟩ := Option.map_eq_some_iff.1 refused
    obtain ⟨bad, body⟩ := Prod.mk.inj same
    have gives : Service.Gives deployment request response := .served {} [] false returns
    obtain ⟨problem, entries, parsed, -, -⟩ :=
      problems_told.2.2 deployment request response gives bad
    obtain ⟨own, parts, -, tells⟩ :=
      (problems_told.1 (.invalid ["MWHEADER is null", "TRANRQ is null"])).2.2
    refine ⟨response, gives, bad, entries, parsed, ?_⟩
    rw [body] at parsed
    cases parts.symm.trans parsed
    exact (tells _ _).2 (.details (by decide))
  · obtain ⟨entries, parsed, -, tells⟩ := (problems_told.1 (.invalid details)).2.2
    exact ⟨entries, parsed, (tells _ _).2 (.details (by decide))⟩

end LatencyService
