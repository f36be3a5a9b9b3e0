/-
The header that an answer echoes. A request that is accepted brings a header in
its body, and where its endpoint echoes it, the answer is read back as a table
with a header that has just the strings that were brought, each under its key.
It takes nothing else from the request. The other endpoints answer without any
header, whatever becomes of the request.
-/

import LatencyService.Proofs.Carrying
import LatencyService.Proofs.Documents
import LatencyService.Proofs.Replies

namespace LatencyService

/-! ### What is read back -/

namespace Header

/-- The table of a header that has certain texts under its keys: the keys that have one, in their
order. -/
def echo (texts : String → Option String) : List (String × Tree) :=
  ["MSGID", "O360SEQ", "RETURNCODE", "RETURNDESC", "SOURCECHANNEL", "TXNSEQ"].filterMap fun key =>
    (texts key).map fun text => (key, .text text)

/-- Only what stands under the keys of a header counts. -/
theorem echo_congr {first second : String → Option String}
    (same : ∀ key ∈ keys, first key = second key) : echo first = echo second := by
  refine List.filterMap_congr fun key member => ?_
  have known : key ∈ keys :=
    (by decide : ["MSGID", "O360SEQ", "RETURNCODE", "RETURNDESC", "SOURCECHANNEL", "TXNSEQ"] ⊆ keys)
      member
  rw [same key known]

/-- A header that was written is read back as the table of its texts. -/
theorem render_writes (header : Header) :
    Json.Writes 1 header.render (.table (echo header.text?)) := by
  let texts := header.slots.filterMap fun slot => slot.2.map fun text => (slot.1, text)
  have same : header.render = Json.object ((Json.textEntries texts).map Json.TreeEntry.pair) := by
    obtain ⟨messageId, sourceChannel, transaction, returnCode, returnText, origin⟩ := header
    cases returnCode <;> cases returnText <;> cases origin <;> rfl
  have sorted : Json.insertAll [] (Json.textEntries texts) = echo header.text? := by
    obtain ⟨messageId, sourceChannel, transaction, returnCode, returnText, origin⟩ := header
    cases returnCode <;> cases returnText <;> cases origin <;>
      simp only [texts, slots, echo, text?, Json.insertAll, Json.textEntries, Tree.insertSorted,
        Option.map_some, Option.map_none, List.filterMap_cons_some, List.filterMap_cons_none,
        List.filterMap_nil, List.map_cons, List.map_nil, List.foldl_cons, List.foldl_nil,
        List.lookup_cons, List.lookup_nil, Option.join_some, String.reduceLT, String.reduceBEq,
        BEq.rfl, Bool.false_eq_true, Option.some.injEq, ↓reduceIte]
  rw [same, ← sorted]
  exact Json.object_writes (Json.textEntries_writes texts)

end Header

/-- The table of a report: its parts under their keys, in the order of keys. -/
def Report.entries (report : Report) : List (String × Tree) :=
  (report.data.map fun text => ("data", .text text)).toList ++
    (report.environment.map fun text => ("env", .text text)).toList

/-- A report that was written is read back as the table of its parts. -/
theorem Report.render_writes (report : Report) :
    Json.Writes 1 report.render (.table report.entries) := by
  let texts := (report.environment.map ("env", ·)).toList ++ (report.data.map ("data", ·)).toList
  have same : report.render = Json.object ((Json.textEntries texts).map Json.TreeEntry.pair) := by
    obtain ⟨environment, data⟩ := report
    cases environment <;> cases data <;> rfl
  have sorted : Json.insertAll [] (Json.textEntries texts) = report.entries := by
    obtain ⟨environment, data⟩ := report
    cases environment <;> cases data <;>
      simp only [texts, entries, Json.insertAll, Json.textEntries, Tree.insertSorted,
        Option.map_some, Option.map_none, Option.toList_some, Option.toList_none, List.append_nil,
        List.nil_append, List.cons_append, List.map_cons, List.map_nil, List.foldl_cons,
        List.foldl_nil, String.reduceLT, ↓reduceIte]
  rw [same, ← sorted]
  exact Json.object_writes (Json.textEntries_writes texts)

/-- The table of an answer: its parts under their keys, in the order of keys. -/
def Reply.entries (reply : Reply) : List (String × Tree) :=
  (reply.header.map fun header => ("MWHEADER", .table (Header.echo header.text?))).toList ++
    (reply.report.map fun report => ("TRANRS", .table report.entries)).toList

/-- An answer that was written is read back as the table of its parts. -/
theorem Reply.render_writes_entries (reply : Reply) :
    Json.Writes 2 reply.render (.table reply.entries) := by
  obtain ⟨header, report⟩ := reply
  let parts : List Json.TreeEntry :=
    (header.map fun header => (⟨"MWHEADER", header.render,
        .table (Header.echo header.text?)⟩ : Json.TreeEntry)).toList ++
      (report.map fun report =>
        (⟨"TRANRS", report.render, .table report.entries⟩ : Json.TreeEntry)).toList
  have same : (⟨header, report⟩ : Reply).render = Json.object (parts.map Json.TreeEntry.pair) := by
    cases header <;> cases report <;> rfl
  have sorted : Json.insertAll [] parts = (⟨header, report⟩ : Reply).entries := by
    cases header <;> cases report <;>
      simp only [parts, entries, Json.insertAll, Tree.insertSorted, Option.map_some,
        Option.map_none, Option.toList_some, Option.toList_none, List.append_nil,
        List.nil_append, List.cons_append, List.foldl_cons, List.foldl_nil, String.reduceLT,
        String.reduceBEq, Bool.false_eq_true, ↓reduceIte]
  have each : ∀ entry ∈ parts, Json.Writes 1 entry.written entry.tree := by
    intro entry member
    simp only [parts, List.mem_append, Option.mem_toList, Option.map_eq_some_iff] at member
    rcases member with ⟨own, -, rfl⟩ | ⟨own, -, rfl⟩
    · exact own.render_writes
    · exact own.render_writes
  rw [same, ← sorted]
  exact Json.object_writes each

/-- An answer that was written is read back as a table, in which its header stands under the key of
headers. -/
theorem Reply.render_writes (reply : Reply) :
    ∃ entries, Json.Writes 2 reply.render (.table entries) ∧
      Tree.find? "MWHEADER" entries =
        reply.header.map fun header => .table (Header.echo header.text?) := by
  refine ⟨reply.entries, reply.render_writes_entries, ?_⟩
  obtain ⟨header, report⟩ := reply
  cases header <;> cases report <;> rfl

/-! ### Responses without a header -/

namespace Http

/-- The document of a problem is read back as a table with the code of the problem. There is neither
a header in it nor a report. -/
theorem Problem.document_writes (problem : Problem) :
    ∃ entries, Json.Writes 2 problem.document (.table entries) ∧
      Tree.find? "error" entries = some (.text problem.code) ∧
      Tree.find? "MWHEADER" entries = none ∧ Tree.find? "TRANRS" entries = none := by
  refine ⟨problem.entries, problem.document_writes_entries, ?_⟩
  unfold Problem.entries
  split <;> exact ⟨rfl, rfl, rfl⟩

/-- A response has no header when its body is read. -/
def Response.Headless (response : Response) : Prop :=
  ∀ tree, Json.parse response.body = .ok tree → tree.get? "MWHEADER" = none

theorem Response.headless_of_empty {response : Response} (empty : response.body = []) :
    response.Headless := by
  intro tree parsed
  obtain ⟨fault, fails⟩ : ∃ fault, Json.parse [] = .error fault := by
    simp [Json.parse, Json.whole, Json.readTree, Json.skipBlanks]
  rw [empty, fails] at parsed
  cases parsed

theorem Response.headless_of_writes {written : String} {entries : List (String × Tree)}
    (writes : Json.Writes 2 written (.table entries))
    (absent : Tree.find? "MWHEADER" entries = none) (status : Nat) :
    (Response.json status written).Headless := by
  intro tree parsed
  cases (writes.parse (by decide)).symm.trans parsed
  exact absent

theorem Problem.headless (problem : Problem) : problem.response.Headless := by
  obtain ⟨entries, writes, -, absent, -⟩ := problem.document_writes
  exact Response.headless_of_writes writes absent problem.status

theorem headless_reply {reply : Reply} (none_echoed : reply.header = none) (status : Nat) :
    (Response.json status reply.render).Headless := by
  obtain ⟨entries, writes, found⟩ := reply.render_writes
  rw [none_echoed] at found
  exact Response.headless_of_writes writes found status

theorem Response.Headless.sealed {response : Response} (headless : response.Headless)
    (isHead : Bool) (identifier : Octets) :
    (Service.sealResponse isHead identifier response).Headless := by
  cases isHead with
  | false => exact headless
  | true => exact Response.headless_of_empty rfl

namespace Dispatch

variable {settings : Settings} {request : Request} {response : Response} {route : Route}

/-- Endpoints that do not echo the header answer without one. -/
theorem headless_of_yields (yields : (ofRequest request).Yields settings response)
    (found : request.path = route.path) (silent : route = .demoService ∨ route = .health) :
    response.Headless := by
  unfold ofRequest at yields
  rw [Route.ofPath?_eq_some_iff.2 found] at yields
  dsimp only at yields
  split at yields
  · rcases silent with rfl | rfl
    · simp only [ofRoute] at yields
      split at yields
      · obtain ⟨-⟩ | ⟨-⟩ := yields
        exact Problem.headless _
      · obtain ⟨-⟩ | ⟨-⟩ | ⟨-⟩ | ⟨-⟩ | ⟨-⟩ := yields
        exact headless_reply rfl 200
    · obtain ⟨-⟩ | ⟨-⟩ := yields
      exact headless_reply rfl 200
  · obtain ⟨-⟩ | ⟨-⟩ := yields
    exact Response.headless_of_empty rfl

/-- No request is refused with the status of one that is accepted. -/
theorem status_of_refused {Payload : Type} {kind : PayloadKind Payload} {problem : Problem}
    (refused : extract kind request = .error problem) : problem.response.status ≠ 200 := by
  have client := Problem.client_of_extract refused
  have status : problem.response.status = problem.status := rfl
  omega

/-- What an accepted request brings: where its body begins with a table, a header that comes once in
it. -/
def Brings (request : Request) (header : Header) : Prop :=
  Json.opensTable request.body = true → ∃ envelope text,
    Json.members? request.body = some envelope ∧ header.BroughtBy envelope text

/-- Endpoints that echo the header accept a request with an answer in which the header stands that
the request brings. -/
theorem echoes_of_yields (yields : (ofRequest request).Yields settings response)
    (found : request.path = route.path) (echoing : route ∈ [Route.demo, .camel, .relay])
    (accepted : response.status = 200) :
    request.method = "POST" ∧ ∃ header report,
      response = .json 200 (Reply.render ⟨some header, report⟩) ∧ Brings request header := by
  have brings {Payload : Type} {kind : PayloadKind Payload} (measured : kind.shape.Measured)
      {envelope : Accepted Payload} (extracted : extract kind request = .ok envelope) :
      Brings request envelope.header := Header.broughtBy_of_extract measured extracted
  have methods : route.methods = ["POST"] := by
    simp only [List.mem_cons, List.not_mem_nil, or_false] at echoing
    rcases echoing with rfl | rfl | rfl <;> rfl
  unfold ofRequest at yields
  rw [Route.ofPath?_eq_some_iff.2 found] at yields
  dsimp only at yields
  split at yields
  · rename_i allowed
    refine ⟨by simpa [methods] using allowed, ?_⟩
    simp only [List.mem_cons, List.not_mem_nil, or_false] at echoing
    rcases echoing with rfl | rfl | rfl
    · simp only [ofRoute] at yields
      split at yields
      · rename_i problem refused
        obtain ⟨-⟩ | ⟨-⟩ := yields
        exact absurd accepted (status_of_refused refused)
      · rename_i envelope extracted
        cases yields with
        | reported elapsed => exact ⟨_, _, rfl, brings Order.shape_measured extracted⟩
        | aborted => cases accepted
    · simp only [ofRoute] at yields
      split at yields
      · rename_i problem refused
        obtain ⟨-⟩ | ⟨-⟩ := yields
        exact absurd accepted (status_of_refused refused)
      · rename_i envelope extracted
        cases yields
        exact ⟨_, _, rfl, brings Shape.any_measured extracted⟩
    · simp only [ofRoute] at yields
      split at yields
      · rename_i problem refused
        obtain ⟨-⟩ | ⟨-⟩ := yields
        exact absurd accepted (status_of_refused refused)
      · rename_i envelope extracted
        cases yields with
        | relayed body => exact ⟨_, _, rfl, brings Shape.any_measured extracted⟩
        | failed failure => cases accepted
  · cases yields
    cases accepted

end Dispatch

end Http

/-! ### Responses to a request -/

namespace Service

variable {deployment : Deployment} {request : Http.Request} {response : Http.Response}

/-- A response is given to a request, be it told in a scene or returned by a service that serves
requests one after the other. -/
inductive Gives (deployment : Deployment) (request : Http.Request) (response : Http.Response) :
    Prop where
  | told (backend : Backend) (before : List Action) (name : String) (later : List Action)
      {completion : Completion}
      (member : completion ∈
        (((Scene.start deployment backend).after deployment before).record deployment
          (.request name request :: later)
          ((Scene.start deployment backend).after deployment before).service.begun))
      (answers : completion.ending = .answered response)
  | served (backend : Backend) (earlier : List (Bool × Http.Request)) (triggers : Bool)
      (returns : ((((start deployment backend).serveAll deployment earlier).2.readied
        triggers).serve deployment request).1 = some response)

/-- Whatever is given to a request is what it can have by what it asks for, with the seal of some
service. -/
theorem Gives.yields (gives : Gives deployment request response) :
    ∃ identifier raw, response = sealResponse (request.method == "HEAD") identifier raw ∧
      (raw = timedOut ∨ (Http.Dispatch.ofRequest request).Yields deployment.settings raw) := by
  have unsealed {service : Service} (replies : service.Replies deployment request
      (.answered response)) : ∃ identifier raw,
      response = sealResponse (request.method == "HEAD") identifier raw ∧
        (raw = timedOut ∨
          (Http.Dispatch.ofRequest request).Yields deployment.settings raw) := by
    obtain ⟨raw, same, yields⟩ := replies
    exact ⟨_, raw, Ending.answered.inj same, yields⟩
  cases gives with
  | told backend before name later member answers =>
    have sound := (Scene.sound_start deployment backend).after deployment before
    have replies := sound.replies deployment rfl later _ member
    rw [answers] at replies
    exact unsealed replies
  | served backend earlier triggers returns =>
    obtain ⟨held, sound, prompt, rests⟩ := rests_after deployment backend earlier
    have ready := sound.readied prompt deployment triggers
    obtain ⟨shutdown, readied⟩ := rests.readied triggers
    rw [readied] at ready returns
    exact unsealed (ready.1.replies_serve ready.2 rests returns)

end Service

/-! ### The header is echoed -/

/-- Whatever the service is doing, a request that is accepted by an endpoint which echoes the header
is answered with just the strings that it carries under the keys of a header, provided that the
envelope in its body is a table and the header in it is one, too. None of these keys comes twice
there; the required ones carry a string, and the others a string or null, if they come at all.
Nothing else in the request has any part in the header of the answer. The other two endpoints never
answer with a header. -/
theorem header_echoed {deployment : Deployment} {request : Http.Request} {response : Http.Response}
    (gives : Service.Gives deployment request response) :
    (∀ route ∈ [Http.Route.demo, .camel, .relay], request.path = route.path →
      response.status = 200 → Json.opensTable request.body = true →
      ∃ envelope text, Json.members? request.body = some envelope ∧
        envelope.lookup "MWHEADER" = some text ∧
        (envelope.map Prod.fst).count "MWHEADER" = 1 ∧
        (Json.opensTable text = true → ∃ members tree,
          Json.members? text = some members ∧
          (∀ key ∈ Header.keys, (members.map Prod.fst).count key ≤ 1 ∧
            ∀ value ∈ members.lookup key, Json.string? value = none → Json.isNull value = true) ∧
          (∀ key ∈ Header.requiredKeys, (Json.carried? members key).isSome = true) ∧
          Json.parse response.body = .ok tree ∧
          tree.get? "MWHEADER" = some (.table (Header.echo (Json.carried? members))))) ∧
    ∀ route, route = Http.Route.demoService ∨ route = .health → request.path = route.path →
      response.Headless := by
  obtain ⟨identifier, raw, rfl, yields⟩ := gives.yields
  refine ⟨fun route echoing found accepted opens => ?_, fun route silent found => ?_⟩
  · rw [Service.status_sealResponse] at accepted
    rcases yields with rfl | yields
    · cases accepted
    · obtain ⟨posted, header, report, rfl, brings⟩ :=
        Http.Dispatch.echoes_of_yields yields found echoing accepted
      obtain ⟨envelope, text, same, brought⟩ := brings opens
      refine ⟨envelope, text, same, brought.found, brought.once, fun table => ?_⟩
      obtain ⟨members, inner, carried⟩ := brought.carried table
      obtain ⟨entries, writes, there⟩ := Reply.render_writes ⟨some header, report⟩
      have whole : (request.method == "HEAD") = false := by
        rw [posted]
        decide
      refine ⟨members, .table entries, inner,
        fun key known => ⟨carried.once key known, carried.nullable key known⟩, carried.required, ?_,
        ?_⟩
      · rw [whole]
        exact writes.parse (by decide)
      · rw [← Header.echo_congr carried.text?]
        exact there
  · rcases yields with rfl | yields
    · exact (Http.Response.headless_of_empty rfl).sealed _ _
    · exact (Http.Dispatch.headless_of_yields yields found silent).sealed _ _

/-- A header with quotes, escapes and other letters comes back, and what is null or unknown does
not. -/
theorem header_echoed_with_escapes :
    let deployment : Deployment := ⟨{}, fun _ => "identifier"⟩
    let header := Octets.ofText ("\x7b\"MSGID\":\"a\\\"\\n\",\"x\":[1],\"SOURCECHANNEL\":\"\\u00e9\"," ++
      "\"RETURNCODE\":null,\"TXNSEQ\":\"t\"\x7d,\"TRANRQ\":2\x7d")
    let request : Http.Request :=
      { target := "/camel", headers := [("content-type", Octets.ofText "application/json")]
        body := Octets.ofText "\x7b\"MWHEADER\":" ++ header }
    ∃ response, Service.Gives deployment request response ∧
      request.path = Http.Route.camel.path ∧ response.status = 200 ∧
      Json.opensTable request.body = true ∧ Json.opensTable header = true ∧
      ∃ tree, Json.parse response.body = .ok tree ∧ tree.get? "MWHEADER" = some (.table
        [("MSGID", .text "a\"\n"), ("SOURCECHANNEL", .text "é"), ("TXNSEQ", .text "t")]) := by
  intro deployment header request
  have answered : ((Service.start deployment {}).serve deployment request).1.map
      Http.Response.status = some 200 := by decide +kernel
  obtain ⟨response, returns, accepted⟩ := Option.map_eq_some_iff.1 answered
  have gives : Service.Gives deployment request response := .served {} [] false returns
  have path : request.path = Http.Route.camel.path := by decide +kernel
  have opens : Json.opensTable request.body = true := by decide +kernel
  have table : Json.opensTable header = true := by decide +kernel
  obtain ⟨envelope, text, parts, found, -, echoed⟩ :=
    (header_echoed gives).1 .camel (by decide) path accepted opens
  have brought : (Json.members? request.body).map (·.lookup "MWHEADER") = some (some header) := by
    decide +kernel
  rw [parts, Option.map_some, found, Option.some.injEq, Option.some.injEq] at brought
  subst brought
  obtain ⟨members, tree, inner, -, -, parsed, there⟩ := echoed table
  have strings : (Json.members? header).map (fun members => Header.keys.map (Json.carried? members)) =
      some [some "a\"\n", some "é", some "t", none, none, none] := by decide +kernel
  rw [inner, Option.map_some, Option.some.injEq] at strings
  refine ⟨response, gives, path, accepted, opens, table, tree, parsed, there.trans ?_⟩
  simp only [Header.keys, Header.requiredKeys, List.cons_append, List.nil_append, List.map_cons,
    List.map_nil, List.cons.injEq, and_true] at strings
  obtain ⟨message, channel, transaction, code, description, origin⟩ := strings
  simp [Header.echo, message, channel, transaction, code, description, origin]

end LatencyService
