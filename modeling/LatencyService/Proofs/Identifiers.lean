/-
The identifiers of requests. A request may bring identifiers of its own, and
otherwise one is made for it. The first that it brings, or the one that was made,
stands once on the response, whichever of the many responses it gets: the answer
is sealed with it on its way out, and nothing has put one there before. The log
has the same identifier, as far as it can be shown as a text.
-/

import LatencyService.Proofs.Replies
import LatencyService.Proofs.Spans

namespace LatencyService

/-! ### Octets that are shown -/

namespace Octets

/-- The text whose characters have the octets as their codes. -/
def asciiText (octets : Octets) : String :=
  String.ofList (octets.map fun octet => Char.ofNat octet.toNat)

/-- The octets are those of their text. -/
theorem ofText_asciiText {octets : Octets} (ascii : ∀ octet ∈ octets, octet.toNat < 0x80) :
    ofText (asciiText octets) = octets := by
  rw [asciiText, ofText_ofList, List.flatMap_map]
  induction octets with
  | nil => rfl
  | cons octet rest inductionHypothesis =>
    rw [List.flatMap_cons, utf8EncodeChar_ofNat (ascii octet List.mem_cons_self),
      inductionHypothesis fun other member => ascii other (List.mem_cons_of_mem _ member)]
    rfl

end Octets

namespace Http

/-- A value can be shown as a text: it holds printable ASCII and tabs, and nothing else. -/
def Showable (value : Octets) : Prop :=
  ∀ octet ∈ value, octet.toNat = 0x09 ∨ 0x20 ≤ octet.toNat ∧ octet.toNat < 0x7F

instance : DecidablePred Showable := fun value => List.decidableBAll _ value

theorem all_isVisible_iff {value : Octets} :
    value.all Octet.isVisible = true ↔ Showable value := by
  have each (octet : UInt8) : Octet.isVisible octet = true ↔
      octet.toNat = 0x09 ∨ 0x20 ≤ octet.toNat ∧ octet.toNat < 0x7F := by
    simp only [Octet.isVisible, Bool.or_eq_true, Bool.and_eq_true, decide_eq_true_eq, beq_iff_eq,
      UInt8.le_iff_toNat_le, UInt8.lt_iff_toNat_lt, ← UInt8.toNat_inj]
    exact or_comm
  simp only [List.all_eq_true, each, Showable]

/-- What can be shown is shown as it is. -/
theorem visible?_eq (value : Octets) :
    visible? value = if Showable value then some (Octets.asciiText value) else none := by
  unfold visible?
  by_cases showable : Showable value
  · have spelt : Octets.ofText (Octets.asciiText value) = value :=
      Octets.ofText_asciiText fun octet member => by
        have code := showable octet member
        omega
    rw [if_pos (all_isVisible_iff.2 showable), if_pos showable, ← Octets.toText?_ofText, spelt]
  · rw [if_neg (by rwa [all_isVisible_iff]), if_neg showable]

/-! ### Identifiers -/

/-- The values of a header, in their order, whatever the case of its name. -/
def valuesOf (headers : List (String × Octets)) (name : String) : List Octets :=
  (headers.filter fun entry => Ascii.lower entry.1 == name).map (·.2)

theorem header?_eq_head? (headers : List (String × Octets)) (name : String) :
    header? headers name = (valuesOf headers name).head? := by
  rw [header?, valuesOf, List.head?_map, List.head?_filter]

theorem valuesOf_append (first second : List (String × Octets)) (name : String) :
    valuesOf (first ++ second) name = valuesOf first name ++ valuesOf second name := by
  rw [valuesOf, List.filter_append, List.map_append]
  rfl

namespace Request

/-- The identifier of a request that comes under a number: the first that it brings, octet by octet,
or else the one that is made for it. -/
def identifier (deployment : Deployment) (serial : Nat) (request : Request) : Octets :=
  match valuesOf request.headers "x-request-id" with
  | first :: _ => first
  | [] => Octets.ofText (deployment.identifiers serial)

/-- The identifier as the log shows it. -/
def shownIdentifier (deployment : Deployment) (serial : Nat) (request : Request) : String :=
  match valuesOf request.headers "x-request-id" with
  | first :: _ => if Showable first then Octets.asciiText first else "unknown"
  | [] => deployment.identifiers serial

end Request

end Http

namespace Service

variable {deployment : Deployment} {service : Service} {request : Http.Request}

theorem identify_eq (deployment : Deployment) (serial : Nat) (request : Http.Request) :
    identify deployment serial request =
      (request.identifier deployment serial, request.shownIdentifier deployment serial) := by
  have first : Http.header? request.headers identifierHeader =
      (Http.valuesOf request.headers "x-request-id").head? :=
    Http.header?_eq_head? request.headers "x-request-id"
  rw [identify, first, Http.Request.identifier, Http.Request.shownIdentifier]
  cases Http.valuesOf request.headers "x-request-id" with
  | nil => rfl
  | cons first others =>
    simp only [List.head?_cons, Http.visible?_eq]
    split <;> rfl

end Service

/-! ### Responses before they are sealed -/

namespace Http

/-- A response does not have an identifier yet. -/
def Response.Unmarked (response : Response) : Prop := valuesOf response.headers "x-request-id" = []

theorem Response.unmarked_json (status : Nat) (document : String) :
    (Response.json status document).Unmarked := by
  have type : (Ascii.lower "content-type" == "x-request-id") = false := by decide
  have length : (Ascii.lower "content-length" == "x-request-id") = false := by decide
  rw [Unmarked, valuesOf, json]
  dsimp only
  rw [List.filter_cons_of_neg (by simp [type]), List.filter_cons_of_neg (by simp [length])]
  rfl

theorem Response.unmarked_empty (status : Nat) {headers : List (String × Octets)}
    (unmarked : valuesOf headers "x-request-id" = []) : (Response.empty status headers).Unmarked := by
  have length : (Ascii.lower "content-length" == "x-request-id") = false := by decide
  rw [Unmarked, empty]
  dsimp only
  rw [valuesOf_append, unmarked, valuesOf, List.filter_cons_of_neg (by simp [length])]
  rfl

namespace Dispatch

variable {settings : Settings} {request : Request} {response : Response} {route : Route}

theorem unmarked_nothingAt (path : String) : (nothingAt path).Unmarked := by
  unfold nothingAt
  split
  · rfl
  · exact Response.unmarked_empty 404 rfl

theorem unmarked_wrongMethod (route : Route) : (wrongMethod route).Unmarked := by
  have allow : (Ascii.lower "allow" == "x-request-id") = false := by decide
  refine Response.unmarked_empty 405 ?_
  rw [valuesOf, List.filter_cons_of_neg (by simp [allow])]
  rfl

/-- No answer of an endpoint has an identifier yet. -/
theorem unmarked_of_yields_ofRoute (yields : (ofRoute route request).Yields settings response) :
    response.Unmarked := by
  cases route with
  | health =>
    cases yields
    exact Response.unmarked_json ..
  | demo | demoService | camel | relay =>
    simp only [ofRoute] at yields
    split at yields
    · obtain ⟨-⟩ | ⟨-⟩ := yields
      exact Response.unmarked_json ..
    · cases yields <;> exact Response.unmarked_json ..

/-- Nothing that a request is answered with has an identifier yet. -/
theorem unmarked_of_yields (yields : (ofRequest request).Yields settings response) :
    response.Unmarked := by
  unfold ofRequest at yields
  split at yields
  · cases yields
    exact unmarked_nothingAt request.path
  · split at yields
    · exact unmarked_of_yields_ofRoute yields
    · cases yields
      exact unmarked_wrongMethod _

end Dispatch

end Http

/-! ### Responses with their identifiers -/

namespace Service

variable {deployment : Deployment} {service : Service} {request : Http.Request} {held : Nat}

/-- An answer that is sealed has just the identifier with which it is sealed. -/
theorem valuesOf_sealResponse {response : Http.Response} (unmarked : response.Unmarked)
    (isHead : Bool) (identifier : Octets) :
    Http.valuesOf (sealResponse isHead identifier response).headers "x-request-id" =
      [identifier] := by
  have own : Http.valuesOf [(identifierHeader, identifier)] "x-request-id" = [identifier] := by
    have same : (Ascii.lower identifierHeader == "x-request-id") = true := by decide
    rw [Http.valuesOf, List.filter_cons_of_pos (by simpa using same)]
    rfl
  have headers : (sealResponse isHead identifier response).headers =
      response.headers ++ [(identifierHeader, identifier)] := by
    cases isHead <;> rfl
  rw [headers, Http.valuesOf_append, unmarked, own]
  rfl

/-- A response has one identifier, that of the request. -/
def Marks (deployment : Deployment) (serial : Nat) (request : Http.Request)
    (response : Http.Response) : Prop :=
  Http.valuesOf response.headers "x-request-id" = [request.identifier deployment serial]

/-- Whatever answers a request has its identifier. -/
theorem Replies.marks {ending : Ending} (replies : service.Replies deployment request ending) :
    ∃ response, ending = .answered response ∧
      Marks deployment service.begun request response := by
  obtain ⟨raw, rfl, origin⟩ := replies
  have unmarked : raw.Unmarked := by
    rcases origin with rfl | yields
    · exact Http.Response.unmarked_empty 408 rfl
    · exact Http.Dispatch.unmarked_of_yields yields
  refine ⟨_, rfl, ?_⟩
  rw [Marks, valuesOf_sealResponse unmarked, identify_eq]

end Service

namespace Scene

variable {deployment : Deployment} {scene : Scene}

/-- Whatever is told of a request in a run is a response with its identifier. -/
theorem Sound.marks (sound : scene.Sound) (deployment : Deployment) {actions : List Action}
    {serial : Nat} {request : Http.Request}
    (member : (serial, request) ∈ Start.requestsFrom scene.service.begun (starts actions)) :
    ∀ completion ∈ scene.record deployment actions serial, ∃ response,
      completion.ending = .answered response ∧
        Service.Marks deployment serial request response := by
  induction actions generalizing scene with
  | nil => cases member
  | cons action rest inductionHypothesis =>
    have begun := sound.begun_step deployment action
    -- Of a request that comes in the rest of the run nothing is told in this step.
    have later (known : (serial, request) ∈ Start.requestsFrom
        (scene.step deployment action).2.service.begun (starts rest)) :
        ∀ completion ∈ scene.record deployment (action :: rest) serial, ∃ response,
          completion.ending = .answered response ∧
            Service.Marks deployment serial request response := by
      have unborn := sound.record_unborn deployment [action] (Start.le_of_mem_requestsFrom known)
      rw [← List.singleton_append, record_append, unborn, List.nil_append]
      exact inductionHypothesis (sound.step deployment action) known
    rw [starts_cons] at member
    cases first : action.start? with
    | none =>
      rw [first] at member begun
      rw [begun] at later
      exact later member
    | some named =>
      rw [first] at member begun
      rw [begun] at later
      rcases List.mem_append.1 member with own | others
      · obtain ⟨name, start⟩ := named
        obtain ⟨asked, isRequest, same⟩ := Option.map_eq_some_iff.1 (Option.mem_toList.1 own)
        cases same
        cases start with
        | request _ =>
          cases isRequest
          intro completion told
          exact (sound.replies deployment first rest completion told).marks
        | _ => cases isRequest
      · exact later others

end Scene

namespace Service

variable {deployment : Deployment} {service : Service} {held : Nat}

/-- Whatever is returned for requests that are served one after the other has their identifiers. -/
theorem Sound.marks_serveAll (sound : service.Sound held) (prompt : service.Prompt)
    (rests : service.Rests) (deployment : Deployment) {requests : List (Bool × Http.Request)}
    {place : Nat} {asked : Bool × Http.Request} {response : Http.Response}
    (asks : requests[place]? = some asked)
    (returns : (service.serveAll deployment requests).1[place]? = some (some response)) :
    Marks deployment (service.begun + place) asked.2 response := by
  induction requests generalizing service place with
  | nil => cases asks
  | cons first rest inductionHypothesis =>
    obtain ⟨triggers, request⟩ := first
    obtain ⟨shutdown, readied, ready, served⟩ :=
      sound.serve_readied prompt rests deployment triggers request
    rw [serveAll_cons, readied] at returns
    cases place with
    | zero =>
      cases asks
      have own : (({ service with shutdown } : Service).serve deployment request).1 =
          some response := by
        rw [serve_eq]
        exact Option.some.inj returns
      obtain ⟨other, same, marks⟩ := (ready.1.replies_serve ready.2 rests own).marks
      cases same
      exact marks
    | succ place =>
      have marks := inductionHypothesis served.sound served.prompt served.rests asks returns
      rw [served.begun] at marks
      rwa [Nat.add_right_comm] at marks

end Service

theorem spansOf_eq (deployment : Deployment) (requests : List (Nat × Http.Request)) :
    spansOf deployment requests = requests.map fun asked =>
      ⟨asked.2.method, asked.2.path, asked.2.shownIdentifier deployment asked.1⟩ := by
  simp only [spansOf, Service.spanOf, Service.identify_eq]

/-- Every request has one identifier: the first that it brings, or else the one that is made for it.
Whatever it is answered with, in whatever order and however many are answered meanwhile, the
response has that identifier and no other. The log has a line for every request and no more, in the
order in which they came, with the identifier as far as it can be shown: octets that are not
printable ASCII or tabs cannot. -/
theorem requests_identified :
    (∀ deployment backend actions,
      let first := Scene.start deployment backend
      (∀ serial request, (serial, request) ∈ Scene.requests actions →
        ∀ completion ∈ first.record deployment actions serial, ∃ response : Http.Response,
          completion.ending = .answered response ∧
            Http.valuesOf response.headers "x-request-id" =
              [request.identifier deployment serial]) ∧
        (first.after deployment actions).service.spans =
          (Scene.requests actions).map fun (serial, request) =>
            ⟨request.method, request.path, request.shownIdentifier deployment serial⟩) ∧
    ∀ deployment backend (requests : List (Bool × Http.Request)),
      let served := (Service.start deployment backend).serveAll deployment requests
      (∀ place triggers (request : Http.Request) (response : Http.Response),
        requests[place]? = some (triggers, request) → served.1[place]? = some (some response) →
          Http.valuesOf response.headers "x-request-id" =
            [request.identifier deployment place]) ∧
        served.2.spans = requests.zipIdx.map fun ((_, request), serial) =>
          ⟨request.method, request.path, request.shownIdentifier deployment serial⟩ := by
  refine ⟨fun deployment backend actions => ?_, fun deployment backend requests => ?_⟩
  · have sound := Scene.sound_start deployment backend
    refine ⟨fun serial request member => sound.marks deployment member, ?_⟩
    rw [sound.spans_after, spansOf_eq]
    rfl
  · have start := Scene.sound_start deployment backend
    have rests : (Service.start deployment backend).Rests := List.forall_mem_nil _
    refine ⟨fun place triggers request response asks returns => ?_, ?_⟩
    · have marks := start.service.marks_serveAll start.prompt rests deployment asks returns
      rwa [show (Scene.start deployment backend).service.begun + place = place from
        Nat.zero_add place] at marks
    · have spans := start.service.spans_serveAll start.prompt rests deployment requests
      rw [spansOf_eq, Start.requestsFrom_requests, List.map_map] at spans
      exact spans

/-- Of two identifiers that a request brings the first comes back, though the log cannot show it; the
next request brings none and gets the one that is made for it. -/
theorem requests_identified_unshown :
    let deployment : Deployment := ⟨{}, fun serial => "made-" ++ toString serial⟩
    let marked : Http.Request :=
      { method := "GET", target := "/nowhere"
        headers := [("X-Request-Id", [0xE9]), ("x-request-id", Octets.ofText "second")] }
    let plain : Http.Request := { method := "GET", target := "/health" }
    let served := (Service.start deployment {}).serveAll deployment [(false, marked), (false, plain)]
    (∃ first second, served.1 = [some first, some second] ∧
        Http.valuesOf first.headers "x-request-id" = [[0xE9]] ∧
        Http.valuesOf second.headers "x-request-id" = [Octets.ofText "made-1"]) ∧
      served.2.spans = [⟨"GET", "/nowhere", "unknown"⟩, ⟨"GET", "/health", "made-1"⟩] := by
  intro deployment marked plain served
  obtain ⟨marks, spans⟩ := requests_identified.2 deployment {} [(false, marked), (false, plain)]
  have answered : served.1.map Option.isSome = [true, true] := by decide +kernel
  obtain ⟨first, second, responses⟩ : ∃ first second, served.1 = [some first, some second] := by
    match served.1, answered with
    | [some first, some second], _ => exact ⟨first, second, rfl⟩
  have brought : marked.identifier deployment 0 = [0xE9] := by decide +kernel
  have made : plain.identifier deployment 1 = Octets.ofText "made-1" := by decide +kernel
  have lines : ([(false, marked), (false, plain)].zipIdx.map fun ((_, request), serial) =>
      (⟨request.method, request.path, request.shownIdentifier deployment serial⟩ : RequestSpan)) =
      [⟨"GET", "/nowhere", "unknown"⟩, ⟨"GET", "/health", "made-1"⟩] := by decide +kernel
  refine ⟨⟨first, second, responses, ?_, ?_⟩, spans.trans lines⟩
  · rw [marks 0 false marked first rfl (by rw [responses]; rfl), brought]
  · rw [marks 1 false plain second rfl (by rw [responses]; rfl), made]

end LatencyService
