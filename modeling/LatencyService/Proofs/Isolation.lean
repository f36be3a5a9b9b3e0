/-
The relayed call as the called service sees it. Whatever has arrived there
before changes nothing of a call, and neither does the way in which its bodies
are read, so what a call sends and what it leaves of the replies are functions
of the configured URL and of the replies that are there. A call is made as soon
as a request for it is accepted, and by nothing else, so what arrives in a run
is told by the number of the requests that were accepted, whatever stood in
them.
-/

import LatencyService.Config.Validation
import LatencyService.Proofs.Relays
import LatencyService.Proofs.Spans
import LatencyService.Proofs.Target
import Mathlib.Data.List.TakeWhile

namespace LatencyService

/-! ### What has arrived before -/

namespace Backend

/-- What has arrived, in its order. -/
def arrived (backend : Backend) : List Transmission := backend.received.reverse

/-- The backend where something has arrived before everything else, and whose bodies a library
reads. -/
def behind (backend : Backend) (earlier : List Transmission) (charsets : Charsets) : Backend :=
  { backend with received := backend.received ++ earlier, charsets }

theorem replies_behind (backend : Backend) (earlier : List Transmission) (charsets : Charsets) :
    (backend.behind earlier charsets).replies = backend.replies := rfl

theorem arrived_behind (backend : Backend) (earlier : List Transmission) (charsets : Charsets) :
    (backend.behind earlier charsets).arrived = earlier.reverse ++ backend.arrived :=
  List.reverse_append

end Backend

namespace Call

/-- A call goes as it does, whatever has arrived before and whatever reads the bodies. -/
theorem run_behind (backend : Backend) (earlier : List Transmission) (charsets : Charsets)
    (call : Call) (redirects : Nat) :
    call.run (backend.behind earlier charsets) redirects =
      ((call.run backend redirects).1,
        (call.run backend redirects).2.behind earlier charsets) := by
  induction redirects generalizing backend call with
  | zero => rfl
  | succ redirects inductionHypothesis =>
    have accepts : (backend.behind earlier charsets).accepts call.url =
        backend.accepts call.url := rfl
    have next : (backend.behind earlier charsets).nextReply = backend.nextReply := rfl
    have after : (backend.behind earlier charsets).afterConnection call.transmission =
        (backend.afterConnection call.transmission).behind earlier charsets := rfl
    rw [run, run, accepts, next, after]
    split
    · rfl
    · split
      · rfl
      · dsimp only
        split
        · rfl
        · rfl
        · split
          · exact inductionHypothesis _ _
          · split <;> rfl

/-- A call changes neither where the service listens nor what reads its bodies. -/
theorem frame_run (backend : Backend) (call : Call) (redirects : Nat) :
    (call.run backend redirects).2.address = backend.address ∧
      (call.run backend redirects).2.charsets = backend.charsets :=
  run_induction (fun left => left.address = backend.address ∧ left.charsets = backend.charsets)
    (fun _ _ same => same) ⟨rfl, rfl⟩ call redirects

/-- A call makes at most one connection, and one more for each redirect. -/
theorem length_received_run (backend : Backend) (call : Call) (redirects : Nat) :
    (call.run backend redirects).2.received.length ≤ backend.received.length + redirects := by
  induction redirects generalizing backend call with
  | zero => exact Nat.le_refl _
  | succ redirects inductionHypothesis =>
    have once : (backend.afterConnection call.transmission).received.length =
        backend.received.length + 1 := List.length_cons
    rcases run_cases backend call redirects with ⟨-, _, same⟩ | ⟨-, _, same, -⟩ |
      ⟨-, status, -, -, -, url, -, -, same⟩
    · rw [same]
      exact Nat.le_add_right _ _
    · rw [same]
      dsimp only
      omega
    · have again := inductionHypothesis (backend.afterConnection call.transmission)
        (redirected call status url)
      rw [same]
      omega

/-- The request of a call arrives before all that its redirects ask for. -/
theorem run_first {backend : Backend} {call : Call} (reaches : call.Reaches backend)
    (redirects : Nat) :
    ∃ later, (call.run backend (redirects + 1)).2.received =
      later ++ call.transmission :: backend.received := by
  have once : ∃ later, (backend.afterConnection call.transmission).received =
      later ++ call.transmission :: backend.received := ⟨[], rfl⟩
  rcases run_cases backend call redirects with ⟨stays, -⟩ | ⟨-, _, same, -⟩ |
    ⟨-, status, -, -, -, url, -, -, same⟩
  · exact absurd reaches stays
  · rwa [same]
  · rw [same]
    refine run_induction (fun left => ∃ later, left.received =
      later ++ call.transmission :: backend.received) (fun _ next arrives => ?_) once _ redirects
    obtain ⟨later, arrives⟩ := arrives
    exact ⟨next.transmission :: later, congrArg (next.transmission :: ·) arrives⟩

/-- Nothing happens where the URL cannot be called or leads elsewhere. -/
theorem run_of_not_reaches {backend : Backend} {call : Call} (stays : ¬call.Reaches backend)
    (redirects : Nat) : (call.run backend (redirects + 1)).2 = backend := by
  rcases run_cases backend call redirects with ⟨-, _, same⟩ | ⟨reaches, -⟩ | ⟨reaches, -⟩
  · rw [same]
  · exact absurd reaches stays
  · exact absurd reaches stays

end Call

/-! ### Replies that are no redirects -/

/-- The reply sends the call elsewhere, or tries to. -/
def BackendReply.isRedirect : BackendReply → Bool
  | response status headers _ _ =>
    Call.isRedirect status && (Http.header? headers "location").isSome
  | _ => false

namespace Call

/-- Only a redirect names a place to go to. -/
theorem location?_eq_none {status : Nat} {headers : List (String × Octets)} {body : Octets}
    {isCutOff : Bool}
    (direct : (BackendReply.response status headers body isCutOff).isRedirect = false)
    (call : Call) : location? call status headers = none := by
  rw [BackendReply.isRedirect, Bool.and_eq_false_iff, Option.isSome_eq_false_iff,
    Option.isNone_iff_eq_none] at direct
  rw [location?]
  rcases direct with status | bare
  · rw [status]
    rfl
  · rw [bare]
    cases isRedirect status <;> rfl

/-- Where the reply is no redirect there is one connection, and whatever comes of it there is no
second one. -/
theorem run_direct {backend : Backend} {call : Call} (reaches : call.Reaches backend)
    (direct : backend.nextReply.isRedirect = false) (redirects : Nat) :
    (call.run backend (redirects + 1)).2 = backend.afterConnection call.transmission := by
  rcases run_cases backend call redirects with ⟨stays, -⟩ | ⟨-, _, same, -⟩ |
    ⟨-, status, headers, body, isCutOff, url, next, sent, -⟩
  · exact absurd reaches stays
  · rw [same]
  · rw [next] at direct
    rw [location?_eq_none direct] at sent
    cases sent

end Call

namespace Relay

/-! ### Transcripts -/

/-- The backend that a relayed call to a URL leaves. -/
def leaves (url : String) (backend : Backend) : Backend := (run { url } backend).2

/-- What a relayed call to a URL sends to a service, in its order. The service is given by its
address and by what is left of its replies. -/
def transcript (url : String) (address : Option (Host × Nat)) (replies : List BackendReply) :
    List Transmission :=
  (leaves url { address, replies }).arrived

/-- What the call leaves of the replies. -/
def repliesLeft (url : String) (address : Option (Host × Nat)) (replies : List BackendReply) :
    List BackendReply :=
  (leaves url { address, replies }).replies

/-- The backend that so many relayed calls to a URL leave, one after the other. -/
def calls (url : String) : Nat → Backend → Backend
  | 0, backend => backend
  | count + 1, backend => calls url count (leaves url backend)

/-- What each of so many relayed calls sends. -/
def transcripts (url : String) (address : Option (Host × Nat)) :
    Nat → List BackendReply → List (List Transmission)
  | 0, _ => []
  | count + 1, replies =>
    transcript url address replies ::
      transcripts url address count (repliesLeft url address replies)

/-- Nothing of the settings counts but the URL. -/
theorem run_snd (settings : OutboundSettings) (backend : Backend) :
    (run settings backend).2 = leaves settings.url backend := by
  have same : target settings = target { url := settings.url } := rfl
  rw [leaves, run, run, same]

theorem leaves_of_ok {url : String} {target : Url} (read : Call.urlOf (Blank.trim url) = .ok target)
    (backend : Backend) :
    leaves url backend = ((Call.post target).run backend (Call.redirectLimit + 1)).2 := by
  have same : Call.urlOf (Relay.target { url }) = .ok target := read
  rw [leaves, run, same]
  dsimp only
  generalize Call.run backend _ _ = result
  obtain ⟨result, left⟩ := result
  cases result <;> rfl

theorem leaves_of_error {url : String} {failure : CallFailure}
    (unread : Call.urlOf (Blank.trim url) = .error failure) (backend : Backend) :
    leaves url backend = backend := by
  have same : Call.urlOf (Relay.target { url }) = .error failure := unread
  rw [leaves, run, same]

/-- A call goes as it does, whatever has arrived before and whatever reads the bodies. -/
theorem leaves_behind (url : String) (backend : Backend) (earlier : List Transmission)
    (charsets : Charsets) :
    leaves url (backend.behind earlier charsets) =
      (leaves url backend).behind earlier charsets := by
  cases read : Call.urlOf (Blank.trim url) with
  | error failure => rw [leaves_of_error read, leaves_of_error read]
  | ok target => rw [leaves_of_ok read, leaves_of_ok read, Call.run_behind]

/-- What is left of a backend is what is left of one where nothing has arrived, and then what
had. -/
theorem leaves_eq (url : String) (backend : Backend) :
    leaves url backend =
      (leaves url { address := backend.address, replies := backend.replies }).behind
        backend.received backend.charsets :=
  leaves_behind url { address := backend.address, replies := backend.replies } backend.received
    backend.charsets

theorem frame_leaves (url : String) (backend : Backend) :
    (leaves url backend).address = backend.address ∧
      (leaves url backend).charsets = backend.charsets := by
  cases read : Call.urlOf (Blank.trim url) with
  | error failure =>
    rw [leaves_of_error read]
    exact ⟨rfl, rfl⟩
  | ok target =>
    rw [leaves_of_ok read]
    exact Call.frame_run backend _ _

theorem replies_leaves (url : String) (backend : Backend) :
    (leaves url backend).replies = repliesLeft url backend.address backend.replies := by
  rw [leaves_eq, Backend.replies_behind, repliesLeft]

theorem arrived_leaves (url : String) (backend : Backend) :
    (leaves url backend).arrived =
      backend.arrived ++ transcript url backend.address backend.replies := by
  rw [leaves_eq, Backend.arrived_behind, transcript, Backend.arrived, Backend.arrived]

/-- What arrives are the transcripts of the calls. -/
theorem arrived_calls (url : String) (count : Nat) (backend : Backend) :
    (calls url count backend).arrived =
      backend.arrived ++ (transcripts url backend.address count backend.replies).flatten := by
  induction count generalizing backend with
  | zero => exact (List.append_nil _).symm
  | succ count inductionHypothesis =>
    rw [calls, inductionHypothesis, arrived_leaves, replies_leaves, (frame_leaves url backend).1,
      transcripts, List.flatten_cons, List.append_assoc]

theorem charsets_calls (url : String) (count : Nat) (backend : Backend) :
    (calls url count backend).charsets = backend.charsets := by
  induction count generalizing backend with
  | zero => rfl
  | succ count inductionHypothesis => rw [calls, inductionHypothesis, (frame_leaves url backend).2]

theorem calls_of_error {url : String} {failure : CallFailure}
    (unread : Call.urlOf (Blank.trim url) = .error failure) (count : Nat) (backend : Backend) :
    calls url count backend = backend := by
  induction count with
  | zero => rfl
  | succ count inductionHypothesis => rw [calls, leaves_of_error unread, inductionHypothesis]

theorem calls_add (url : String) (first second : Nat) (backend : Backend) :
    calls url (first + second) backend = calls url second (calls url first backend) := by
  induction first generalizing backend with
  | zero => rw [Nat.zero_add, calls]
  | succ first inductionHypothesis => rw [Nat.succ_add, calls, inductionHypothesis, calls]

end Relay

/-! ### What is sent -/

namespace Call

/-- Only the user and the password are not called. -/
theorem exists_bare (url : Url) : ∃ user password, bare url = { url with user, password } := by
  unfold bare
  split
  · exact ⟨_, _, rfl⟩
  · exact ⟨url.user, url.password, rfl⟩

theorem isCallable_of_urlOf {text : String} {target : Url} (read : urlOf text = .ok target) :
    isCallable (bare target) = true := by
  rw [urlOf] at read
  split at read
  · cases read
  · split at read
    · rename_i callable
      cases read
      exact callable
    · cases read

/-- A call to a URL of HTTP gets to a service if the URL leads there. -/
theorem post_reaches_iff {text : String} {target : Url} (read : urlOf text = .ok target)
    (backend : Backend) :
    (post target).Reaches backend ↔
      target.scheme = "http" ∧ backend.address = Backend.addressOf target := by
  obtain ⟨user, password, bared⟩ := exists_bare target
  have callable := isCallable_of_urlOf read
  have hosted : target.host.isSome = true := by
    rw [isCallable, bared, Bool.and_eq_true, Bool.and_eq_true] at callable
    exact Option.isSome_of_any callable.1.2
  have accepts : backend.accepts (post target).url =
      (target.scheme == "http" && backend.address.isSome &&
        backend.address == Backend.addressOf target) := by
    rw [Backend.accepts, post, bared]
    rfl
  rw [Reaches, accepts]
  refine ⟨fun reaches => ?_, fun ⟨scheme, leads⟩ => ⟨callable, ?_⟩⟩
  · have both := reaches.2
    rw [Bool.and_eq_true, Bool.and_eq_true, beq_iff_eq, beq_iff_eq] at both
    exact ⟨both.1.1, both.2⟩
  · obtain ⟨host, named⟩ := Option.isSome_iff_exists.1 hosted
    have known : (Backend.addressOf target).isSome = true := by
      rw [Backend.addressOf, named, scheme]
      cases target.port <;> rfl
    rw [scheme, leads, known, beq_self_eq_true, beq_self_eq_true]
    rfl

end Call

/-- The request is a POST to a URL, with an empty body of which JSON is said to be the type. -/
structure Transmission.IsPostTo (target : Url) (sent : Transmission) : Prop where
  line : sent.line = "POST " ++ Call.requestTarget target ++ " HTTP/1.1"
  host : ("host", Call.hostHeader target) ∈ sent.headers
  contentType : sent.headers.filter (·.1 == "content-type") = [("content-type", "application/json")]
  body : sent.body = []

theorem Call.isPostTo (target : Url) : (post target).transmission.IsPostTo target := by
  obtain ⟨user, password, bared⟩ := exists_bare target
  have url : (post target).url = { target with user, password } := bared
  refine ⟨?_, ?_, ?_, rfl⟩
  · rw [transmission, url]
    rfl
  · rw [transmission, url]
    simp [hostHeader]
  · rw [transmission]
    cases (post target).authorization <;> simp [post]

namespace Relay

/-- A relayed call to a URL gets to the service at an address: the URL can be called, and leads
there. -/
def Reaches (url : String) (address : Option (Host × Nat)) (target : Url) : Prop :=
  Call.urlOf (Blank.trim url) = .ok target ∧ target.scheme = "http" ∧
    address = Backend.addressOf target

/-- What a relayed call to a URL can send. -/
structure Sends (url : String) (address : Option (Host × Nat)) (transcript : List Transmission) :
    Prop where
  /-- Nothing arrives where the URL cannot be called or leads elsewhere. -/
  unreached : (∀ target, ¬Reaches url address target) → transcript = []
  /-- Elsewhere a POST to the URL comes first. -/
  first : ∀ target, Reaches url address target →
    ∃ later, transcript = (Call.post target).transmission :: later
  /-- Nothing that redirects ask for has a body either. -/
  bodies : ∀ sent ∈ transcript, sent.body = []
  length : transcript.length ≤ Call.redirectLimit + 1

theorem transcript_of_ok {url : String} {target : Url}
    (read : Call.urlOf (Blank.trim url) = .ok target) (address : Option (Host × Nat))
    (replies : List BackendReply) :
    transcript url address replies = ((Call.post target).run { address, replies }
      (Call.redirectLimit + 1)).2.received.reverse := by
  rw [transcript, leaves_of_ok read, Backend.arrived]

theorem sends (url : String) (address : Option (Host × Nat)) (replies : List BackendReply) :
    Sends url address (transcript url address replies) := by
  cases read : Call.urlOf (Blank.trim url) with
  | error failure =>
    have nothing : transcript url address replies = [] := by
      rw [transcript, leaves_of_error read]
      rfl
    refine ⟨fun _ => nothing, fun target reaches => ?_, ?_, ?_⟩
    · cases read.symm.trans reaches.1
    · rw [nothing]
      exact List.forall_mem_nil _
    · rw [nothing]
      exact Nat.zero_le _
  | ok target =>
    have reaches_iff := Call.post_reaches_iff read { address, replies }
    rw [transcript_of_ok read]
    refine ⟨fun unreached => ?_, fun other reaches => ?_, fun sent member => ?_, ?_⟩
    · rw [Call.run_of_not_reaches fun reaches => unreached target ⟨read, reaches_iff.1 reaches⟩]
      rfl
    · obtain rfl : target = other := Except.ok.inj (read.symm.trans reaches.1)
      obtain ⟨later, arrives⟩ := Call.run_first (reaches_iff.2 reaches.2) Call.redirectLimit
      refine ⟨later.reverse, ?_⟩
      rw [arrives, List.reverse_append]
      rfl
    · refine Call.run_induction (fun left => ∀ sent ∈ left.received, sent.body = [])
        (fun backend call bare => ?_) (List.forall_mem_nil _) _ _ sent (List.mem_reverse.1 member)
      exact List.forall_mem_cons.2 ⟨rfl, bare⟩
    · have length := Call.length_received_run { address, replies } (Call.post target)
        (Call.redirectLimit + 1)
      have fresh : ({ address, replies } : Backend).received.length = 0 := rfl
      rwa [fresh, Nat.zero_add, ← List.length_reverse] at length

/-- The transcripts of several calls are each like that of one. -/
theorem sends_of_mem {url : String} {address : Option (Host × Nat)} {count : Nat}
    {replies : List BackendReply} {sent : List Transmission}
    (member : sent ∈ transcripts url address count replies) : Sends url address sent := by
  induction count generalizing replies with
  | zero => cases member
  | succ count inductionHypothesis =>
    rw [transcripts, List.mem_cons] at member
    rcases member with same | later
    · rw [same]
      exact sends url address replies
    · exact inductionHypothesis later

/-- Without redirects a call makes one connection. -/
theorem leaves_direct {url : String} {backend : Backend} {target : Url}
    (reaches : Reaches url backend.address target)
    (direct : ∀ reply ∈ backend.replies, reply.isRedirect = false) :
    leaves url backend = backend.afterConnection (Call.post target).transmission := by
  have next : backend.nextReply.isRedirect = false := by
    cases reply : backend.nextReply with
    | response =>
      rw [← reply]
      exact direct _ (Backend.nextReply_mem rfl (by rw [reply]; exact BackendReply.noConfusion))
    | _ => rfl
  rw [leaves_of_ok reaches.1]
  exact Call.run_direct ((Call.post_reaches_iff reaches.1 backend).2 reaches.2) next _

/-- Without redirects as many requests arrive as calls are made, all alike. -/
theorem arrived_calls_direct {url : String} {backend : Backend} {target : Url}
    (reaches : Reaches url backend.address target)
    (direct : ∀ reply ∈ backend.replies, reply.isRedirect = false) (count : Nat) :
    (calls url count backend).arrived =
      backend.arrived ++ List.replicate count (Call.post target).transmission := by
  induction count generalizing backend with
  | zero => exact (List.append_nil _).symm
  | succ count inductionHypothesis =>
    have left := backend.replies_afterConnection (Call.post target).transmission
    have again : Reaches url (backend.afterConnection (Call.post target).transmission).address
        target := reaches
    have arrived : (backend.afterConnection (Call.post target).transmission).arrived =
        backend.arrived ++ [(Call.post target).transmission] := List.reverse_cons
    rw [calls, leaves_direct reaches direct,
      inductionHypothesis again fun reply member => direct reply (left member), arrived,
      List.append_assoc, List.replicate_succ, List.singleton_append]

end Relay

/-! ### Who asks for calls -/

/-- The request asks for a relayed call, and is accepted. -/
def Http.Request.asksRelay (request : Request) : Bool :=
  request.method == "POST" && request.path == Route.relay.path &&
    (extract PayloadKind.free request).isOk

/-- No other request is dispatched to a relayed call. -/
theorem Http.Dispatch.exists_relay_iff (request : Request) :
    (∃ header, ofRequest request = .relay header) ↔ request.asksRelay = true := by
  rw [Request.asksRelay, Bool.and_eq_true, Bool.and_eq_true, beq_iff_eq, beq_iff_eq]
  constructor
  · rintro ⟨header, relays⟩
    rw [ofRequest] at relays
    split at relays
    · cases relays
    · rename_i route found
      split at relays
      · rename_i allowed
        cases route with
        | relay =>
          refine ⟨⟨?_, Route.ofPath?_eq_some_iff.1 found⟩, ?_⟩
          · exact List.mem_singleton.1 (List.contains_iff_mem.1 allowed)
          · rw [ofRoute] at relays
            split at relays
            · cases relays
            · rename_i accepted
              rw [accepted]
              rfl
        | health => cases relays
        | _ =>
          rw [ofRoute] at relays
          split at relays <;> cases relays
      · cases relays
  · rintro ⟨⟨posted, found⟩, accepted⟩
    rw [ofRequest_of_post posted found Route.noConfusion, ofRoute]
    cases extracted : extract PayloadKind.free request with
    | error problem =>
      rw [extracted] at accepted
      cases accepted
    | ok inbound => exact ⟨inbound.header, rfl⟩

/-- What begins has a relayed call made: it is a request for one that is accepted, and is left some
time. A request without any is given up before its call is made. -/
def Start.relays (settings : Settings) : Start → Bool
  | request asked => settings.timeouts.requestSeconds != some 0 && asked.asksRelay
  | _ => false

/-- How many of all that begins have a relayed call made. -/
def Start.relayCount (settings : Settings) (starts : List Start) : Nat :=
  starts.countP (Start.relays settings)

theorem Start.relayCount_append (settings : Settings) (first second : List Start) :
    relayCount settings (first ++ second) =
      relayCount settings first + relayCount settings second :=
  List.countP_append

/-- What begins makes its call, if it has one made, and nothing else. -/
theorem Service.backendAfter_eq (deployment : Deployment) (service : Service) (start : Start) :
    service.backendAfter deployment start =
      Relay.calls deployment.settings.outbound.url
        (Start.relayCount deployment.settings [start]) service.backend := by
  rw [Start.relayCount, List.countP_singleton]
  cases start with
  | request asked =>
    by_cases impatient : deployment.settings.timeouts.requestSeconds = some 0
    · have spared : Start.relays deployment.settings (.request asked) = false := by
        rw [Start.relays, impatient]
        rfl
      rw [backendAfter, if_pos (deadlineOf_of_impatient impatient), spared]
      rfl
    · have relays : Start.relays deployment.settings (.request asked) = asked.asksRelay := by
        rw [Start.relays, bne_iff_ne.2 impatient, Bool.true_and]
      rw [backendAfter, if_neg (deadlineOf_of_patient impatient), relays]
      cases asks : asked.asksRelay with
      | true =>
        obtain ⟨header, dispatched⟩ := (Http.Dispatch.exists_relay_iff asked).2 asks
        rw [dispatched, if_pos rfl]
        exact Relay.run_snd deployment.settings.outbound service.backend
      | false =>
        rw [if_neg Bool.false_ne_true]
        split
        · rename_i header dispatched
          have asks' := (Http.Dispatch.exists_relay_iff asked).1 ⟨header, dispatched⟩
          exact absurd (asks.symm.trans asks') Bool.false_ne_true
        · rfl
  | _ => rfl

/-! ### Runs -/

namespace Scene

variable {scene : Scene}

/-- In a step a call is made if what begins has one made. -/
theorem Sound.calls_step (sound : scene.Sound) (deployment : Deployment) (action : Action) :
    (scene.step deployment action).2.service.backend =
      Relay.calls deployment.settings.outbound.url
        (Start.relayCount deployment.settings (action.start?.map Prod.snd).toList)
        scene.service.backend := by
  obtain ⟨service, same, changes⟩ := sound.backend_step deployment action
  rw [changes, ← same]
  cases action.start? with
  | none => rfl
  | some named => exact Service.backendAfter_eq deployment service named.2

/-- What a run does to the backend are the calls of the requests that were accepted. -/
theorem Sound.calls_after (sound : scene.Sound) (deployment : Deployment)
    (actions : List Action) :
    (scene.after deployment actions).service.backend =
      Relay.calls deployment.settings.outbound.url
        (Start.relayCount deployment.settings (starts actions)) scene.service.backend := by
  induction actions generalizing scene with
  | nil => rfl
  | cons action rest inductionHypothesis =>
    rw [after_cons, inductionHypothesis (sound.step deployment action), sound.calls_step,
      starts_cons, Start.relayCount_append, Relay.calls_add]

/-- The bodies are read in one way all along. -/
theorem Sound.charsets_after (sound : scene.Sound) (deployment : Deployment)
    (actions : List Action) :
    (scene.after deployment actions).service.backend.charsets = scene.service.backend.charsets := by
  rw [sound.calls_after, Relay.charsets_calls]

end Scene

/-- What requests that are served one after the other do to the backend are the calls of those that
were accepted. -/
theorem Service.Sound.calls_serveAll {service : Service} {held : Nat}
    (sound : service.Sound held) (prompt : service.Prompt) (rests : service.Rests)
    (deployment : Deployment) (requests : List (Bool × Http.Request)) :
    (service.serveAll deployment requests).2.backend =
      Relay.calls deployment.settings.outbound.url
        (Start.relayCount deployment.settings (requests.map fun asked => .request asked.2))
        service.backend := by
  induction requests generalizing service with
  | nil => rfl
  | cons asked rest inductionHypothesis =>
    obtain ⟨triggers, request⟩ := asked
    obtain ⟨shutdown, readied, -, served⟩ :=
      sound.serve_readied prompt rests deployment triggers request
    rw [serveAll_cons, readied]
    dsimp only
    rw [inductionHypothesis served.sound served.prompt served.rests, served.backend,
      backendAfter_eq, ← Relay.calls_add, ← Start.relayCount_append]
    rfl

/-! ### URLs that are too long -/

/-- A text without blanks has none at its ends. -/
theorem Blank.trim_ofList {chars : List Char} (solid : ∀ char ∈ chars, isBlankChar char = false) :
    trim (String.ofList chars) = String.ofList chars := by
  rw [trim, String.toList_ofList, trimChars, Url.dropWhile_of_forall solid,
    Url.dropWhile_of_forall fun char member => solid char (List.mem_reverse.1 member),
    List.reverse_reverse]

namespace Url

/-- A character takes an octet at least. -/
theorem length_le_utf8ByteSize (chars : List Char) :
    chars.length ≤ (String.ofList chars).utf8ByteSize := by
  have size : (String.ofList chars).utf8ByteSize =
      (chars.flatMap String.utf8EncodeChar).length := by
    rw [← Octets.ofText_ofList]
    simp [Octets.ofText, String.utf8ByteSize]
  have positive : ∀ count ∈ chars.map fun char => (String.utf8EncodeChar char).length,
      1 ≤ count := by
    intro count member
    obtain ⟨char, -, rfl⟩ := List.mem_map.1 member
    rw [String.length_utf8EncodeChar]
    exact char.utf8Size_pos
  rw [size, List.length_flatMap]
  exact (List.length_map _).symm.trans_le (List.length_le_sum_of_one_le _ positive)

/-- A URL is no shorter than its query. -/
theorem utf8ByteSize_query_le {url : Url} {query : String} (asks : url.query = some query) :
    query.utf8ByteSize ≤ url.render.utf8ByteSize := by
  rw [render, asks]
  simp only [String.utf8ByteSize_append]
  omega

/-- What stands behind a question mark and in front of no fragment is the query. -/
theorem readTail_query {query : List Char} (stays : ∀ char ∈ query, (char != '#') = true) :
    readTail "http" ('?' :: query) =
      (some (Percent.encode Percent.specialQuerySet query), none) := by
  have special : isSpecial "http" = true := by decide
  simp only [readTail, List.takeWhile_eq_self_iff.2 stays, special, if_true, List.drop_length]

/-- The characters of a URL at the loopback address, with a query of so many letters. -/
def questionChars (letters : Nat) : List Char :=
  "http://".toList ++ "[::1]:8080".toList ++ '/' :: '?' :: List.replicate letters 'q'

theorem parse_question (letters : Nat) :
    parse (String.ofList (questionChars letters)) = .ok
      { scheme := "http"
        host := some (.version6 [0, 0, 0, 0, 0, 0, 0, 1])
        port := some 8080
        path := .segments [""]
        query := some (String.ofList (List.replicate letters 'q')) } := by
  have graphic : ∀ char ∈ '?' :: List.replicate letters 'q', IsGraphic char := by
    intro char member
    rcases List.mem_cons.1 member with rfl | letter
    · decide
    · rw [List.eq_of_mem_replicate letter]
      decide
  have stays : ∀ char ∈ List.replicate letters 'q', (char != '#') = true := by
    intro char member
    rw [List.eq_of_mem_replicate member]
    rfl
  have plain : Percent.encodeChar Percent.specialQuerySet 'q' = ['q'] := by decide
  have written : Percent.encode Percent.specialQuerySet (List.replicate letters 'q') =
      String.ofList (List.replicate letters 'q') := by
    rw [Percent.encode, List.flatMap_replicate, plain, List.flatten_replicate_singleton]
  have read : parse (String.ofList (questionChars letters)) =
      readAuthority "http" ("[::1]:8080".toList ++ '/' :: '?' :: List.replicate letters 'q') :=
    parse_eq_readAuthority (by decide) (forall_mem_of_all (by decide)) graphic
  have located : readAuthority "http"
      ("[::1]:8080".toList ++ '/' :: '?' :: List.replicate letters 'q') =
        .ok (({ scheme := "http", host := some (.version6 [0, 0, 0, 0, 0, 0, 0, 1])
                port := some 8080 } : Url).withPathAndTail
          (.segments [""], '?' :: List.replicate letters 'q')) := rfl
  rw [read, located, withPathAndTail]
  dsimp only
  rw [readTail_query stays, written]

end Url

/-- A URL that is too long cannot be called, whoever is named in it. -/
theorem Call.urlOf_of_long {text query : String} {url : Url} (parsed : Url.parse text = .ok url)
    (asks : url.query = some query) (long : longestUrl < query.utf8ByteSize) :
    urlOf text = .error (.unusableUrl (some (bare url))) := by
  obtain ⟨user, password, bared⟩ := exists_bare url
  have size : query.utf8ByteSize ≤ (bare url).render.utf8ByteSize := by
    rw [bared]
    exact Url.utf8ByteSize_query_le asks
  rw [urlOf, parsed]
  refine if_neg ?_
  rw [isCallable, Bool.and_eq_true, decide_eq_true_eq]
  omega

/-! ### The relay is isolated -/

/-- What arrives at a service that is called depends on who asks for the calls only in so far as
their number does. -/
structure Relay.Isolated (deployment : Deployment) (backend : Backend) : Prop where
  /-- While an accepted request is served, the transcript of the URL and of the replies that are
  left arrives, whatever the request is and whatever was done before. -/
  accepted : ∀ (before : List Action) (name : String) (request : Http.Request),
    deployment.settings.timeouts.requestSeconds ≠ some 0 → request.asksRelay = true →
      let network := ((Scene.start deployment backend).after deployment before).service.backend
      ((Scene.start deployment backend).after deployment
          (before ++ [.request name request])).service.backend.arrived =
        network.arrived ++
          transcript deployment.settings.outbound.url network.address network.replies
  run : ∀ actions : List Action,
    ((Scene.start deployment backend).after deployment actions).service.backend =
      calls deployment.settings.outbound.url
        (Start.relayCount deployment.settings (Scene.starts actions)) backend
  served : ∀ requests : List (Bool × Http.Request),
    ((Service.start deployment backend).serveAll deployment requests).2.backend =
      calls deployment.settings.outbound.url
        (Start.relayCount deployment.settings (requests.map fun asked => .request asked.2)) backend

theorem Relay.isolated (deployment : Deployment) (backend : Backend) :
    Isolated deployment backend := by
  have start := Scene.sound_start deployment backend
  have rests : (Service.start deployment backend).Rests := List.forall_mem_nil _
  refine ⟨fun before name request patient asks => ?_, start.calls_after deployment,
    start.service.calls_serveAll start.prompt rests deployment⟩
  have one : Start.relayCount deployment.settings [.request request] = 1 := by
    rw [Start.relayCount, List.countP_singleton, Start.relays, bne_iff_ne.2 patient, asks]
    rfl
  have step := (start.after deployment before).calls_step deployment (.request name request)
  intro network
  rw [Scene.after_append]
  exact (congrArg Backend.arrived (step.trans (congrArg (calls _ · network) one))).trans
    (arrived_leaves _ network)

/-- The relayed calls are isolated from those who ask for them. What arrives at the service that is
called is the transcript of the configured URL and of the service's own replies for each request
that is accepted, and nothing besides, in any run. In each transcript a POST to the URL comes first,
with JSON as its type and without a body, if the URL can be called and leads to the service; else
nothing arrives. Where no reply is a redirect exactly one request arrives for each that is accepted,
whatever comes of it. -/
theorem relay_isolated :
    (∀ deployment backend, Relay.Isolated deployment backend) ∧
      (∀ url count backend,
        let called := Relay.calls url count backend
        let transcripts := Relay.transcripts url backend.address count backend.replies
        called.arrived = backend.arrived ++ transcripts.flatten ∧
          (∀ transcript ∈ transcripts, Relay.Sends url backend.address transcript) ∧
          ((∀ reply ∈ backend.replies, reply.isRedirect = false) →
            ∀ target, Relay.Reaches url backend.address target →
              called.arrived =
                backend.arrived ++ List.replicate count (Call.post target).transmission)) ∧
      ∀ target, (Call.post target).transmission.IsPostTo target :=
  ⟨Relay.isolated,
    fun url count backend => ⟨Relay.arrived_calls url count backend,
      fun _ member => Relay.sends_of_mem member,
      fun direct _ reaches => Relay.arrived_calls_direct reaches direct count⟩,
    Call.isPostTo⟩

/-- Nothing speaks against settings that leave all as it is but a URL that is one of HTTP. -/
theorem Settings.objections_of_url {url : String} (valid : urlObjections url = []) :
    ({ outbound := { url } } : Settings).objections = [] := by
  rw [objections]
  dsimp only
  rw [valid]
  decide

/-- Two accepted requests that have little in common have the same sent, once each, although the call
of the first breaks off; and what a redirect asks for comes behind the POST. -/
theorem relay_isolated_twice :
    let url := " http://[::1]:8080/in?a=b"
    let deployment : Deployment := ⟨{ outbound := { url } }, fun serial => toString serial⟩
    let asked (target text : String) (headers : List (String × Octets)) : Http.Request :=
      { target, body := Octets.ofText text
        headers := ("content-type", Octets.ofText "application/json") :: headers }
    let first := asked "/httpclient"
      "\x7b\"MWHEADER\":[\"1\",\"A\",\"1\"],\"TRANRQ\":\x7b\x7d\x7d" []
    let second := asked "/httpclient?x=1" "[[\"2\",\"B\",\"2\"],[7]]"
      [("x-request-id", Octets.ofText "mine")]
    let upstream (replies : List BackendReply) : Backend :=
      { address := some (.version6 [0, 0, 0, 0, 0, 0, 0, 1], 8080), replies }
    let breaking := upstream [.broken, .response 200 [] [] false]
    let moving := upstream [.response 307 [("location", Octets.ofText "/next")] [] false, .broken]
    let sent : Transmission :=
      { line := "POST /in?a=b HTTP/1.1"
        headers :=
          [ ("accept", "*/*"), ("content-length", "0"), ("content-type", "application/json"),
            ("host", "[::1]:8080") ]
        body := [] }
    ((Service.start deployment breaking).serveAll deployment
        [(false, first), (false, second)]).2.backend.arrived = [sent, sent] ∧
      ((Scene.start deployment moving).after deployment
          ([] ++ [.request "a" second])).service.backend.arrived.map (·.line) =
        ["POST /in?a=b HTTP/1.1", "POST /next HTTP/1.1"] := by
  intro url deployment asked first second upstream breaking moving sent
  let target : Url :=
    { scheme := "http", host := some (.version6 [0, 0, 0, 0, 0, 0, 0, 1]), port := some 8080
      path := .segments ["in"], query := some "a=b" }
  have reaches : Relay.Reaches url breaking.address target :=
    ⟨Call.urlOf_of_parse (by decide +kernel) (by decide +kernel), rfl, rfl⟩
  have count : Start.relayCount deployment.settings [.request first, .request second] = 2 := by
    decide +kernel
  refine ⟨?_, ?_⟩
  · have arrives := (relay_isolated.2.1 url 2 breaking).2.2 (by decide) target reaches
    rw [← count] at arrives
    rw [(relay_isolated.1 deployment breaking).served]
    refine arrives.trans ?_
    decide +kernel
  · rw [(relay_isolated.1 deployment moving).accepted [] "a" second (by decide)
      (by decide +kernel)]
    decide +kernel

/-- A URL that is too long passes all checks of the settings, and yet no request is sent to it. -/
theorem long_url_unsent :
    let url := String.ofList (Url.questionChars 65536)
    let settings : Settings := { outbound := { url } }
    let deployment : Deployment := ⟨settings, fun _ => "made"⟩
    let upstream : Backend :=
      { address := some (.version6 [0, 0, 0, 0, 0, 0, 0, 1], 8080)
        replies := [.response 200 [] [] false] }
    let asked : Http.Request :=
      { target := "/httpclient"
        headers := [("content-type", Octets.ofText "application/json")]
        body := Octets.ofText
          "\x7b\"MWHEADER\":[\"1\",\"A\",\"1\"],\"TRANRQ\":\x7b\x7d\x7d" }
    settings.objections = [] ∧
      (∃ target, Url.parse url = .ok target ∧ target.scheme = "http" ∧
        upstream.address = Backend.addressOf target) ∧
      (Start.request asked).relays settings = true ∧
      ((Service.start deployment upstream).serveAll deployment
        [(false, asked)]).2.backend.arrived = [] := by
  intro url settings deployment upstream asked
  have parsed := Url.parse_question 65536
  have solid : ∀ char ∈ Url.questionChars 65536, isBlankChar char = false := by
    intro char member
    rcases List.mem_append.1 member with before | behind
    · have all : ∀ char ∈ "http://".toList ++ "[::1]:8080".toList, isBlankChar char = false :=
        Url.forall_mem_of_all (by decide)
      exact all char before
    · rcases List.mem_cons.1 behind with rfl | behind
      · decide
      · rcases List.mem_cons.1 behind with rfl | letter
        · decide
        · rw [List.eq_of_mem_replicate letter]
          decide
  have trimmed : Blank.trim url = url := Blank.trim_ofList solid
  have valid : Settings.urlObjections url = [] := by
    rw [Settings.urlObjections, Settings.checkUrl, trimmed, parsed]
    rfl
  have unsendable := Call.urlOf_of_long parsed rfl
    ((by decide : Call.longestUrl < 65536).trans_le
      ((List.length_replicate).symm.trans_le (Url.length_le_utf8ByteSize _)))
  have relays : (Start.request asked).relays settings = true := by decide +kernel
  have unread := (congrArg Call.urlOf trimmed).trans unsendable
  refine ⟨Settings.objections_of_url valid, ⟨_, parsed, rfl, rfl⟩, relays, ?_⟩
  rw [(Relay.isolated deployment upstream).served, Relay.calls_of_error unread]
  rfl

end LatencyService
