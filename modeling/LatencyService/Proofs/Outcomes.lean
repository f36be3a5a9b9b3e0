/-
What a relayed call brings, and what the request is answered with that asked for
it. A whole response is answered with success, whatever its status is, and its
body comes back as a text; any failure is answered with a problem, even if a
response had begun to come. A call that meets silence is a failure when it is
given up.
-/

import LatencyService.Proofs.Closing
import LatencyService.Proofs.Echo
import LatencyService.Proofs.Isolation
import LatencyService.Proofs.Replacement
import LatencyService.Proofs.Timeout

namespace LatencyService

/-! ### The text of a body -/

namespace Charset

/-- A body that begins with no byte-order mark. -/
def Unmarked (body : Octets) : Prop :=
  ¬[0xEF, 0xBB, 0xBF] <+: body ∧ ¬[0xFF, 0xFE] <+: body ∧ ¬[0xFE, 0xFF] <+: body

/-- A text that does not begin with a byte-order mark has none in its octets. -/
theorem unmarked_ofText {text : String} (other : text.toList.head? ≠ some '\uFEFF') :
    Unmarked (Octets.ofText text) := by
  rw [Octets.ofText_eq_flatMap]
  cases chars : text.toList with
  | nil => exact ⟨by simp, by simp, by simp⟩
  | cons char rest =>
    rw [chars] at other
    rw [List.flatMap_cons]
    rcases Octets.encode_cases char with ⟨octet, encoded, ascii⟩ |
      ⟨octet, tail, low, high, encoded, begins, -, -⟩
    · rw [encoded, Unmarked, List.cons_append]
      simp only [List.cons_prefix_cons]
      refine ⟨?_, ?_, ?_⟩ <;> rintro ⟨rfl, -⟩ <;> simp at ascii
    · have leads := Octets.sequence?_eq_some_iff.1 begins
      unfold Octets.Leads at leads
      have below : octet.toNat < 0xFE := by omega
      rw [encoded, Unmarked, List.cons_append]
      simp only [List.cons_prefix_cons]
      refine ⟨?_, ?_, ?_⟩
      · rintro ⟨rfl, within⟩
        simp only [UInt8.reduceToNat] at leads
        obtain ⟨second, third, rfl⟩ := List.length_eq_two.1 (by omega : tail.length = 2)
        simp only [List.cons_append, List.cons_prefix_cons] at within
        obtain ⟨rfl, rfl, -⟩ := within
        have mark : String.utf8EncodeChar '\uFEFF' = [0xEF, 0xBB, 0xBF] := by decide
        exact other (congrArg some (Octets.utf8EncodeChar_injective (encoded.trans mark.symm)))
      · rintro ⟨rfl, -⟩
        exact absurd below (by decide)
      · rintro ⟨rfl, -⟩
        exact absurd below (by decide)

end Charset

namespace Charsets

/-- The type of a content declares no charset, or none that the library knows, or UTF-8. -/
def DeclaresNoOther (charsets : Charsets) (contentType : Option String) : Prop :=
  ∀ label ∈ contentType.bind charsets.declared?, ∀ charset ∈ charsets.named? label, charset = .utf8

/-- A text is what a body reads as, whose content is declared to be of a type. -/
structure Reads (charsets : Charsets) (contentType : Option String) (body : Octets)
    (text : String) : Prop where
  plain : charsets.DeclaresNoOther contentType → Charset.Unmarked body →
    Octets.Decodes body text.toList
  /-- A byte-order mark counts for more than what is declared, and is no part of the text. -/
  marked : ∀ rest, body = [0xEF, 0xBB, 0xBF] ++ rest → Octets.Decodes rest text.toList
  markedOther : ∀ rest,
    (body = [0xFF, 0xFE] ++ rest → text = charsets.readOther (.utf16 false) rest) ∧
      (body = [0xFE, 0xFF] ++ rest → text = charsets.readOther (.utf16 true) rest)
  declaredOther : ∀ label ∈ contentType.bind charsets.declared?,
    ∀ charset ∈ charsets.named? label, charset ≠ .utf8 → Charset.Unmarked body →
      text = charsets.readOther charset body

variable {charsets : Charsets} {contentType : Option String} {body : Octets}

/-- Where no other charset is declared, the one that counts is UTF-8. -/
theorem charsetOf_eq_utf8 (plain : charsets.DeclaresNoOther contentType) :
    charsets.charsetOf contentType = .utf8 := by
  unfold charsetOf
  cases declared : contentType.bind charsets.declared? with
  | none => exact congrArg (Option.getD · _) charsets.named?_default
  | some label =>
    dsimp only [Option.getD_some]
    cases named : charsets.named? label with
    | none => rfl
    | some charset => exact plain label declared charset named

/-- Without a byte-order mark the charset that is declared counts. -/
theorem textOf_unmarked (unmarked : Charset.Unmarked body) :
    charsets.textOf contentType body = charsets.read (charsets.charsetOf contentType) body := by
  obtain ⟨none, noneLittle, noneBig⟩ := unmarked
  unfold textOf
  split
  · rename_i rest
    exact absurd ⟨rest, rfl⟩ none
  · rename_i rest
    exact absurd ⟨rest, rfl⟩ noneLittle
  · rename_i rest
    exact absurd ⟨rest, rfl⟩ noneBig
  · rfl

theorem reads_textOf (charsets : Charsets) (contentType : Option String) (body : Octets) :
    charsets.Reads contentType body (charsets.textOf contentType body) where
  plain plain unmarked := by
    rw [textOf_unmarked unmarked, charsetOf_eq_utf8 plain]
    exact Octets.decodes_toTextLossy body
  marked := by
    rintro rest rfl
    exact Octets.decodes_toTextLossy rest
  markedOther rest := by
    constructor <;> rintro rfl <;> rfl
  declaredOther := by
    intro label declared charset named other unmarked
    have counts : charsets.charsetOf contentType = charset := by
      rw [charsetOf, Option.mem_def.1 declared, Option.getD_some, Option.mem_def.1 named,
        Option.getD_some]
    rw [textOf_unmarked unmarked, counts]
    cases charset with
    | utf8 => exact absurd rfl other
    | utf16 _ | other _ => rfl

/-- The text that a body spells comes back, if it does not begin with a byte-order mark. -/
theorem textOf_ofText {spelt : String} (plain : charsets.DeclaresNoOther contentType)
    (unmarked : spelt.toList.head? ≠ some '\uFEFF') :
    charsets.textOf contentType (Octets.ofText spelt) = spelt := by
  rw [textOf_unmarked (Charset.unmarked_ofText unmarked), charsetOf_eq_utf8 plain]
  exact Octets.toTextLossy_ofText spelt

end Charsets

/-! ### What the client brings -/

/-- What the client makes of the relayed call in a network. -/
def Relay.resultIn (settings : OutboundSettings) (network : Backend) : CallResult :=
  match Call.urlOf (target settings) with
  | .error failure => .failed failure
  | .ok url => ((Call.post url).run network (Call.redirectLimit + 1)).1

namespace CallResult

/-- No response comes to the call, and it does not fail by itself. -/
def isHanging : CallResult → Bool
  | hanging _ => true
  | _ => false

/-- A response tells what a call brought, where bodies are read in some way. -/
inductive Tells (charsets : Charsets) : CallResult → Http.Response → Prop where
  /-- The text of a whole body, and nothing besides, whatever the status of the call. -/
  | success {url : Url} {status : Nat} {headers : List (String × Octets)} {body : Octets}
      {answer : Http.Response} {tree : Tree} (succeeds : answer.status = 200)
      (parsed : Json.parse answer.body = .ok tree)
      (reported : tree.get? "TRANRS" =
        some (.table [("data", .text (Relay.textOf charsets headers body))])) :
      Tells charsets (.response url status headers body) answer
  /-- A problem without any data. A call that hangs has failed when it is given up. -/
  | problem {result : CallResult} {answer : Http.Response} {tree : Tree}
      (fails : ∀ url status headers body, result ≠ .response url status headers body)
      (refuses : answer.status = 502) (parsed : Json.parse answer.body = .ok tree)
      (code : tree.get? "error" = some (.text "outbound_call_failed"))
      (unreported : tree.get? "TRANRS" = none) :
      Tells charsets result answer

/-- What the relay makes of the result of its call. -/
def outcome (charsets : Charsets) : CallResult → Relay.Outcome
  | response _ status headers body => .relayed ⟨status, Relay.textOf charsets headers body⟩
  | failed failure => .failed failure
  | hanging url => .pending url

end CallResult

theorem Relay.run_fst (settings : OutboundSettings) (network : Backend) :
    (run settings network).1 = (resultIn settings network).outcome network.charsets := by
  unfold run resultIn
  cases Call.urlOf (target settings) with
  | error failure => rfl
  | ok url =>
    dsimp only
    generalize (Call.post url).run network (Call.redirectLimit + 1) = result
    obtain ⟨result, left⟩ := result
    cases result <;> rfl

/-- A response that a call brings is whole, and is one of those that the network has. -/
theorem Relay.mem_of_resultIn {settings : OutboundSettings} {network : Backend} {url : Url}
    {status : Nat} {headers : List (String × Octets)} {body : Octets}
    (brings : resultIn settings network = .response url status headers body) :
    .response status headers body false ∈ network.replies := by
  unfold resultIn at brings
  split at brings
  · cases brings
  · exact Call.response_run brings

/-- The answer to a relayed call that has failed, to whoever wants to see more than its head. -/
theorem CallResult.tells_problem (charsets : Charsets) {result : CallResult}
    (fails : ∀ url status headers body, result ≠ .response url status headers body)
    (settings : OutboundSettings) (failure : CallFailure) (identifier : Octets) :
    result.Tells charsets
      (Service.sealResponse false identifier (Relay.problemOf settings failure).response) := by
  obtain ⟨entries, writes, code, -, unreported⟩ :=
    (Relay.problemOf settings failure).document_writes
  have parsed := writes.parse (by decide)
  exact @Tells.problem _ _ _ (.table entries) fails rfl parsed code unreported

/-- The answer to a relayed call that has brought a response. -/
theorem CallResult.tells_reply (charsets : Charsets) (header : Header) (url : Url) (status : Nat)
    (headers : List (String × Octets)) (body : Octets) (identifier : Octets) :
    (response url status headers body).Tells charsets
      (Service.sealResponse false identifier
        (.json 200 (Reply.full header (.ofData (Relay.textOf charsets headers body))).render)) := by
  have parsed := (Reply.full header
    (.ofData (Relay.textOf charsets headers body))).render_writes_entries.parse (by decide)
  exact @Tells.success _ _ _ _ _ _ (.table _) rfl parsed rfl

/-! ### What a call is born as -/

namespace Service

variable {deployment : Deployment} {service : Service} {exchange : Exchange} {header : Header}

/-- A call whose result is there at once is answered at once, and one that hangs waits until it is
given up. -/
theorem relayBirth_cases (deployment : Deployment) (service : Service) {exchange : Exchange}
    (shown : exchange.isHead = false) (header : Header) :
    let result := Relay.resultIn deployment.settings.outbound service.backend
    (result.isHanging = false ∧ ∃ answer,
      service.relayBirth deployment exchange header = .atOnce (.answered answer) ∧
        result.Tells service.backend.charsets answer) ∨
    ∃ url task, result = .hanging url ∧
      service.relayBirth deployment exchange header = .begins task ∧
      task.purpose = .relay exchange header ∧
      task.stage = .relaying url (deployment.settings.outbound.timeoutSeconds.map
        fun seconds => service.now + 1000 * seconds.toNat) := by
  have sealed (response : Http.Response) : exchange.answer response =
      .answered (sealResponse false exchange.identifier response) := by
    rw [Exchange.answer, shown]
  unfold relayBirth
  dsimp only
  rw [Relay.run_fst]
  cases Relay.resultIn deployment.settings.outbound service.backend with
  | response last status headers body =>
    exact .inl ⟨rfl, _, congrArg Birth.atOnce (sealed _),
      CallResult.tells_reply _ header last status headers body exchange.identifier⟩
  | failed failure =>
    exact .inl ⟨rfl, _, congrArg Birth.atOnce (sealed _),
      CallResult.tells_problem _ (fun _ _ _ _ => CallResult.noConfusion)
        deployment.settings.outbound failure exchange.identifier⟩
  | hanging last => exact .inr ⟨last, _, rfl, rfl, rfl, rfl⟩

/-- A request for a relayed call is born as one, unless no time at all is left for it. -/
theorem birth_of_asksRelay (patient : deployment.settings.timeouts.requestSeconds ≠ some 0)
    {request : Http.Request} (asks : request.asksRelay = true) :
    ∃ header, (service.exchangeOf deployment request .relay).isHead = false ∧
      service.birth deployment (.request request) =
        service.relayBirth deployment (service.exchangeOf deployment request .relay) header := by
  obtain ⟨header, dispatched⟩ := (Http.Dispatch.exists_relay_iff request).2 asks
  rw [Http.Request.asksRelay, Bool.and_eq_true, Bool.and_eq_true, beq_iff_eq] at asks
  refine ⟨header, ?_, ?_⟩
  · rw [exchangeOf, asks.1.1]
    exact (by decide : ("POST" == "HEAD") = false)
  · rw [birth_of_patient patient, orderBirth, dispatched]

/-- A request for which no time at all is left is given up. -/
theorem birth_of_impatient (impatient : deployment.settings.timeouts.requestSeconds = some 0)
    (request : Http.Request) :
    ∃ route, service.birth deployment (.request request) =
      .atOnce ((service.exchangeOf deployment request route).answer timedOut) :=
  ⟨.health, if_pos (deadlineOf_of_impatient impatient)⟩

end Service

/-! ### Calls that hang -/

namespace Task

variable {task : Task} {url : Url} {giveUp : Option Nat} {exchange : Exchange} {header : Header}

/-- A task that waits for a response goes on waiting until somebody cancels it, the time of the
request is over or the call is given up. -/
theorem fate_of_relaying (relays : task.purpose = .relay exchange header)
    (waits : task.stage = .relaying url giveUp) (deployment : Deployment) (now : Nat)
    (happening : Happening) :
    task.fate deployment now happening ∈
      [ .waits, .ends none, .ends (some (exchange.answer Service.timedOut)),
        .ends (some (exchange.answer
          (Relay.problemOf deployment.settings.outbound (.unanswered url)).response)) ] := by
  cases happening with
  | settle => simp [fate, settleFate, waits]
  | move later =>
    rw [fate, dueFate]
    split
    · rw [attendFate, relays]
      dsimp only [Purpose.exchange?]
      split
      · simp
      · simp [wakeFate, relays, waits]
    · simp
  | trigger => simp [fate, holds, waits, Stage.receiver?]
  | cancel serial =>
    rw [fate]
    split <;> simp

/-- A task that waits for a response is the same for as long as it waits. -/
theorem same_of_rest (relays : task.purpose = .relay exchange header)
    (waits : task.stage = .relaying url giveUp) {deployment : Deployment} (old : Task) (now : Nat)
    (happening : Happening) (left : Task) (same : old = task)
    (rest : (old.fate deployment now happening).rest old = some left) : left = task := by
  subst same
  have fate := fate_of_relaying relays waits deployment now happening
  simp only [List.mem_cons, List.not_mem_nil, or_false] at fate
  rcases fate with same | same | same | same <;> rw [same] at rest <;> cases rest
  rfl

/-- What is left of a task that waits for a response is the task as it was. -/
theorem follow_of_relaying (relays : task.purpose = .relay exchange header)
    (waits : task.stage = .relaying url giveUp) {deployment : Deployment} {now : Nat}
    {happenings : List Happening} {left : Task}
    (there : ((⟨now, some task⟩ : Course).follow deployment happenings).task? = some left) :
    left = task :=
  Course.keeps_follow (same_of_rest relays waits)
    (fun _ there => (Option.some.inj there).symm) happenings left there

/-- All that is told of a task that waits for a response is that its time is over. -/
theorem ending_of_relaying (relays : task.purpose = .relay exchange header)
    (waits : task.stage = .relaying url giveUp) {deployment : Deployment} {now : Nat}
    {happenings : List Happening} {completion : Completion}
    (member : completion ∈ (⟨now, some task⟩ : Course).told deployment happenings) :
    completion.ending = exchange.answer Service.timedOut ∨
      completion.ending = exchange.answer
        (Relay.problemOf deployment.settings.outbound (.unanswered url)).response := by
  obtain ⟨other, now, happening, rfl, ends⟩ := Course.exists_fate_of_told
    (same_of_rest relays waits)
    (fun other there => (Option.some.inj there).symm) member
  have fate := fate_of_relaying relays waits deployment now happening
  rw [ends] at fate
  simpa using fate

end Task

namespace Scene

variable {scene : Scene} {deployment : Deployment} {name : String} {request : Http.Request}

/-- Whatever is told of a request for a relayed call tells what the call brought, or the time of the
request is over. -/
theorem Sound.tells_of_relay (sound : scene.Sound) (asks : request.asksRelay = true)
    (later : List Action) :
    let result := Relay.resultIn deployment.settings.outbound scene.service.backend
    ∀ completion ∈ scene.record deployment (.request name request :: later) scene.service.begun,
      ∃ response, completion.ending = .answered response ∧
        (result.Tells scene.service.backend.charsets response ∨
          response.status = Http.timeoutStatus ∧
            ∃ seconds ∈ deployment.settings.timeouts.requestSeconds,
              scene.service.now + 1000 * seconds.toNat ≤ completion.time) := by
  intro result completion member
  obtain ⟨route, punctual⟩ := sound.punctual deployment rfl later completion member
  obtain ⟨response, answered, status, late⟩ := punctual.exists_response
  refine ⟨response, answered, ?_⟩
  -- Whatever has the answer of the timeout has ended too late.
  have given (same : response.status = Http.timeoutStatus) :
      result.Tells scene.service.backend.charsets response ∨
        response.status = Http.timeoutStatus ∧
          ∃ seconds ∈ deployment.settings.timeouts.requestSeconds,
            scene.service.now + 1000 * seconds.toNat ≤ completion.time := by
    obtain ⟨deadline, there, reached⟩ := late.1 (status.1 same)
    obtain ⟨seconds, configured, rfl⟩ := Option.map_eq_some_iff.1 there
    exact .inr ⟨same, seconds, configured, reached⟩
  by_cases patient : deployment.settings.timeouts.requestSeconds = some 0
  · obtain ⟨route, born⟩ := Service.birth_of_impatient patient request
    rw [(sound.ends_at_once deployment rfl born later).1, List.mem_singleton] at member
    rw [member] at answered
    cases answered
    exact given (Service.status_sealResponse _ _ _)
  · obtain ⟨header, shown, birth⟩ := Service.birth_of_asksRelay patient asks
    rcases Service.relayBirth_cases deployment scene.service shown header with
      ⟨-, answer, born, tells⟩ | ⟨url, task, hangs, born, relays, waits⟩
    · rw [(sound.ends_at_once deployment rfl (birth.trans born) later).1,
        List.mem_singleton] at member
      rw [member] at answered
      cases answered
      exact .inl tells
    · rw [(sound.begins deployment rfl (birth.trans born) later).1] at member
      have fails (url : Url) (status : Nat) (headers : List (String × Octets)) (body : Octets) :
          result ≠ .response url status headers body :=
        hangs.trans_ne CallResult.noConfusion
      rcases Task.ending_of_relaying relays waits member with same | same
      · have timeout := Ending.answered.inj (answered.symm.trans same)
        exact given (timeout ▸ Service.status_sealResponse _ _ _)
      · have problem := Ending.answered.inj (answered.symm.trans same)
        have tells := CallResult.tells_problem scene.service.backend.charsets fails
          deployment.settings.outbound (.unanswered url)
          (scene.service.exchangeOf deployment request .relay).identifier
        rw [← shown] at tells
        exact .inl (problem ▸ tells)

/-- A request for a relayed call whose call is given up has been answered by then, unless somebody
cancelled it. -/
theorem Sound.answered_of_relay (sound : scene.Sound) (asks : request.asksRelay = true)
    (later : List Action) {seconds : UInt64}
    (configured : seconds ∈ deployment.settings.outbound.timeoutSeconds)
    (reached : scene.service.now + 1000 * seconds.toNat ≤
      (scene.after deployment (.request name request :: later)).service.now)
    (spared : .cancel scene.service.begun ∉
      scene.timeline deployment (.request name request) later) :
    ∃ completion,
      scene.record deployment (.request name request :: later) scene.service.begun =
        [completion] := by
  have after := sound.after deployment (.request name request :: later)
  by_cases patient : deployment.settings.timeouts.requestSeconds = some 0
  · obtain ⟨route, born⟩ := Service.birth_of_impatient patient request
    exact ⟨_, (sound.ends_at_once deployment rfl born later).1⟩
  obtain ⟨header, shown, birth⟩ := Service.birth_of_asksRelay patient asks
  rcases Service.relayBirth_cases deployment scene.service shown header with
    ⟨-, answer, born, -⟩ | ⟨url, task, -, born, relays, waits⟩
  · exact ⟨_, (sound.ends_at_once deployment rfl (birth.trans born) later).1⟩
  · have new := Service.newborn_of_birth (birth.trans born)
    have starts : (Action.request name request).start? = some (name, .request request) := rfl
    obtain ⟨record, course⟩ := sound.begins deployment starts (birth.trans born) later
    rw [record]
    rw [← new.next] at spared
    rcases Course.told_once new.fits spared with ⟨left, there, -⟩ | ⟨-, once⟩
    · -- What is left of the task is due, and nothing that is due is left.
      have same := Task.follow_of_relaying relays waits there
      rw [← course, same] at there
      have due := after.prompt task (Service.mem_of_task? there)
      have early := (Task.isDueAt_eq_false_iff.1 due).1 (scene.service.now + 1000 * seconds.toNat)
        (by rw [waits, configured]; rfl)
      exact absurd reached (Nat.not_le_of_lt early)
    · exact once

/-- How a relayed call comes out is what its request is answered with, whatever else is done to the
service. Whatever is told of the request tells what the call brought, unless the time of the request
is over; it is told at once if the call does not hang, and once at the latest when the call is given
up. What the call brought is a whole body that was among the replies. Whatever library reads it, a
body that is declared to be nothing else, and has no byte-order mark, comes back as the text that it
spells in UTF-8, character for character, with replacement characters where it spells none. -/
theorem relay_result_mapped (deployment : Deployment) (backend : Backend)
    (before later : List Action) (name : String) (request : Http.Request) :
    let first := start deployment backend
    let scene := first.after deployment before
    let own := scene.service.begun
    let settings := deployment.settings
    let charsets := backend.charsets
    let result := Relay.resultIn settings.outbound scene.service.backend
    let run := before ++ .request name request :: later
    let record := first.record deployment run own
    request.asksRelay = true →
      (∀ completion ∈ record, ∃ response, completion.ending = .answered response ∧
        (result.Tells charsets response ∨ response.status = Http.timeoutStatus ∧
          ∃ seconds ∈ settings.timeouts.requestSeconds,
            scene.service.now + 1000 * seconds.toNat ≤ completion.time)) ∧
      (settings.timeouts.requestSeconds ≠ some 0 → result.isHanging = false →
        ∃ response, record = [⟨own, scene.service.now, .answered response⟩] ∧
          result.Tells charsets response) ∧
      (∀ seconds ∈ settings.outbound.timeoutSeconds,
        scene.service.now + 1000 * seconds.toNat ≤ (first.after deployment run).service.now →
        .cancel own ∉ scene.timeline deployment (.request name request) later →
          ∃ completion, record = [completion]) ∧
      ∀ url status headers body, result = .response url status headers body →
        let contentType := (Http.header? headers "content-type").bind Http.visible?
        let text := Relay.textOf charsets headers body
        .response status headers body false ∈ scene.service.backend.replies ∧
          charsets.Reads contentType body text ∧
          (charsets.DeclaresNoOther contentType → ∀ spelt, body = Octets.ofText spelt →
            spelt.toList.head? ≠ some '\uFEFF' → text = spelt) := by
  intro first scene own settings charsets result run record asks
  have sound := (sound_start deployment backend).after deployment before
  have read : scene.service.backend.charsets = charsets :=
    (sound_start deployment backend).charsets_after deployment before
  have told : record = scene.record deployment (.request name request :: later) own :=
    (sound_start deployment backend).record_from deployment before _
  have whole : first.after deployment run =
      scene.after deployment (.request name request :: later) := after_append before _
  refine ⟨fun completion member => ?_, fun patient responds => ?_,
    fun seconds configured reached spared => ?_, fun url status headers body same => ⟨?_, ?_, ?_⟩⟩
  · rw [← read]
    exact sound.tells_of_relay asks later completion (told ▸ member)
  · obtain ⟨header, shown, birth⟩ := Service.birth_of_asksRelay patient asks
    rcases Service.relayBirth_cases deployment scene.service shown header with
      ⟨-, answer, born, tells⟩ | ⟨url, task, hangs, -⟩
    · exact ⟨answer, told.trans (sound.ends_at_once deployment rfl (birth.trans born) later).1,
        read ▸ tells⟩
    · have hanging : result.isHanging = true := congrArg CallResult.isHanging hangs
      exact absurd (responds.symm.trans hanging) Bool.false_ne_true
  · rw [whole] at reached
    rw [told]
    exact sound.answered_of_relay asks later configured reached spared
  · exact Relay.mem_of_resultIn same
  · exact charsets.reads_textOf _ body
  · rintro plain spelt rfl unmarked
    exact Charsets.textOf_ofText plain unmarked

/-- A call is answered that something is not found; the text comes along. -/
theorem relay_result_mapped_not_found :
    let url := " http://[::1]:8080/in?a=b"
    let deployment : Deployment := ⟨{ outbound := { url } }, fun serial => toString serial⟩
    let request : Http.Request :=
      { target := "/httpclient"
        headers := [("content-type", Octets.ofText "application/json")]
        body := Octets.ofText "\x7b\"MWHEADER\":[\"1\",\"A\",\"1\"],\"TRANRQ\":\x7b\x7d\x7d" }
    let text := "keine \"Größe\"\n"
    let type := "text/plain; charset=utf-8"
    let headers := [("content-type", Octets.ofText type)]
    let charsets : Charsets :=
      { Charsets.utf8Only with
        declared? := fun other => if other = type then some "utf-8" else none }
    let backend : Backend :=
      { address := some (.version6 [0, 0, 0, 0, 0, 0, 0, 1], 8080)
        replies := [.response 404 headers (Octets.ofText text) false]
        charsets }
    request.asksRelay = true ∧
      ∃ response tree,
        (start deployment backend).record deployment [.request "a" request, .advance 1000] 0 =
          [⟨0, 0, .answered response⟩] ∧
        response.status = 200 ∧ Json.parse response.body = .ok tree ∧
        tree.get? "TRANRS" = some (.table [("data", .text text)]) := by
  intro url deployment request text type headers charsets backend
  have asks : request.asksRelay = true := by decide +kernel
  let target : Url :=
    { scheme := "http", host := some (.version6 [0, 0, 0, 0, 0, 0, 0, 1]), port := some 8080
      path := .segments ["in"], query := some "a=b" }
  have callable : Call.urlOf (Relay.target deployment.settings.outbound) = .ok target :=
    Call.urlOf_of_parse (by decide +kernel) (by decide +kernel)
  have brings : Relay.resultIn deployment.settings.outbound backend =
      .response target 404 headers (Octets.ofText text) := by
    rw [Relay.resultIn, callable]
    dsimp only
    rw [Call.run, if_neg (by decide +kernel), if_neg (by decide +kernel)]
    rfl
  obtain ⟨-, once, -, spelt⟩ :=
    relay_result_mapped deployment backend [] [.advance 1000] "a" request asks
  obtain ⟨response, told, tells⟩ := once (by decide) (congrArg CallResult.isHanging brings)
  have tells : (CallResult.response target 404 headers (Octets.ofText text)).Tells charsets
      response := brings ▸ tells
  have declares : (Http.header? headers "content-type").bind Http.visible? = some type := by
    decide +kernel
  have plain : charsets.DeclaresNoOther (some type) := by
    intro label declared charset named
    obtain rfl : "utf-8" = label := Option.some.inj declared
    exact (Option.some.inj named).symm
  have same : Relay.textOf charsets headers (Octets.ofText text) = text :=
    (spelt _ _ _ _ brings).2.2 (declares.symm ▸ plain) text rfl (by decide)
  cases tells with
  | success succeeds parsed reported =>
    refine ⟨asks, response, _, told, succeeds, parsed, ?_⟩
    rw [← same]
    exact reported
  | problem fails => exact absurd rfl (fails _ _ _ _)

end Scene

end LatencyService
