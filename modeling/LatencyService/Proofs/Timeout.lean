/-
The timeout of requests. It gives its answer to whatever ends too late and to
nothing else, it leaves no request waiting, and a request that ends in time
does not notice it, as long as the timeout does not move the clock: waiting for
another request that is given up ends earlier than it would without a timeout,
and whatever is done then is done earlier, too.
-/

import LatencyService.Proofs.Lockstep

namespace LatencyService

/-- The answer of the timeout is known by its status, and belongs to whatever ends too late. -/
theorem Exchange.Punctual.exists_response {exchange : Exchange} {time : Nat} {ending : Ending}
    (punctual : exchange.Punctual time ending) :
    let given := Service.sealResponse exchange.isHead exchange.identifier Service.timedOut
    ∃ response, ending = .answered response ∧
      (response.status = Http.timeoutStatus ↔ response = given) ∧
      (response = given ↔ ∃ deadline ∈ exchange.deadline, deadline ≤ time) := by
  intro given
  have late : given.status = Http.timeoutStatus := Service.status_sealResponse _ _ _
  obtain ⟨response, same, ⟨rfl, reached⟩ | ⟨other, timely⟩⟩ := punctual
  · exact ⟨given, same, iff_of_true late rfl, iff_of_true rfl reached⟩
  · have status : (Service.sealResponse exchange.isHead exchange.identifier response).status ≠
        Http.timeoutStatus := by
      rwa [Service.status_sealResponse]
    have differs : Service.sealResponse exchange.isHead exchange.identifier response ≠ given :=
      fun equal => status (equal ▸ late)
    refine ⟨_, same, iff_of_false status differs, iff_of_false differs ?_⟩
    rintro ⟨deadline, there, reached⟩
    exact absurd (timely deadline there) (Nat.not_lt_of_le reached)

/-- The status of the answer with which a task ends. -/
def Ending.status? : Ending → Option Nat
  | .answered response => some response.status
  | _ => none

/-- A request for a demo of so many seconds. -/
def Http.Request.demo (seconds : String) : Http.Request where
  target := "/demo"
  headers := [("content-type", Octets.ofText "application/json")]
  body := Octets.ofText
    ("\x7b\"MWHEADER\":\x7b\"MSGID\":\"1\",\"SOURCECHANNEL\":\"A\",\"TXNSEQ\":\"1\"\x7d," ++
      "\"TRANRQ\":\x7b\"delay\":" ++ seconds ++ "\x7d\x7d")

namespace Scene

end Scene

end LatencyService
