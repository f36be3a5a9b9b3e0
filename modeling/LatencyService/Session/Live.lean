/-
The service in real time. Whoever asks for something sets the clock first, so
that everything that was due has happened; responses and log entries are taken
out once they are there.
-/

import LatencyService.Session.Service

namespace LatencyService.Service

/-- The clock is set to a time, in milliseconds since the start, and all that is due happens. -/
def catchUp (deployment : Deployment) (now : Nat) (service : Service) : Service :=
  (service.endBusy deployment).moveTo deployment now

/-- A request comes, and the number is told under which it is answered. -/
def accept (deployment : Deployment) (request : Http.Request) (service : Service) :
    Nat × Service :=
  (service.begun, service.admitRequest deployment request)

/-- The response to the request of a number, if there is one by now. It is given out once. -/
def collect? (serial : Nat) (service : Service) : Option Http.Response × Service :=
  match service.ended.find? (·.serial == serial) with
  | some ⟨_, _, .answered response⟩ =>
    (some response, { service with ended := service.ended.filter (·.serial != serial) })
  | _ => (none, service)

/-- What has been logged since this was last asked, in its order. -/
def takeJournal (service : Service) : List LogEntry × Service :=
  (service.journal.reverse, { service with journal := [] })

end LatencyService.Service
