/-
The endpoints of the service: their paths and the methods they answer. Paths
are compared as they are written, and methods too.
-/

namespace LatencyService.Http

/-- An endpoint. -/
inductive Route where
  | demo
  | demoService
  | camel
  | relay
  | health
  deriving DecidableEq, Repr, Inhabited

namespace Route

/-- All endpoints. -/
def all : List Route := [demo, demoService, camel, relay, health]

/-- The path of an endpoint. -/
def path : Route → String
  | demo => "/demo"
  | demoService => "/demo/service"
  | camel => "/camel"
  | relay => "/httpclient"
  | health => "/health"

/-- The endpoint of a path. -/
def ofPath? (path : String) : Option Route := all.find? fun route => route.path == path

/-- The methods that an endpoint answers. -/
def methods : Route → List String
  | health => ["GET", "HEAD"]
  | _ => ["POST"]

/-- The methods in the form of a header. -/
def allowed (route : Route) : String := String.intercalate "," route.methods

/-- An endpoint is found by its path. -/
@[simp] theorem ofPath?_path (route : Route) : ofPath? route.path = some route := by
  cases route <;> decide

/-- Only its own path finds an endpoint. -/
theorem ofPath?_eq_some_iff {path : String} {route : Route} :
    ofPath? path = some route ↔ path = route.path := by
  constructor
  · intro found
    have same := List.find?_some found
    simpa using (beq_iff_eq.1 same).symm
  · rintro rfl
    exact ofPath?_path route

end Route

end LatencyService.Http
