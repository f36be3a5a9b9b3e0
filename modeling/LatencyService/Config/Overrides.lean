/-
Values that replace those of the settings: first the variables of the
environment, then the command line. A variable that is set counts even when it
is empty.
-/

import LatencyService.Config.Settings

namespace LatencyService

/-- Values for some of the settings. -/
structure Overrides where
  environment : Option String := none
  bindAddress : Option String := none
  outboundUrl : Option String := none
  deriving DecidableEq, Repr, Inhabited

namespace Overrides

/-- The variable for the name of the environment. -/
def environmentVariable : String := "DEMO_ENV"

/-- The variable for the address to listen at. -/
def bindAddressVariable : String := "DEMO_BIND_ADDRESS"

/-- The variable for the URL of relayed calls. -/
def outboundUrlVariable : String := "DEMO_OUTBOUND_URL"

/-- What the variables set. -/
def ofVariables (lookup : String → Option String) : Overrides where
  environment := lookup environmentVariable
  bindAddress := lookup bindAddressVariable
  outboundUrl := lookup outboundUrlVariable

/-- The settings with the given values in place of their own. -/
def apply (overrides : Overrides) (settings : Settings) : Settings :=
  { settings with
    operation :=
      { settings.operation with
        environment := overrides.environment.getD settings.operation.environment }
    listener :=
      { settings.listener with
        bindAddress := overrides.bindAddress.getD settings.listener.bindAddress }
    outbound :=
      { settings.outbound with
        url := overrides.outboundUrl.getD settings.outbound.url } }

/-- Without values nothing is replaced. -/
@[simp] theorem apply_empty (settings : Settings) : apply {} settings = settings := rfl

end Overrides

end LatencyService
