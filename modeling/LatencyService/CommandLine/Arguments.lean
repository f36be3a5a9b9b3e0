/-
The arguments of the command line. There are three options, each with a value
and each at most once, and a request for help. A value follows its option, or
stands in the same argument, behind an equals sign or, after a short name,
right behind it. An option whose value is still to come takes the next
argument unless that looks like an option itself.
-/

import LatencyService.Text.Similarity

namespace LatencyService.CommandLine

/-! ### Options -/

/-- An option with a value. -/
inductive Flag where
  | config
  | environment
  | bind
  deriving DecidableEq, Repr

namespace Flag

/-- All options. -/
def all : List Flag := [config, environment, bind]

/-- The long name. -/
def long : Flag → String
  | config => "config"
  | environment => "env"
  | bind => "bind"

/-- The short name. -/
def short : Flag → Char
  | config => 'c'
  | environment => 'e'
  | bind => 'b'

/-- The option as messages show it. -/
def shown : Flag → String
  | config => "--config <CONFIG>"
  | environment => "--env <ENV>"
  | bind => "--bind <BIND>"

/-- The option of a long name. -/
def ofLong? (name : String) : Option Flag := all.find? fun flag => flag.long == name

/-- The option of a short name. -/
def ofShort? (name : Char) : Option Flag := all.find? fun flag => flag.short == name

end Flag

/-- The long name of the request for help. -/
def helpName : String := "help"

/-! ### Faults -/

/-- Why arguments are not accepted. -/
inductive UsageFault where
  | valueMissing (flag : Flag)
  | repeated (flag : Flag)
  /-- An argument that is none, perhaps one that is meant, and the options in use. -/
  | unexpected (argument : String) (meant : Option String) (inUse : List String)
  /-- A value for the request for help, and the options in use. -/
  | helpValue (value : String) (inUse : List String)
  deriving DecidableEq, Repr

/-- The name of the program. -/
def programName : String := "demo-service"

/-- How the program is used, as far as the options in use tell. -/
def usageLine (inUse : List String) : String :=
  "Usage: " ++ programName ++ " " ++
    if inUse.isEmpty then "[OPTIONS]" else String.intercalate " " inUse

/-- The fault in words. -/
def UsageFault.message (fault : UsageFault) : String :=
  let body := match fault with
    | valueMissing flag => ["a value is required for '" ++ flag.shown ++ "' but none was supplied"]
    | repeated flag =>
      ["the argument '" ++ flag.shown ++ "' cannot be used multiple times", usageLine []]
    | unexpected argument meant inUse =>
      ["unexpected argument '" ++ argument ++ "' found"] ++
        (meant.map fun name => "  tip: a similar argument exists: '--" ++ name ++ "'").toList ++
        [usageLine inUse]
    | helpValue value inUse =>
      [ "unexpected value '" ++ value ++ "' for '--help' found; no more were expected",
        usageLine inUse ]
  "error: " ++ String.intercalate "\n\n" (body ++ ["For more information, try '--help'."]) ++ "\n"

/-- The text of the help. -/
def helpText : String :=
  "Demonstration service simulating latency, CPU load and an outbound relay\n\n" ++
  usageLine [] ++ "\n\n" ++
  "Options:\n" ++
  "  -c, --config <CONFIG>  TOML configuration file. Defaults apply when omitted\n" ++
  "  -e, --env <ENV>        Environment name reported by /demo " ++
  "(overrides config and DEMO_ENV)\n" ++
  "  -b, --bind <BIND>      Listen address (overrides config and DEMO_BIND_ADDRESS)\n" ++
  "  -h, --help             Print help\n"

/-! ### Reading -/

/-- What ends the reading of arguments early. -/
inductive Interruption where
  | help
  | fault (fault : UsageFault)
  deriving DecidableEq, Repr

/-- Where the reading stands. -/
structure Progress where
  /-- The options that have their values, in the order in which they got them. -/
  values : List (Flag × String) := []
  /-- An option that has been named last, with its value once that has come. -/
  open? : Option (Flag × Option String) := none
  /-- Two hyphens have come, after which nothing is an option. -/
  isPastOptions : Bool := false
  deriving Repr

namespace Progress

/-- The option has a value. -/
def has (progress : Progress) (flag : Flag) : Bool := progress.values.any (·.1 == flag)

/-- An option gets its value. A file name cannot be empty. -/
def accept (progress : Progress) (flag : Flag) (value : String) : Except Interruption Progress :=
  if progress.has flag then .error (.fault (.repeated flag))
  else if flag == .config && value.isEmpty then .error (.fault (.valueMissing flag))
  else .ok { progress with values := progress.values ++ [(flag, value)] }

/-- The option that has been named last is done with. -/
def close (progress : Progress) : Except Interruption Progress :=
  match progress.open? with
  | none => .ok progress
  | some (flag, none) => .error (.fault (.valueMissing flag))
  | some (flag, some value) => { progress with open? := none }.accept flag value

/-- The options in use, as a message about another argument shows them. -/
def inUse (progress : Progress) : List String :=
  let given := progress.values.map (·.1)
  let flags := match progress.open? with
    | some (flag, some _) => if progress.has flag then given.filter (· != flag) else given ++ [flag]
    | _ => given
  flags.map Flag.shown

/-- An argument with a long name, and the value in it. -/
def long (progress : Progress) (name : String) (value : Option String) :
    Except Interruption Progress :=
  match Flag.ofLong? name with
  | some flag =>
    match progress.close, value with
    | .error interruption, _ => .error interruption
    | .ok progress, some value => progress.accept flag value
    | .ok progress, none => .ok { progress with open? := some (flag, none) }
  | none =>
    if name == helpName then
      match value with
      | some value =>
        let given := progress.values.map fun entry => entry.1.shown
        .error (.fault (.helpValue value (given ++ ["--" ++ helpName])))
      | none => progress.close.bind fun _ => .error .help
    else
      let meant := Similarity.closest? name (Flag.all.map Flag.long ++ [helpName])
      let shown := meant.map fun name =>
        match Flag.ofLong? name with
        | some flag => flag.shown
        | none => "--" ++ name
      let added := shown.toList.filter fun option => !progress.inUse.contains option
      .error (.fault (.unexpected ("--" ++ name) meant (progress.inUse ++ added)))

/-- An argument with a short name, given by the characters behind the hyphen. -/
def short (progress : Progress) (chars : List Char) : Except Interruption Progress :=
  match chars with
  | [] => .ok progress
  | name :: rest =>
    match Flag.ofShort? name with
    | some flag =>
      match progress.close, rest with
      | .error interruption, _ => .error interruption
      | .ok progress, [] => .ok { progress with open? := some (flag, none) }
      | .ok progress, '=' :: value => progress.accept flag (String.ofList value)
      | .ok progress, value => progress.accept flag (String.ofList value)
    | none =>
      if name == 'h' then progress.close.bind fun _ => .error .help
      else .error (.fault (.unexpected (String.ofList ['-', name]) none []))

/-- An argument that names no option. -/
def plain (progress : Progress) (argument : String) : Except Interruption Progress :=
  match progress.isPastOptions, progress.open? with
  | false, some (flag, none) => .ok { progress with open? := some (flag, some argument) }
  | _, _ => .error (.fault (.unexpected argument none []))

/-- One more argument. -/
def read (progress : Progress) (argument : String) : Except Interruption Progress :=
  if progress.isPastOptions then progress.plain argument
  else
    match argument.toList with
    | ['-', '-'] => .ok { progress with isPastOptions := true }
    | '-' :: '-' :: rest =>
      let name := rest.takeWhile (· != '=')
      let value := match rest.drop name.length with
        | [] => none
        | _ :: value => some (String.ofList value)
      progress.long (String.ofList name) value
    | '-' :: first :: rest => progress.short (first :: rest)
    | _ => progress.plain argument

end Progress

/-- The values of the options. -/
structure Arguments where
  config : Option String := none
  environment : Option String := none
  bindAddress : Option String := none
  deriving DecidableEq, Repr, Inhabited

/-- The values of the options that a command line gives. -/
def Arguments.parse (arguments : List String) : Except Interruption Arguments := do
  let progress ← arguments.foldlM Progress.read {}
  let progress ← progress.close
  return {
    config := progress.values.lookup .config
    environment := progress.values.lookup .environment
    bindAddress := progress.values.lookup .bind }

end LatencyService.CommandLine
