/-
The start of the service. The arguments are read, the settings are loaded in
layers and validated, the log begins, and then the service listens, if the
address can be listened at. Whatever fails ends the start with a message on
the error output and an exit code: two for arguments that make no sense, one
for anything else.
-/

import LatencyService.CommandLine.Arguments
import LatencyService.Config.Loading
import LatencyService.Config.Validation
import LatencyService.Observability.Event

namespace LatencyService.CommandLine

/-- Why an address cannot be listened at. -/
inductive ListenFault where
  | inUse
  | notLocal
  | unknownHost
  deriving DecidableEq, Repr

/-- Why the service does not start. -/
inductive Failure where
  | load (fault : LoadFault)
  | validation (objections : List Objection)
  | listen (fault : ListenFault)

/-! ### Failures in the form of the error output -/

/-- An error of the system with its code, kind and text. -/
def systemError (code : Nat) (kind text : String) : String :=
  "Os \x7b code: " ++ toString code ++ ", kind: " ++ kind ++ ", message: " ++ Quoted.quoted text ++
    " \x7d"

/-- A problem with a file. -/
def showFileProblem : FileProblem → String
  | .missing => systemError 2 "NotFound" "No such file or directory"
  | .directory => systemError 21 "IsADirectory" "Is a directory"
  | .notText =>
    "Error \x7b kind: InvalidData, message: " ++ Quoted.quoted FileProblem.notText.message ++
      " \x7d"

/-- A name and named values. -/
def showRecord (name : String) (fields : List (String × String)) : String :=
  name ++ " \x7b " ++
    String.intercalate ", " (fields.map fun field => field.1 ++ ": " ++ Quoted.quoted field.2) ++
    " \x7d"

/-- An objection. -/
def showObjection : Objection → String
  | .badAddress field value =>
    showRecord "InvalidAddress" [("field", field.name), ("value", value)]
  | .badUrl value reason =>
    showRecord "InvalidUrl" [("value", value), ("reason", reason.message)]
  | .zero field => showRecord "Zero" [("field", field.name)]
  | .blankEnvironment => "BlankEnv"
  | .unknownLevel value => "UnknownLogLevel(" ++ Quoted.quoted value ++ ")"

/-- Why an address cannot be listened at. -/
def showListenFault : ListenFault → String
  | .inUse => systemError 98 "AddrInUse" "Address already in use"
  | .notLocal => systemError 99 "AddrNotAvailable" "Cannot assign requested address"
  | .unknownHost =>
    "Custom \x7b kind: Uncategorized, error: " ++
      Quoted.quoted "failed to lookup address information: Name or service not known" ++ " \x7d"

/-- The failure as the error output shows it. Of a file that does not write settings no more is said
than that. -/
def Failure.message (failure : Failure) : String :=
  "Error: " ++
    (match failure with
      | load (.unreadable problem) => "Io(" ++ showFileProblem problem ++ ")"
      | load (.unparsable ..) => "Parse(...)"
      | validation objections =>
        "Validation([" ++ String.intercalate ", " (objections.map showObjection) ++ "])"
      | listen fault => showListenFault fault) ++ "\n"

/-! ### Settings -/

/-- The settings from a file, the environment and the arguments, which count in this order, the last
one most. -/
def settingsOf (arguments : Arguments) (lookup : String → Option String)
    (files : String → FoundFile) : Except LoadFault Settings :=
  let overrides : Overrides :=
    { environment := arguments.environment, bindAddress := arguments.bindAddress }
  (Settings.load (arguments.config.map files) lookup).map overrides.apply

/-- The settings, if they are valid. -/
def validSettings (arguments : Arguments) (lookup : String → Option String)
    (files : String → FoundFile) : Except Failure Settings :=
  match settingsOf arguments lookup files with
  | .error fault => .error (.load fault)
  | .ok settings =>
    match settings.objections with
    | [] => .ok settings
    | objections => .error (.validation objections)

/-! ### Addresses -/

/-- The addresses of this machine that need no network. -/
def isLocal : SocketAddress → Bool
  | .version4 octets _ => octets.head? == some 127 || octets.all (· == 0)
  | .version6 groups _ _ => groups.dropLast.all (· == 0) && groups.getLast?.any (· ≤ 1)

/-- The port of an address. -/
def portOf : SocketAddress → Nat
  | .version4 _ port => port
  | .version6 _ _ port => port

/-- Both addresses cannot be listened at together. Port zero stands for any that is free. -/
def collide (first second : SocketAddress) : Bool :=
  portOf first == portOf second && portOf first != 0 &&
    match first, second with
    | .version4 left _, .version4 right _ =>
      left == right || left.all (· == 0) || right.all (· == 0)
    | .version6 left _ _, .version6 right _ _ =>
      left == right || left.all (· == 0) || right.all (· == 0)
    | _, _ => false

/-- The socket address of an address to listen at; of all host names only `localhost` is known. -/
def resolve? (address : String) : Option SocketAddress :=
  match SocketAddress.parse? address with
  | some address => some address
  | none =>
    match ListenAddress.splitLast? address.toList with
    | some (host, port) =>
      let digits := match port with
        | '+' :: rest => rest
        | _ => port
      if String.ofList host == "localhost" then
        (Ascii.decimal? digits).map (.version4 [127, 0, 0, 1] ·)
      else none
    | none => none

/-- Why an address cannot be listened at while others are. -/
def listenFault? (taken : List SocketAddress) (address : Option SocketAddress) :
    Option ListenFault :=
  match address with
  | none => some .unknownHost
  | some address =>
    if !isLocal address then some .notLocal
    else if taken.any (collide address) then some .inUse
    else none

/-! ### Metrics -/

/-- What comes of the metrics when the service starts. -/
inductive MetricsStart where
  /-- There are none. -/
  | off
  /-- Their address cannot be read. -/
  | unreadable
  /-- Their address is none of this machine. -/
  | notLocal
  | listening (address : SocketAddress)
  deriving DecidableEq, Repr

namespace MetricsStart

/-- Start the metrics that are asked for. -/
def ofSettings (observability : ObservabilitySettings) : MetricsStart :=
  if observability.metricsEnabled then
    match SocketAddress.parse? observability.metricsAddress with
    | some address => if isLocal address then listening address else notLocal
    | none => unreadable
  else off

/-- The address where the metrics are shown. -/
def address? : MetricsStart → Option SocketAddress
  | listening address => some address
  | off | unreadable | notLocal => none

/-- What is logged of the metrics; `text` is their address as it is configured. -/
def events (text : String) : MetricsStart → List Event
  | off => []
  | unreadable => [.metricsUnreadable text]
  | notLocal =>
    [ .metricsFailed
        "failed to create HTTP listener: Cannot assign requested address (os error 99)" ]
  | listening _ => [.metricsListening text]

end MetricsStart

/-! ### The start -/

/-- The version of the service. -/
def version : String := "0.1.0"

/-- What a start comes to. -/
inductive Launch where
  | helped
  | misused (fault : UsageFault)
  /-- It failed before the log began. -/
  | refused (failure : Failure)
  /-- It failed when the log had begun. -/
  | failed (settings : Settings) (events : List Event) (failure : Failure)
  | running (settings : Settings) (events : List Event)

namespace Launch

/-- The events up to the point where the service listens. -/
def eventsOf (settings : Settings) : List Event :=
  let observability := settings.observability
  [ .starting version,
    .configurationLoaded settings.listener.bindAddress settings.operation.environment
      settings.timeouts.requestSeconds ] ++
    (MetricsStart.ofSettings observability).events observability.metricsAddress

/-- The address of the metrics, if there are metrics and it can be listened at. -/
def metricsAddress (settings : Settings) : List SocketAddress :=
  (MetricsStart.ofSettings settings.observability).address?.toList

/-- Start with valid settings. -/
def ofSettings (settings : Settings) : Launch :=
  let taken := metricsAddress settings
  let before := eventsOf settings
  let address := settings.listener.bindAddress
  match listenFault? taken (resolve? address) with
  | some fault => .failed settings before (.listen fault)
  | none =>
    .running settings
      (before ++
        [ .listening address,
          .serverInitialized settings.operation.environment settings.outbound.url,
          .serverStarting address ])

/-- Start with arguments, variables and files. -/
def run (arguments : List String) (lookup : String → Option String)
    (files : String → FoundFile) : Launch :=
  match Arguments.parse arguments with
  | .error .help => .helped
  | .error (.fault fault) => .misused fault
  | .ok arguments =>
    match validSettings arguments lookup files with
    | .error failure => .refused failure
    | .ok settings => ofSettings settings

/-- The start as it turns out when the address cannot be listened at after all. -/
def withoutListening (fault : ListenFault) : Launch → Launch
  | running settings _ =>
    .failed settings (eventsOf settings) (.listen fault)
  | launch => launch

/-- What is written to the output before the log begins. -/
def output : Launch → String
  | helped => helpText
  | _ => ""

/-- What is written to the error output. -/
def errorOutput : Launch → String
  | misused fault => fault.message
  | refused failure | failed _ _ failure => failure.message
  | helped | running .. => ""

/-- The exit code, unless the service runs. -/
def exitCode? : Launch → Option Nat
  | helped => some 0
  | misused _ => some 2
  | refused _ | failed .. => some 1
  | running .. => none

/-- The settings and the events of a start that got so far as to log. -/
def logged? : Launch → Option (Settings × List Event)
  | failed settings events _ | running settings events => some (settings, events)
  | _ => none

/-- The events that are written to the log; `requested` is the filter that is asked for. -/
def written (settings : Settings) (requested : Option String) (events : List Event) :
    List Event :=
  let filter := LogFilter.chosen requested settings.observability.logLevel
  events.filter fun event => filter.allows event.source event.level

end Launch

end LatencyService.CommandLine
