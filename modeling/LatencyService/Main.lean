/-
The program. It starts the service as the command line, the variables and the
file of settings ask, answers requests over TCP, and stops at a signal once
all requests that had come are answered. All of its decisions are made by the
service; here they meet the clock, the log and the connections.

The program makes no calls of its own: a relayed call meets a network where
nobody listens.
-/

import LatencyService.CommandLine.Launch
import LatencyService.Http.Identifier
import LatencyService.Http.Wire
import LatencyService.Observability.Line
import LatencyService.Session.Live
import Std.Async.Select
import Std.Async.Signal
import Std.Async.TCP
import Std.Async.Timer
import Std.Time

namespace LatencyService

open Std.Async

/-- The running program. -/
structure Program where
  deployment : Deployment
  /-- The filter of the log that is asked for. -/
  requestedFilter : Option String
  service : IO.Ref Service
  /-- How many requests have come whose responses have not been sent. -/
  pending : IO.Ref Nat
  /-- When the program began, on the clock of the machine. -/
  began : Nat

namespace Program

/-! ### Log -/

/-- The moment, as log lines show it. -/
def moment : IO String := do
  let now := Std.Time.DateTime.ofTimestamp (← Std.Time.Timestamp.now) .UTC
  return now.format "uuuu-MM-dd'T'HH:mm:ss.SSSSSS'Z'"

/-- Write the events that the filter lets pass. -/
def writeLog (settings : Settings) (requestedFilter : Option String) (events : List Event) :
    IO Unit := do
  let now ← moment
  for event in CommandLine.Launch.written settings requestedFilter events do
    IO.println (LogLine.render settings.observability.logFormat now event)
  (← IO.getStdout).flush

/-- Write events to the log. -/
def write (program : Program) (events : List Event) : IO Unit :=
  writeLog program.deployment.settings program.requestedFilter events

/-! ### The service -/

/-- Do something with the service as it is by now, and write what that logs. -/
def change {Value : Type} (program : Program) (step : Service → Value × Service) : IO Value := do
  let now := (← IO.monoMsNow) - program.began
  let (value, entries) ← program.service.modifyGet fun service =>
    let (value, service) := step (service.catchUp program.deployment now)
    let (entries, service) := service.takeJournal
    ((value, entries), service)
  program.write (entries.filterMap LogEntry.event?)
  return value

/-- Wait for the response to the request of a number. -/
partial def await (program : Program) (serial : Nat) : Async Http.Response := do
  match ← program.change (Service.collect? serial) with
  | some response => return response
  | none =>
    sleep 2
    program.await serial

/-- The response to a request. -/
def answer (program : Program) (request : Http.Request) : Async Http.Response := do
  let serial ← program.change (Service.accept program.deployment request)
  program.await serial

/-! ### Connections -/

/-- Send octets over a connection. -/
def send (client : TCP.Socket.Client) (octets : Octets) : Async Unit :=
  client.send ⟨octets.toArray⟩

/-- Answer the requests of a connection one after the other. -/
partial def converse (program : Program) (client : TCP.Socket.Client) (unread : Octets) :
    Async Unit := do
  match Http.Wire.request unread with
  | .incomplete =>
    match ← client.recv? 65536 with
    | some octets => program.converse client (unread ++ octets.toList)
    | none => client.shutdown
  | .malformed =>
    send client Http.Wire.refusal
    client.shutdown
  | .complete (request, isLast) rest =>
    program.pending.modify (· + 1)
    try
      send client (Http.Wire.response (← program.answer request) isLast)
    finally
      program.pending.modify (· - 1)
    if isLast then client.shutdown else program.converse client rest

/-- Accept connections until one of the signals comes. -/
partial def accept (program : Program) (server : TCP.Socket.Server)
    (signals : List Signal.Waiter) : Async Unit := do
  let connection := Selectable.case server.acceptSelector fun client => pure (some client)
  let ends := signals.map fun signal => Selectable.case signal.selector fun _ => pure none
  match ← Selectable.one (connection :: ends).toArray with
  | none => return
  | some client =>
    background (program.converse client [])
    program.accept server signals

/-- Show the page of the metrics to whoever connects. -/
partial def showMetrics (program : Program) (server : TCP.Socket.Server) : Async Unit := do
  let client ← server.accept
  background do
    discard (client.recv? 65536)
    let page ← program.change fun service => (service.metrics.page, service)
    let text := String.join (page.map (· ++ "\n"))
    let type := Octets.ofText "text/plain; charset=utf-8"
    send client (Http.Wire.response ⟨200, [("content-type", type)], Octets.ofText text⟩ true)
    client.shutdown
  program.showMetrics server

/-- Wait until all responses have been sent. -/
partial def drain (program : Program) : Async Unit := do
  if (← program.pending.get) > 0 then
    sleep 2
    program.drain

/-! ### Start and end -/

/-- The address of a socket as the network knows it. -/
def networkAddress : SocketAddress → Std.Net.SocketAddress
  | .version4 octets port =>
    let octet := fun (place : Nat) => (octets.getD place 0).toUInt8
    .v4 ⟨.ofParts (octet 0) (octet 1) (octet 2) (octet 3), port.toUInt16⟩
  | .version6 groups _ port =>
    .v6 ⟨⟨Vector.ofFn fun place => (groups.getD place 0).toUInt16⟩, port.toUInt16⟩

/-- Listen at an address. -/
def listenAt (address : SocketAddress) : IO TCP.Socket.Server := do
  let server ← TCP.Socket.Server.mk
  server.bind (networkAddress address)
  server.listen 1024
  return server

/-- Listen where a start wants to. When somebody else does already, the start fails. -/
def listen (launch : CommandLine.Launch) :
    IO (CommandLine.Launch × Option (Settings × TCP.Socket.Server)) := do
  let .running settings _ := launch | return (launch, none)
  let some address := CommandLine.resolve? settings.listener.bindAddress | return (launch, none)
  try
    return (launch, some (settings, ← listenAt address))
  catch _ =>
    return (launch.withoutListening .inUse, none)

/-- Serve until a signal comes, and until what had come by then is answered. -/
def serve (program : Program) (server : TCP.Socket.Server) : Async Unit := do
  let terminate ← Signal.Waiter.mk .sigterm false
  let interrupt ← Signal.Waiter.mk .sigint false
  program.accept server [terminate, interrupt]
  program.write [.signalReceived]
  program.change fun service => ((), service.trigger)
  program.drain
  program.write [.serverStopped, .shutdownComplete]

/-- What stands at the place of a file. -/
def findFile (name : String) : IO FoundFile := do
  try
    return .octets (← IO.FS.readBinFile name).toList
  catch
    | .noFileOrDirectory .. => return .missing
    | _ => return .directory

/-- The variables that the service looks at. -/
def environment : IO (List (String × String)) := do
  let names := [LogFilter.requestVariable, Overrides.environmentVariable,
    Overrides.bindAddressVariable,
    Overrides.outboundUrlVariable]
  names.filterMapM fun name => return (← IO.getEnv name).map (name, ·)

/-- The program of a service that starts with the settings. -/
def ofSettings (settings : Settings) (requestedFilter : Option String) : IO Program := do
  let octets ← IO.getRandomBytes 8
  let seed := octets.toList.foldl (fun seed octet => seed * 256 + octet.toUInt64) 0
  let deployment : Deployment := ⟨settings, Http.Identifier.ofNumber seed⟩
  let service := (Service.start deployment .unreachable).takeJournal.2
  return ⟨deployment, requestedFilter, ← IO.mkRef service, ← IO.mkRef 0, ← IO.monoMsNow⟩

/-- Run the program: start the service and serve. The result is the exit code. -/
def run (arguments : List String) : IO UInt32 := do
  let environment ← environment
  let lookup := fun (name : String) => environment.lookup name
  let file := (CommandLine.Arguments.parse arguments).toOption.bind (·.config)
  let found ← (file.mapM findFile : IO (Option FoundFile))
  let (launch, listening) ←
    listen (CommandLine.Launch.run arguments lookup fun _ => found.getD .missing)
  match launch.logged? with
  | some (settings, events) => writeLog settings (lookup LogFilter.requestVariable) events
  | none => IO.print launch.output
  IO.eprint launch.errorOutput
  if let some (settings, server) := listening then
    let program ← ofSettings settings (lookup LogFilter.requestVariable)
    for address in CommandLine.Launch.metricsAddress settings do
      let page ← listenAt address
      (background (program.showMetrics page) : Async Unit).block
    (program.serve server).block
  return (launch.exitCode?.getD 0).toUInt32

end Program

end LatencyService

def main (arguments : List String) : IO UInt32 := LatencyService.Program.run arguments
