import LapTelemetry.CommandLine
import LapTelemetry.Datagram.Capture
import LapTelemetry.ReceiveLoop
import Std.Async.UDP
import Std.Time

/-! # The program

Datagrams of a capture, or those that arrive at an address, go through a collector
one after the other. The lines of its sink are written to standard output as soon as
they are complete, and reports to standard error. -/

namespace LapTelemetry.Program

open LapTelemetry.Config LapTelemetry.Datagram LapTelemetry.Point LapTelemetry.Session

set_option autoImplicit false

/-- The content of a file, or why there is none. -/
def fileText (path : String) : IO (Except String String) := do
  try return .ok (← IO.FS.readFile path)
  catch e => return .error (toString e)

/-- The bytes of a file, or why there are none. -/
def fileBytes (path : String) : IO (Except String (List UInt8)) := do
  try return .ok (← IO.FS.readBinFile path).toList
  catch e => return .error (toString e)

/-- The milliseconds since 1970. -/
def now : IO Int := do
  return (← Std.Time.Timestamp.now).toMillisecondsSinceUnixEpoch.val

/-- The label of a session that starts now. -/
def label : IO String := do
  return (← Std.Time.PlainDateTime.now).format "uuuu-MM-dd@HH:mm"

/-- Report a fault with what can be done about it. -/
def report (fault : Fault) : IO Unit := do
  IO.eprintln fault.message
  for suggestion in fault.suggestions do IO.eprintln ("  - " ++ suggestion)

/-- Report the laps completed between two states. -/
def reportLaps (before after : Tracker Journal) : IO Unit := do
  for lap in after.laps.drop before.laps.length do
    IO.eprintln s!"Lap {lap.lap} complete: {lapTimeText lap.time} ({lap.sectors.text})"

/-- Feed one datagram to the loop and write what it gives rise to. -/
def step (delivery : Delivery) (loop : ReceiveLoop Journal) (data : List UInt8) :
    IO (ReceiveLoop Journal) := do
  let time ← now
  let name ← label
  let fresh := { loop with collector.tracker.sink := Journal.empty, collector.tracker.laps := [] }
  let (_, next) := fresh.receive (Sink.lines delivery .sound fun _ => time) (fun _ => name) data
  IO.print (String.ofList next.collector.tracker.sink.text)
  (← IO.getStdout).flush
  reportLaps fresh.collector.tracker next.collector.tracker
  return next

/-- An address in the terms of the network. -/
def networkAddress : SocketAddress → Std.Net.SocketAddress
  | .v4 host port => .v4 ⟨⟨host.octets⟩, port⟩
  | .v6 host port => .v6 ⟨⟨host.groups⟩, port⟩

/-- Feed the datagrams that arrive at an address, for ever. -/
partial def listen (settings : Settings) (socket : Std.Async.UDP.Socket)
    (loop : ReceiveLoop Journal) : IO (ReceiveLoop Journal) := do
  let (bytes, _) ← (socket.recv settings.maxDatagramSize.toUInt64).block
  listen settings socket (← step settings.delivery loop bytes.toList)

/-- Run a loop on a capture or on the network. -/
def run (line : CommandLine) (settings : Settings) (loop : ReceiveLoop Journal) :
    IO (Except Fault (ReceiveLoop Journal)) := do
  match line.replay with
  | some path =>
    match ← Capture.load fileBytes path with
    | .error fault => return .error fault
    | .ok datagrams => return .ok (← datagrams.foldlM (step settings.delivery) loop)
  | none =>
    let socket ← Std.Async.UDP.Socket.mk
    socket.bind (networkAddress settings.listen)
    return .ok (← listen settings socket loop)

/-- Report the counters of a loop. -/
def reportStats (stats : CollectorStats) : IO Unit :=
  IO.eprintln (s!"received {stats.counts.received}, processed {stats.counts.processed}, " ++
    s!"unknown {stats.counts.unknown}, malformed {stats.counts.malformed}, " ++
    s!"dropped {stats.counts.dropped}, sessions {stats.tracker.sessions}, " ++
    s!"sink errors {stats.tracker.sinkErrors}")

/-- The program on a command line; the result is its exit code. -/
def execute (line : CommandLine) : IO UInt32 := do
  match ← line.settings fileText with
  | .error fault => report fault; return 1
  | .ok settings =>
    match ← settings.collector fileText Journal.empty with
    | .error fault => report fault; return 1
    | .ok collector =>
      match ← run line settings (.start collector) with
      | .error fault => report fault; return 1
      | .ok loop => reportStats loop.collector.stats; return 0

end LapTelemetry.Program

def main (arguments : List String) : IO UInt32 := do
  match LapTelemetry.CommandLine.ofArguments arguments with
  | .ok line => LapTelemetry.Program.execute line
  | .error fault =>
    IO.eprintln fault.message
    IO.eprintln LapTelemetry.CommandLine.usage
    return 2
