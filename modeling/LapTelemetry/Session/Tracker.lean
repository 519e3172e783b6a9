import LapTelemetry.Point.Sink
import LapTelemetry.Session.Reaction

/-! # The tracker

The tracker follows the session through the packets, hands the writes to a sink
and counts. A session that starts gets the next label of a labeler, a sequence of
texts. A write that the sink refuses is counted and lost; the session goes on as
if it had been taken. -/

namespace LapTelemetry.Session

open LapTelemetry.Datagram LapTelemetry.Point

set_option autoImplicit false

/-- What the tracker counts. -/
structure TrackerStats where
  sessions : Nat
  lapPoints : Nat
  livePoints : Nat
  /-- Writes that the sink refused. -/
  sinkErrors : Nat
  deriving DecidableEq, Repr

def TrackerStats.zero : TrackerStats := ⟨0, 0, 0, 0⟩

/-- The counters after a write. -/
def TrackerStats.count (stats : TrackerStats) (write : Write) : Except Fault Unit → TrackerStats
  | .error _ => { stats with sinkErrors := stats.sinkErrors + 1 }
  | .ok _ =>
    match write with
    | .lap _ _ _ => { stats with lapPoints := stats.lapPoints + 1 }
    | .live _ => { stats with livePoints := stats.livePoints + 1 }

/-- The tracker, with the state `σ` of its sink. -/
structure Tracker (σ : Type) where
  state : Option State
  stats : TrackerStats
  /-- How many labels the labeler has given. -/
  labelsGiven : Nat
  /-- The laps completed so far. -/
  laps : List CompletedLap
  sink : σ
  deriving Repr

namespace Tracker

variable {σ : Type}

/-- A tracker before the first packet. -/
def start (sink : σ) : Tracker σ := ⟨none, .zero, 0, [], sink⟩

/-- Hand a write to the sink and count it. -/
def deliver (into : Sink σ) (tracker : Tracker σ) (write : Write) : Tracker σ :=
  let (outcome, sink) := into.attempt tracker.sink write
  { tracker with sink, stats := tracker.stats.count write outcome }

/-- The tracker after a reaction, before its writes. -/
def take (tracker : Tracker σ) (reaction : Reaction) : Tracker σ :=
  let started := if reaction.started then 1 else 0
  { tracker with
    state := reaction.state
    stats := { tracker.stats with sessions := tracker.stats.sessions + started }
    labelsGiven := tracker.labelsGiven + started
    laps := tracker.laps ++ reaction.completed.toList }

/-- Handle a packet. The labeler numbers its labels from 0. -/
def handle (into : Sink σ) (labeler : Nat → String) (tracker : Tracker σ) (packet : Packet) :
    Except Fault Unit × Tracker σ :=
  match react tracker.state (labeler tracker.labelsGiven) packet with
  | .error fault => (.error fault, tracker)
  | .ok reaction => (.ok (), reaction.writes.foldl (deliver into) (tracker.take reaction))

def snapshot (tracker : Tracker σ) : Snapshot := .ofState? tracker.state

end Tracker

end LapTelemetry.Session
