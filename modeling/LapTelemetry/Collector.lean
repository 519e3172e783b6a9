import LapTelemetry.Session.Tracker

/-! # The collector

A collector runs each datagram through a dispatcher and a tracker before it takes
the next. `ingest` counts how each datagram fared and never fails: a datagram that
cannot be used is dropped. `process` tells why, and counts nothing. -/

namespace LapTelemetry

open LapTelemetry.Datagram LapTelemetry.Point LapTelemetry.Session

set_option autoImplicit false

/-- What a collector counts by itself. -/
structure DatagramCounts where
  received : Nat
  processed : Nat
  /-- Datagrams of kinds that are not followed. -/
  unknown : Nat
  /-- Datagrams of the wrong size. -/
  malformed : Nat
  /-- Datagrams that the tracker refused. -/
  dropped : Nat
  deriving DecidableEq, Repr

namespace DatagramCounts

def zero : DatagramCounts := ⟨0, 0, 0, 0, 0⟩

/-- The counters after one more datagram. -/
def count (counts : DatagramCounts) (outcome : Except Fault Unit) : DatagramCounts :=
  let counts := { counts with received := counts.received + 1 }
  match outcome with
  | .ok _ => { counts with processed := counts.processed + 1 }
  | .error (.unknownPacket _ _ _) => { counts with unknown := counts.unknown + 1 }
  | .error (.sizeMismatch _ _ _) | .error (.truncated _ _) =>
    { counts with malformed := counts.malformed + 1 }
  | .error _ => { counts with dropped := counts.dropped + 1 }

end DatagramCounts

/-- The counters of a collector and of its tracker. -/
structure CollectorStats where
  counts : DatagramCounts
  tracker : TrackerStats
  deriving DecidableEq, Repr

def CollectorStats.zero : CollectorStats := ⟨.zero, .zero⟩

/-- A collector, with the state `σ` of its sink. -/
structure Collector (σ : Type) where
  dispatcher : Dispatcher
  tracker : Tracker σ
  counts : DatagramCounts

namespace Collector

variable {σ : Type}

/-- A collector before the first datagram. -/
def start (dispatcher : Dispatcher) (sink : σ) : Collector σ := ⟨dispatcher, .start sink, .zero⟩

/-- Use a datagram. -/
def process (into : Sink σ) (labeler : Nat → String) (collector : Collector σ) (data : List UInt8) :
    Except Fault Unit × Collector σ :=
  match collector.dispatcher.dispatch data with
  | .error fault => (.error fault, collector)
  | .ok packet =>
    let (outcome, tracker) := collector.tracker.handle into labeler packet
    (outcome, { collector with tracker })

/-- Use a datagram if it can be used, and count it. -/
def ingest (into : Sink σ) (labeler : Nat → String) (collector : Collector σ) (data : List UInt8) :
    Bool × Collector σ :=
  let (outcome, after) := collector.process into labeler data
  (outcome.isOk, { after with counts := collector.counts.count outcome })

def snapshot (collector : Collector σ) : Snapshot := collector.tracker.snapshot

def stats (collector : Collector σ) : CollectorStats := ⟨collector.counts, collector.tracker.stats⟩

end Collector

end LapTelemetry
