import LapTelemetry.Collector
import LapTelemetry.Proofs.Session.Run

/-! # Streams of datagrams

A collector takes a stream of datagrams one after the other. What becomes of a datagram
hangs on the dispatcher and on the tracker, and not on the counters of the collector
(`ingest_alike`). A datagram that cannot be used, because it cannot be decoded or
because the tracker refuses its packet, leaves both as they were and asks for no write
(`ingest_unused`), wherever in the stream it stands.

So such datagrams may as well be missing: a stream without them is used as a whole, and
the tracker, its sink and the writes that the sink is asked for come out the same
(`ingestAll_used`). -/

namespace LapTelemetry.Collector

open LapTelemetry.Datagram LapTelemetry.Point LapTelemetry.Session

set_option autoImplicit false

variable {σ : Type} (into : Sink σ) (labeler : Nat → String)

/-- The collector after a stream of datagrams. -/
def ingestAll (collector : Collector σ) (stream : List (List UInt8)) : Collector σ :=
  stream.foldl (fun collector data => (collector.ingest into labeler data).2) collector

/-- For each datagram of a stream, whether it could be used. -/
def verdicts : Collector σ → List (List UInt8) → List Bool
  | _, [] => []
  | collector, data :: rest =>
    (collector.ingest into labeler data).1 :: verdicts (collector.ingest into labeler data).2 rest

/-- A stream without the datagrams that could not be used. -/
def used (collector : Collector σ) (stream : List (List UInt8)) : List (List UInt8) :=
  ((stream.zip (collector.verdicts into labeler stream)).filter (·.2)).map (·.1)

/-- The writes that a datagram asks for. -/
def asked (collector : Collector σ) (data : List UInt8) : List Write :=
  match collector.dispatcher.dispatch data with
  | .error _ => []
  | .ok packet => collector.tracker.attempted into labeler packet

/-- The writes that a stream asks for, in order. -/
def allAsked : Collector σ → List (List UInt8) → List Write
  | _, [] => []
  | collector, data :: rest =>
    collector.asked into labeler data ++ allAsked (collector.ingest into labeler data).2 rest

/-- Collectors that differ in no more than their counters. -/
structure Alike (one other : Collector σ) : Prop where
  dispatcher : one.dispatcher = other.dispatcher
  tracker : one.tracker = other.tracker

variable {into labeler} {one other collector : Collector σ} {data : List UInt8}

theorem Alike.trans {third : Collector σ} (first : Alike one other) (second : Alike other third) :
    Alike one third :=
  ⟨first.dispatcher.trans second.dispatcher, first.tracker.trans second.tracker⟩

/-! ## One datagram -/

theorem ingest_of_undecoded {fault : Fault}
    (undecoded : collector.dispatcher.dispatch data = .error fault) :
    collector.ingest into labeler data =
      (false, { collector with counts := collector.counts.count (.error fault) }) := by
  simp only [ingest, process, undecoded]
  rfl

theorem ingest_of_decoded {packet : Packet}
    (decoded : collector.dispatcher.dispatch data = .ok packet) :
    collector.ingest into labeler data =
      ((collector.tracker.handle into labeler packet).1.isOk,
        { collector with
          tracker := (collector.tracker.handle into labeler packet).2
          counts := collector.counts.count (collector.tracker.handle into labeler packet).1 }) := by
  simp only [ingest, process, decoded]

theorem ingest_alike (into : Sink σ) (labeler : Nat → String) (alike : Alike one other)
    (data : List UInt8) :
    (one.ingest into labeler data).1 = (other.ingest into labeler data).1 ∧
      one.asked into labeler data = other.asked into labeler data ∧
      Alike (one.ingest into labeler data).2 (other.ingest into labeler data).2 := by
  obtain ⟨dispatcher, tracker⟩ := alike
  cases decoded : one.dispatcher.dispatch data with
  | error fault =>
    have undecoded : other.dispatcher.dispatch data = .error fault := dispatcher ▸ decoded
    rw [ingest_of_undecoded decoded, ingest_of_undecoded undecoded]
    simp only [asked, decoded, undecoded]
    exact ⟨trivial, trivial, dispatcher, tracker⟩
  | ok packet =>
    have decodedToo : other.dispatcher.dispatch data = .ok packet := dispatcher ▸ decoded
    rw [ingest_of_decoded decoded, ingest_of_decoded decodedToo]
    simp only [asked, decoded, decodedToo, tracker]
    exact ⟨trivial, trivial, dispatcher, rfl⟩

/-- A datagram that cannot be used might as well not have come. -/
theorem ingest_unused (unused : (collector.ingest into labeler data).1 = false) :
    collector.asked into labeler data = [] ∧
      Alike (collector.ingest into labeler data).2 collector := by
  cases decoded : collector.dispatcher.dispatch data with
  | error fault =>
    rw [ingest_of_undecoded decoded]
    simp only [asked, decoded]
    exact ⟨trivial, rfl, rfl⟩
  | ok packet =>
    rw [ingest_of_decoded decoded] at unused ⊢
    simp only [asked, decoded]
    let tracker := collector.tracker
    cases decision : react tracker.state (labeler tracker.labelsGiven) packet with
    | error fault =>
      rw [Tracker.attempted_of_refusal decision, Tracker.handle_of_refusal decision]
      exact ⟨rfl, rfl, rfl⟩
    | ok reaction =>
      rw [Tracker.handle_of_reaction decision] at unused
      cases unused

/-! ## Streams -/

theorem used_cons_of_used {rest : List (List UInt8)}
    (usable : (collector.ingest into labeler data).1 = true) :
    collector.used into labeler (data :: rest) =
      data :: (collector.ingest into labeler data).2.used into labeler rest := by
  simp only [used, verdicts, List.zip_cons_cons, usable, List.filter_cons_of_pos, List.map_cons]

theorem used_cons_of_unused {rest : List (List UInt8)}
    (unused : (collector.ingest into labeler data).1 = false) :
    collector.used into labeler (data :: rest) =
      (collector.ingest into labeler data).2.used into labeler rest := by
  simp [used, verdicts, unused]

/-- What a stream comes to is what its usable datagrams come to. -/
theorem used_again (into : Sink σ) (labeler : Nat → String) (stream : List (List UInt8))
    (alike : Alike one other) :
    other.verdicts into labeler (one.used into labeler stream) =
        (one.used into labeler stream).map (fun _ => true) ∧
      other.allAsked into labeler (one.used into labeler stream) =
        one.allAsked into labeler stream ∧
      Alike (one.ingestAll into labeler stream)
        (other.ingestAll into labeler (one.used into labeler stream)) := by
  induction stream generalizing one other with
  | nil => exact ⟨rfl, rfl, alike⟩
  | cons data rest ih =>
    cases usable : (one.ingest into labeler data).1 with
    | false =>
      obtain ⟨silent, unchanged⟩ := ingest_unused usable
      obtain ⟨verdicts, writes, after⟩ := ih (unchanged.trans alike)
      rw [used_cons_of_unused usable]
      refine ⟨verdicts, ?_, after⟩
      rw [allAsked, silent, List.nil_append, writes]
    | true =>
      obtain ⟨verdict, same, next⟩ := ingest_alike into labeler alike data
      obtain ⟨verdicts, writes, after⟩ := ih next
      rw [used_cons_of_used usable]
      refine ⟨?_, ?_, after⟩
      · rw [Collector.verdicts, verdicts, ← verdict, usable, List.map_cons]
      · rw [allAsked, allAsked, same, writes]

/-- A stream without the datagrams that could not be used is used as a whole, and leaves the
tracker with its session, its counters and its sink as it would be with them. -/
theorem ingestAll_used (into : Sink σ) (labeler : Nat → String) (collector : Collector σ)
    (stream : List (List UInt8)) :
    let used := collector.used into labeler stream
    let reached := collector.ingestAll into labeler stream
    let again := collector.ingestAll into labeler used
    collector.verdicts into labeler used = used.map (fun _ => true) ∧
      again.tracker = reached.tracker ∧ again.snapshot = reached.snapshot ∧
      again.stats.tracker = reached.stats.tracker ∧
      collector.allAsked into labeler used = collector.allAsked into labeler stream := by
  intro used reached again
  have unchanged : Alike collector collector := ⟨rfl, rfl⟩
  obtain ⟨verdicts, writes, -, tracker⟩ := used_again into labeler stream unchanged
  have same : again.tracker = reached.tracker := tracker.symm
  exact ⟨verdicts, same, congrArg Tracker.snapshot same, congrArg Tracker.stats same, writes⟩

end LapTelemetry.Collector
