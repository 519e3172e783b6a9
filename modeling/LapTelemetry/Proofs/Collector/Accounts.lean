import LapTelemetry.Proofs.Collector.Stream
import LapTelemetry.Proofs.Session.History

/-! # What a collector counts

A collector is called with datagrams, which it ingests or processes. An ingested
datagram is counted as received and once more, as processed or as a loss of one sort
(`Fault.loss`); a datagram that is processed moves no counter of the collector
(`process_counts`). Whatever the calls are and however they are mixed, the counters are
therefore numbers of calls, what has been received is what has been processed or lost,
and the counters of the tracker are those of a tracker that handles the decoded packets
by itself (`calls_accounted`). -/

namespace LapTelemetry

open LapTelemetry.Datagram LapTelemetry.Point LapTelemetry.Session

set_option autoImplicit false

/-! ## Losses -/

/-- How a datagram may be lost, as far as it is counted. -/
inductive Loss where
  | unknown
  | malformed
  | dropped
  deriving DecidableEq, Repr

/-- The loss that a fault is counted as: an unknown kind, a wrong size, or anything else. -/
def Fault.loss : Fault → Loss
  | .unknownPacket _ _ _ => .unknown
  | .sizeMismatch _ _ _ => .malformed
  | .truncated _ _ => .malformed
  | _ => .dropped

namespace DatagramCounts

/-- The counter of a loss. -/
def lost (counts : DatagramCounts) : Loss → Nat
  | .unknown => counts.unknown
  | .malformed => counts.malformed
  | .dropped => counts.dropped

/-- What has been received has been processed or lost. -/
def Balanced (counts : DatagramCounts) : Prop :=
  counts.received = counts.processed + counts.unknown + counts.malformed + counts.dropped

theorem count_ok (counts : DatagramCounts) :
    counts.count (.ok ()) =
      { counts with received := counts.received + 1, processed := counts.processed + 1 } :=
  rfl

theorem count_error (counts : DatagramCounts) (fault : Fault) :
    (counts.count (.error fault)).received = counts.received + 1 ∧
      (counts.count (.error fault)).processed = counts.processed ∧
      ∀ loss, (counts.count (.error fault)).lost loss =
        counts.lost loss + if fault.loss = loss then 1 else 0 := by
  cases fault
  all_goals
    refine ⟨rfl, rfl, fun loss => ?_⟩
    cases loss <;> rfl

theorem Balanced.count {counts : DatagramCounts} (balanced : counts.Balanced)
    (outcome : Except Fault Unit) : (counts.count outcome).Balanced := by
  unfold Balanced at balanced ⊢
  cases outcome with
  | ok done =>
    rw [count_ok]
    dsimp only
    omega
  | error fault =>
    obtain ⟨received, processed, lost⟩ := count_error counts fault
    have unknown := lost .unknown
    have malformed := lost .malformed
    have dropped := lost .dropped
    simp only [DatagramCounts.lost] at unknown malformed dropped
    rw [received, processed, unknown, malformed, dropped]
    cases fault.loss <;> simp <;> omega

end DatagramCounts

namespace Collector

variable {σ : Type} (into : Sink σ) (labeler : Nat → String)

/-! ## Calls -/

/-- A call of a collector. -/
inductive Call where
  | ingest (datagram : List UInt8)
  | process (datagram : List UInt8)

namespace Call

def datagram : Call → List UInt8
  | ingest datagram => datagram
  | process datagram => datagram

def isIngest : Call → Bool
  | ingest _ => true
  | process _ => false

end Call

/-- What a call returns: whether an ingested datagram was used, or the outcome of processing. -/
inductive Reply where
  | used (whether : Bool)
  | outcome (outcome : Except Fault Unit)

def Reply.isUsed : Reply → Bool
  | used whether => whether
  | outcome _ => false

/-- A call that has been answered. -/
structure Called (σ : Type) where
  call : Call
  before : Collector σ
  reply : Reply
  after : Collector σ

/-- Answer a call. -/
def called (collector : Collector σ) (call : Call) : Called σ :=
  match call with
  | .ingest datagram =>
    let next := collector.ingest into labeler datagram
    ⟨call, collector, .used next.1, next.2⟩
  | .process datagram =>
    let next := collector.process into labeler datagram
    ⟨call, collector, .outcome next.1, next.2⟩

/-- Answer calls one after the other. -/
def calls : Collector σ → List Call → List (Called σ)
  | _, [] => []
  | collector, call :: rest =>
    let entry := collector.called into labeler call
    entry :: calls entry.after rest

/-- The collector after calls. -/
def afterCalls (collector : Collector σ) (list : List Call) : Collector σ :=
  list.foldl (fun collector call => (collector.called into labeler call).after) collector

/-- The loss of a datagram that has been ingested and could not be used. -/
def Called.loss? (called : Called σ) : Option Loss :=
  match called.call with
  | .process _ => none
  | .ingest datagram =>
    match (called.before.process into labeler datagram).1 with
    | .ok _ => none
    | .error fault => some fault.loss

/-! ## One call -/

section Answer

variable (collector : Collector σ)

theorem ingest_counts (datagram : List UInt8) :
    (collector.ingest into labeler datagram).2.counts =
      collector.counts.count (collector.process into labeler datagram).1 :=
  rfl

theorem process_counts (datagram : List UInt8) :
    (collector.process into labeler datagram).2.counts = collector.counts := by
  unfold process
  split <;> rfl

/-- An ingested datagram that could not be used is counted as received and as one loss. -/
theorem counts_of_ingest_refused (datagram : List UInt8)
    (refused : (collector.ingest into labeler datagram).1 = false) :
    let counts := (collector.ingest into labeler datagram).2.counts
    ∃ fault, (collector.process into labeler datagram).1 = .error fault ∧
      counts.received = collector.counts.received + 1 ∧
      counts.processed = collector.counts.processed ∧
      ∀ loss, counts.lost loss =
        collector.counts.lost loss + if fault.loss = loss then 1 else 0 := by
  intro counts
  have counted : counts = _ := collector.ingest_counts into labeler datagram
  have outcome : (collector.process into labeler datagram).1.isOk = false := refused
  rw [counted]
  cases result : (collector.process into labeler datagram).1 with
  | ok done => rw [result] at outcome; cases outcome
  | error fault => exact ⟨fault, rfl, collector.counts.count_error fault⟩

/-- What one call adds to the counters. -/
theorem called_counts (call : Call) :
    let entry := collector.called into labeler call
    entry.after.counts.received = collector.counts.received + (if call.isIngest then 1 else 0) ∧
      entry.after.counts.processed =
        collector.counts.processed + (if entry.reply.isUsed then 1 else 0) ∧
      ∀ loss, entry.after.counts.lost loss =
        collector.counts.lost loss + if entry.loss? into labeler = some loss then 1 else 0 := by
  intro entry
  cases call with
  | process datagram =>
    have counted : entry.after.counts = _ := collector.process_counts into labeler datagram
    rw [counted]
    exact ⟨rfl, rfl, fun _ => rfl⟩
  | ingest datagram =>
    have counted : entry.after.counts = _ := collector.ingest_counts into labeler datagram
    have used : entry.reply.isUsed = (collector.process into labeler datagram).1.isOk := rfl
    have lost : entry.loss? into labeler =
        match (collector.process into labeler datagram).1 with
        | .ok _ => none
        | .error fault => some fault.loss := rfl
    rw [counted, used, lost]
    cases (collector.process into labeler datagram).1 with
    | ok done => exact ⟨rfl, rfl, fun loss => by cases loss <;> rfl⟩
    | error fault =>
      obtain ⟨received, processed, lost⟩ := collector.counts.count_error fault
      refine ⟨received, processed, fun loss => ?_⟩
      simpa only [Option.some.injEq] using lost loss

theorem balanced_called (call : Call) (balanced : collector.counts.Balanced) :
    (collector.called into labeler call).after.counts.Balanced := by
  cases call with
  | ingest datagram => exact balanced.count _
  | process datagram =>
    show (collector.process into labeler datagram).2.counts.Balanced
    rwa [process_counts]

/-- The packet of a call, if its datagram can be decoded. -/
def Call.packet? (dispatcher : Dispatcher) (call : Call) : Option Packet :=
  (dispatcher.dispatch call.datagram).toOption

theorem process_tracker (datagram : List UInt8) :
    (collector.process into labeler datagram).2.dispatcher = collector.dispatcher ∧
      (collector.process into labeler datagram).2.tracker = collector.tracker.run into labeler
        (collector.dispatcher.dispatch datagram).toOption.toList := by
  unfold process
  cases collector.dispatcher.dispatch datagram with
  | error fault => exact ⟨rfl, rfl⟩
  | ok packet => exact ⟨rfl, rfl⟩

/-- Whichever call it is, the tracker handles the packet and the dispatcher stays. -/
theorem called_tracker (call : Call) :
    (collector.called into labeler call).after.dispatcher = collector.dispatcher ∧
      (collector.called into labeler call).after.tracker =
        collector.tracker.run into labeler (call.packet? collector.dispatcher).toList := by
  cases call with
  | ingest datagram => exact collector.process_tracker into labeler datagram
  | process datagram => exact collector.process_tracker into labeler datagram

end Answer

/-! ## Many calls -/

section Answers

variable (list : List Call) (collector : Collector σ)

variable {into labeler list collector} in
theorem eq_called_of_mem_calls {entry : Called σ}
    (entered : entry ∈ collector.calls into labeler list) :
    entry = entry.before.called into labeler entry.call := by
  induction list generalizing collector with
  | nil => cases entered
  | cons call rest ih =>
    rcases List.mem_cons.mp entered with rfl | behind
    · cases call <;> rfl
    · exact ih behind

theorem balanced_calls (balanced : collector.counts.Balanced) :
    (collector.afterCalls into labeler list).counts.Balanced ∧
      ∀ entry ∈ collector.calls into labeler list, entry.after.counts.Balanced := by
  induction list generalizing collector with
  | nil => exact ⟨balanced, fun _ entered => nomatch entered⟩
  | cons call rest ih =>
    have next := collector.balanced_called into labeler call balanced
    obtain ⟨last, behind⟩ := ih _ next
    exact ⟨last, List.forall_mem_cons.mpr ⟨next, behind⟩⟩

/-- Every counter is a number of calls. -/
theorem calls_counts :
    let log := collector.calls into labeler list
    let counts := (collector.afterCalls into labeler list).counts
    counts.received = collector.counts.received + list.countP (·.isIngest) ∧
      counts.processed = collector.counts.processed + log.countP (·.reply.isUsed) ∧
      ∀ loss, counts.lost loss = collector.counts.lost loss +
        log.countP (fun entry => entry.loss? into labeler = some loss) := by
  induction list generalizing collector with
  | nil => exact ⟨rfl, rfl, fun _ => rfl⟩
  | cons call rest ih =>
    obtain ⟨received, processed, lost⟩ := collector.called_counts into labeler call
    obtain ⟨allReceived, allProcessed, allLost⟩ := ih (collector.called into labeler call).after
    simp only [calls, List.countP_cons, decide_eq_true_eq]
    refine ⟨?_, ?_, fun loss => ?_⟩
    · rw [received, Nat.add_assoc, Nat.add_comm (ite _ _ _)] at allReceived
      exact allReceived
    · rw [processed, Nat.add_assoc, Nat.add_comm (ite _ _ _)] at allProcessed
      exact allProcessed
    · have all := allLost loss
      rw [lost, Nat.add_assoc, Nat.add_comm (ite _ _ _)] at all
      exact all

/-- Between the calls the tracker goes on as if it had the packets to itself. -/
theorem afterCalls_tracker :
    (collector.afterCalls into labeler list).tracker =
      collector.tracker.run into labeler (list.filterMap (·.packet? collector.dispatcher)) := by
  induction list generalizing collector with
  | nil => rfl
  | cons call rest ih =>
    obtain ⟨dispatcher, tracker⟩ := collector.called_tracker into labeler call
    have behind := ih (collector.called into labeler call).after
    rw [dispatcher, tracker, ← Tracker.run_append] at behind
    refine behind.trans (congrArg _ ?_)
    rw [List.filterMap_cons]
    cases call.packet? collector.dispatcher with
    | none => rfl
    | some packet => rfl

end Answers

/-- Whatever is ingested and processed, in whatever order: what has been received has been processed
or lost, at every point. Received are the datagrams that were ingested, and processed those that
could be used. One that could not raises the counter of its loss by one, and besides only that of
the received; one that is processed raises none. The counters of the tracker are shown with them,
and they are those of a tracker that handles the decoded packets by itself. -/
theorem calls_accounted (dispatcher : Dispatcher) (tracker : Tracker σ) (list : List Call) :
    let fresh : Collector σ := ⟨dispatcher, tracker, .zero⟩
    let log := fresh.calls into labeler list
    let reached := fresh.afterCalls into labeler list
    let counts := reached.stats.counts
    (∀ entry ∈ log, entry.after.stats.counts.Balanced) ∧
      counts.received = counts.processed + counts.unknown + counts.malformed + counts.dropped ∧
      counts.received = list.countP (·.isIngest) ∧
      counts.processed = log.countP (·.reply.isUsed) ∧
      (∀ loss, counts.lost loss =
        log.countP (fun entry => entry.loss? into labeler = some loss)) ∧
      (∀ entry ∈ log, ∀ datagram, entry.call = .process datagram →
        entry.after.stats.counts = entry.before.stats.counts) ∧
      (∀ entry ∈ log, ∀ datagram, entry.call = .ingest datagram →
        entry.reply = .used false →
          ∃ fault, (entry.before.process into labeler datagram).1 = .error fault ∧
            entry.after.stats.counts.received = entry.before.stats.counts.received + 1 ∧
            entry.after.stats.counts.processed = entry.before.stats.counts.processed ∧
            ∀ loss, entry.after.stats.counts.lost loss =
              entry.before.stats.counts.lost loss + if fault.loss = loss then 1 else 0) ∧
      (∀ entry ∈ log, entry.after.stats.tracker = entry.after.tracker.stats) ∧
      reached.stats.tracker = reached.tracker.stats ∧
      reached.tracker = tracker.run into labeler (list.filterMap (·.packet? dispatcher)) := by
  intro fresh log reached counts
  obtain ⟨received, processed, lost⟩ := calls_counts into labeler list fresh
  obtain ⟨balanced, balancedWithin⟩ := balanced_calls into labeler list fresh rfl
  refine ⟨balancedWithin, balanced, received.trans (Nat.zero_add _),
    processed.trans (Nat.zero_add _), fun loss => (lost loss).trans ?_, ?_, ?_,
    fun _ _ => rfl, rfl, afterCalls_tracker into labeler list fresh⟩
  · cases loss <;> exact Nat.zero_add _
  · intro entry entered datagram call
    rw [eq_called_of_mem_calls entered, call]
    exact entry.before.process_counts into labeler datagram
  · intro entry entered datagram call refused
    rw [eq_called_of_mem_calls entered, call] at refused ⊢
    exact entry.before.counts_of_ingest_refused into labeler datagram (Reply.used.inj refused)

end Collector

end LapTelemetry
