import LapTelemetry.Proofs.Session.Starts

/-! # What a sink has no say in

A sink may refuse a write for whatever reason, and it is asked in the middle of a
handler, which goes on changing the session behind the write. All that its answer
changes is a counter that nobody reads: with any other sink the same packets are
refused for the same reasons, the session goes through the same states, and the same
writes are asked for in the same order (`run_sinks`). This is said of packets that are
decided on as a whole and of packets that are performed one effect after the other
(`Effect.history`).

Every write that is asked for is counted once, as written or as refused. -/

namespace LapTelemetry.Session

open LapTelemetry.Datagram LapTelemetry.Point

set_option autoImplicit false

/-! ## Counted writes -/

/-- How many writes a sink has answered. -/
def TrackerStats.answered (stats : TrackerStats) : Nat :=
  stats.lapPoints + stats.livePoints + stats.sinkErrors

theorem TrackerStats.answered_count (stats : TrackerStats) (write : Write)
    (outcome : Except Fault Unit) : (stats.count write outcome).answered = stats.answered + 1 := by
  unfold count answered
  cases outcome with
  | error fault => rfl
  | ok _ =>
    cases write with
    | lap label number fields => dsimp only; omega
    | live fields => dsimp only; omega

namespace Tracker

variable {σ : Type} (into : Sink σ) (labeler : Nat → String)

theorem foldl_deliver_answered (writes : List Write) (tracker : Tracker σ) :
    (writes.foldl (deliver into) tracker).stats.answered =
      tracker.stats.answered + writes.length := by
  induction writes generalizing tracker with
  | nil => rfl
  | cons write rest ih =>
    have counted : (tracker.deliver into write).stats.answered = tracker.stats.answered + 1 :=
      TrackerStats.answered_count ..
    rw [List.foldl_cons, ih, counted, List.length_cons]
    omega

theorem handle_answered (tracker : Tracker σ) (packet : Packet) :
    (tracker.handle into labeler packet).2.stats.answered =
      tracker.stats.answered + (tracker.attempted into labeler packet).length := by
  cases decision : react tracker.state (labeler tracker.labelsGiven) packet with
  | error fault => rw [handle_of_refusal decision, attempted_of_refusal decision]; rfl
  | ok reaction =>
    rw [handle_of_reaction decision, attempted_of_reaction decision, foldl_deliver_answered]
    rfl

theorem run_answered (tracker : Tracker σ) (packets : List Packet) :
    (tracker.run into labeler packets).stats.answered =
      tracker.stats.answered + (tracker.attempts into labeler packets).length := by
  induction packets generalizing tracker with
  | nil => rfl
  | cons packet rest ih =>
    rw [attempts, List.length_append, List.length_map, ← Nat.add_assoc, ← handle_answered]
    exact ih _

end Tracker

/-! ## Packets performed in turn -/

namespace Effect

variable {σ : Type}

/-- The history of a run in which every packet is performed one effect after the other. -/
def history (into : Sink σ) (labeler : Nat → String) : Tracker σ → List Packet → List Handled
  | _, [] => []
  | tracker, packet :: rest =>
    let next := perform into labeler packet tracker
    let noted := (perform into.recording labeler packet (tracker.noting [])).2.sink.2
    ⟨packet, tracker.state, next.1, noted, next.2.state⟩ :: history into labeler next.2 rest

theorem history_eq (into : Sink σ) (labeler : Nat → String) (tracker : Tracker σ)
    (packets : List Packet) :
    history into labeler tracker packets = tracker.history into labeler packets := by
  induction packets generalizing tracker with
  | nil => rfl
  | cons packet rest ih =>
    rw [history, Tracker.history, perform_eq_handle, perform_eq_handle, ih]
    rfl

end Effect

namespace Tracker

/-- Two sinks that are asked by the same packets are asked for the same, whatever either of them
answers, and leave no trace of their answers but in the counters of writes. -/
theorem run_sinks {σ τ : Type} (first : Sink σ) (second : Sink τ) (labeler : Nat → String)
    (one : σ) (other : τ) (packets : List Packet) :
    let here := (Tracker.start one).run first labeler packets
    let there := (Tracker.start other).run second labeler packets
    let asked := (Tracker.start one).attempts first labeler packets
    (Tracker.start one).history first labeler packets =
        (Tracker.start other).history second labeler packets ∧
      Effect.history first labeler (.start one) packets =
        Effect.history second labeler (.start other) packets ∧
      here.state = there.state ∧ here.snapshot = there.snapshot ∧
      here.stats.sessions = there.stats.sessions ∧
      (Tracker.start other).attempts second labeler packets = asked ∧
      here.stats.lapPoints + here.stats.livePoints + here.stats.sinkErrors = asked.length ∧
      there.stats.lapPoints + there.stats.livePoints + there.stats.sinkErrors = asked.length := by
  intro here there asked
  obtain ⟨log, state⟩ := history_congr first second labeler labeler (.start one) (.start other)
    packets rfl fun _ _ => rfl
  have sessions : here.stats.sessions = there.stats.sessions := by
    rw [(run_startCount first labeler (.start one) packets).2,
      (run_startCount second labeler (.start other) packets).2, log]
    rfl
  have same : (Tracker.start other).attempts second labeler packets = asked := by
    unfold asked
    rw [attempts_eq_history, attempts_eq_history, log]
  have counted : here.stats.answered = asked.length :=
    (run_answered first labeler (.start one) packets).trans (Nat.zero_add _)
  have countedThere : there.stats.answered = asked.length := by
    rw [← same]
    exact (run_answered second labeler (.start other) packets).trans (Nat.zero_add _)
  refine ⟨log, ?_, state, congrArg Snapshot.ofState? state, sessions, same, counted, countedThere⟩
  rw [Effect.history_eq, Effect.history_eq, log]

end Tracker

end LapTelemetry.Session
