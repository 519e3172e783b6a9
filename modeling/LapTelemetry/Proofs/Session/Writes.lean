import LapTelemetry.Proofs.Session.Neighbours
import LapTelemetry.Proofs.Session.SinkIndependence

/-! # What is written, and for which lap

Writes leave a session from several places, some of them before and some behind the
change of the sector or the lap that the same packet makes. `Asked` lists them: the
weather of a session packet and the damage go to the live measurement, and to a lap go
the telemetry, the times at its end and the tyre. Whichever packet is handled, whatever
it asks for is in the list (`asked_of_decided`), so a write to a lap always has the
label of the session that is followed and the lap that the packet has met, and this lap
is not lap 0.

Over a whole run this says who may write at all, and when (`run_writes`). A sink that
remembers every write has taken them all, and the counters of the tracker are how many
of each sort it holds (`recorded_run`). -/

namespace LapTelemetry.Point.Write

set_option autoImplicit false

/-- The write goes to a lap. -/
def isLap : Write → Bool
  | .lap _ _ _ => true
  | .live _ => false

end LapTelemetry.Point.Write

namespace LapTelemetry.Session

open LapTelemetry.Datagram LapTelemetry.Point LapTelemetry.Wire

set_option autoImplicit false

/-- The names of the fields with the tyre. -/
def tyreNames : List String := ["tyre_compound", "tyre_age"]

/-! ## Writes to a lap -/

section Session

variable {state : State} {write : Write}

theorem mem_lapWrites_iff {fields : Fields} :
    write ∈ state.lapWrites fields ↔
      1 ≤ state.lap ∧ write = .lap state.label state.lap fields := by
  unfold State.lapWrites
  by_cases before : state.lap = 0
  · simp [before]
  · rw [if_neg before, List.mem_singleton]
    exact ⟨fun same => ⟨Nat.one_le_iff_ne_zero.mpr before, same⟩, fun both => both.2⟩

/-- A point of the lap that a session is in, with the times of the lap or the tyre. -/
def ReportsLap (state : State) (write : Write) : Prop :=
  1 ≤ state.lap ∧ ∃ fields : Fields, (fields.names = timingNames ∨ fields.names = tyreNames) ∧
    write = .lap state.label state.lap fields

theorem reportsLap_of_tyre (asked : write ∈ state.tyreWrites) : ReportsLap state write := by
  have named := tyreWrites_names asked
  unfold State.tyreWrites at asked
  split at asked
  · obtain ⟨driving, rfl⟩ := mem_lapWrites_iff.mp asked
    exact ⟨driving, _, .inr named, rfl⟩
  · cases asked

/-- What a report asks for goes to the lap that it has found, also where it begins another. -/
theorem reportsLap_of_lapReaction {report : LapReport}
    (asked : write ∈ (state.lapReaction report).writes) : ReportsLap state write := by
  obtain ⟨times, entered⟩ := state.exists_enterSector_eq report.record report.sector
  -- Entering a sector keeps the label and the lap, and a point goes by these two.
  have tyre (among : write ∈ (state.enterSector report.record report.sector).tyreWrites) :
      ReportsLap state write := by
    have there := reportsLap_of_tyre among
    rw [entered] at there
    exact there
  simp only [State.lapReaction, List.mem_append] at asked
  rcases asked with (sector | timing) | lap
  · split at sector
    · cases sector
    · exact tyre sector
  · have named := timing_names timing
    unfold State.timing at timing
    rw [entered] at timing
    dsimp only at timing
    split at timing
    · cases timing
    · obtain ⟨driving, rfl⟩ := mem_lapWrites_iff.mp timing
      exact ⟨driving, _, .inl named, rfl⟩
  · split at lap
    · cases lap
    · exact tyre lap

end Session

/-! ## One packet -/

/-- What a packet may ask for while it takes one session to another. -/
inductive Asked (packet : Packet) : Option State → Option State → Write → Prop where
  | weather {before after : Option State} (kind : packet.kind = .session) (fields : Fields) :
      Asked packet before after (.live fields)
  | damage {state : State} (kind : packet.kind = .carDamage) (fields : Fields) :
      Asked packet (some state) (some state) (.live fields)
  | telemetry {state after : State} (kind : packet.kind = .carTelemetry) (driving : 1 ≤ state.lap)
      (label : after.label = state.label) (lap : after.lap = state.lap) (fields : Fields) :
      Asked packet (some state) (some after) (.lap state.label state.lap fields)
  | lapData {state after : State} (kind : packet.kind = .lapData) (driving : 1 ≤ state.lap)
      (label : after.label = state.label) {fields : Fields}
      (named : fields.names = timingNames ∨ fields.names = tyreNames) :
      Asked packet (some state) (some after) (.lap state.label state.lap fields)

namespace Asked

variable {packet : Packet} {before after : Option State}

/-- Motion and status packets are not in the list. -/
theorem kind_ne {write : Write} (asked : Asked packet before after write) :
    packet.kind ≠ .motion ∧ packet.kind ≠ .carStatus := by
  cases asked <;> simp [*]

/-- A write to a lap is for the session that is followed and the lap that the packet has met. -/
theorem of_lap {label : String} {number : Nat} {fields : Fields}
    (asked : Asked packet before after (.lap label number fields)) :
    1 ≤ number ∧ ∃ met reached, before = some met ∧ after = some reached ∧ met.label = label ∧
      reached.label = label ∧ met.lap = number ∧
      (packet.kind = .carTelemetry ∧ reached.lap = number ∨
        packet.kind = .lapData ∧ (fields.names = timingNames ∨ fields.names = tyreNames)) := by
  cases asked with
  | telemetry kind driving same stays =>
    exact ⟨driving, _, _, rfl, rfl, rfl, same, rfl, .inl ⟨kind, stays⟩⟩
  | lapData kind driving same named =>
    exact ⟨driving, _, _, rfl, rfl, rfl, same, rfl, .inr ⟨kind, named⟩⟩

end Asked

/-- A session packet reports the weather, whether or not it starts a session. -/
theorem onSession_writes (before : Option State) (label : String) (packet : Packet) :
    (onSession before label packet).writes =
      if (weatherFields packet.body).entries.isEmpty then []
      else [.live (weatherFields packet.body)] := by
  unfold onSession
  cases before with
  | none => rfl
  | some state =>
    dsimp only
    split <;> rfl

/-- A packet that only lays a change over the session asks for nothing. -/
theorem writes_of_lays {packet : Packet} {laid : Except Fault (State → State)} {state : State}
    {label : String} {reaction : Reaction} (lays : Lays packet laid)
    (decided : react (some state) label packet = .ok reaction) : reaction.writes = [] := by
  rw [lays] at decided
  cases laid with
  | error fault => cases decided
  | ok change =>
    cases decided
    rfl

theorem asked_of_react {before : Option State} {label : String} {packet : Packet}
    {reaction : Reaction} {write : Write} (decided : react before label packet = .ok reaction)
    (asked : write ∈ reaction.writes) : Asked packet before reaction.state write := by
  by_cases kind : packet.kind = .session
  · simp only [react, kind] at decided
    cases decided
    rw [onSession_writes] at asked
    split at asked
    · cases asked
    · rw [List.mem_singleton.mp asked]
      exact .weather kind _
  cases before with
  | none =>
    rw [react_of_idle label kind] at decided
    cases decided
    cases asked
  | some state =>
    cases other : packet.kind with
    | session => exact absurd other kind
    | motion =>
      rw [writes_of_lays (lays_motion other) decided] at asked
      cases asked
    | carTelemetry =>
      simp only [react, other, onTelemetry] at decided
      cases waiting : state.pendingMotion with
      | none => rw [waiting] at decided; cases decided
      | some sample =>
        rw [waiting] at decided
        obtain ⟨telemetry, -, done⟩ := bind_eq_ok.mp decided
        cases done
        obtain ⟨driving, rfl⟩ := mem_lapWrites_iff.mp asked
        refine .telemetry other driving ?_ ?_ _ <;> rfl
    | lapData =>
      obtain ⟨report, -, rfl⟩ := react_lapData decided other
      obtain ⟨driving, fields, named, rfl⟩ := reportsLap_of_lapReaction asked
      obtain ⟨sector, times, tyre, reached⟩ := state.exists_report_eq report
      refine .lapData other driving ?_ named
      rw [reached]
    | carStatus =>
      rw [writes_of_lays (lays_tyre other) decided] at asked
      cases asked
    | carDamage =>
      simp only [react, other, onDamage] at decided
      obtain ⟨damage, -, done⟩ := bind_eq_ok.mp decided
      cases done
      rw [List.mem_singleton.mp asked]
      exact .damage other _

/-- Whatever a packet asks for is in the list. -/
theorem asked_of_decided {before : Option State} {label : String} {packet : Packet} {write : Write}
    (asked : write ∈ (Handled.decided before label packet).writes) :
    Asked packet before (Handled.decided before label packet).after write := by
  cases decision : react before label packet with
  | error fault =>
    rw [Handled.decided_of_refusal decision] at asked
    cases asked
  | ok reaction =>
    rw [Handled.decided_of_reaction decision] at asked ⊢
    exact asked_of_react decision asked

/-! ## A whole run -/

namespace Tracker

variable {σ : Type}

section Run

variable (into : Sink σ) (labeler : Nat → String) (tracker : Tracker σ)

theorem history_packets (packets : List Packet) :
    (tracker.history into labeler packets).map (·.packet) = packets := by
  induction packets generalizing tracker with
  | nil => rfl
  | cons packet rest ih => rw [history, List.map_cons, ih]

theorem asked_of_mem_history {packets : List Packet} {handled : Handled} {write : Write}
    (entered : handled ∈ tracker.history into labeler packets) (asked : write ∈ handled.writes) :
    Asked handled.packet handled.before handled.after write := by
  obtain ⟨before, label, entry⟩ := exists_decided_of_mem_history into labeler entered
  rw [entry] at asked ⊢
  rw [Handled.decided_packet, Handled.decided_before]
  exact asked_of_decided asked

/-- Without a session, packets of other kinds ask for nothing and leave it at that. -/
theorem attempts_of_idle (packets : List Packet) (idle : tracker.state = none)
    (others : ∀ packet ∈ packets, packet.kind ≠ .session) :
    tracker.attempts into labeler packets = [] := by
  induction packets with
  | nil => rfl
  | cons packet rest ih =>
    obtain ⟨other, behind⟩ := List.forall_mem_cons.mp others
    have ignored := react_of_idle (labeler tracker.labelsGiven) other
    rw [← idle] at ignored
    rw [attempts, attempted_of_reaction ignored, handle_of_idle idle other]
    exact ih behind

end Run

/-! ## A sink that remembers -/

/-- The counters are what the sink holds of either sort, and no write was refused. -/
structure Recorded (tracker : Tracker (List Write)) : Prop where
  laps : tracker.sink.countP (·.isLap) = tracker.stats.lapPoints
  lives : tracker.sink.countP (!·.isLap) = tracker.stats.livePoints
  refused : tracker.stats.sinkErrors = 0

theorem Recorded.deliver {tracker : Tracker (List Write)} (recorded : tracker.Recorded)
    (write : Write) : (tracker.deliver .memory write).Recorded := by
  obtain ⟨laps, lives, refused⟩ := recorded
  cases write with
  | lap label number fields =>
    refine ⟨?_, ?_, refused⟩
    · simpa [Tracker.deliver, Sink.memory, TrackerStats.count, Write.isLap] using laps
    · simpa [Tracker.deliver, Sink.memory, TrackerStats.count, Write.isLap] using lives
  | live fields =>
    refine ⟨?_, ?_, refused⟩
    · simpa [Tracker.deliver, Sink.memory, TrackerStats.count, Write.isLap] using laps
    · simpa [Tracker.deliver, Sink.memory, TrackerStats.count, Write.isLap] using lives

theorem foldl_deliver_memory (writes : List Write) (tracker : Tracker (List Write)) :
    (writes.foldl (deliver .memory) tracker).sink = tracker.sink ++ writes := by
  induction writes generalizing tracker with
  | nil => rw [List.append_nil]; rfl
  | cons write rest ih =>
    rw [List.foldl_cons, ih]
    simp [Tracker.deliver, Sink.memory]

/-- A packet whose writes are remembered. -/
theorem recorded_handle (labeler : Nat → String) {tracker : Tracker (List Write)}
    (recorded : tracker.Recorded) (packet : Packet) :
    (tracker.handle .memory labeler packet).2.Recorded ∧
      (tracker.handle .memory labeler packet).2.sink =
        tracker.sink ++ tracker.attempted .memory labeler packet := by
  cases decision : react tracker.state (labeler tracker.labelsGiven) packet with
  | error fault =>
    rw [handle_of_refusal decision, attempted_of_refusal decision]
    exact ⟨recorded, (List.append_nil _).symm⟩
  | ok reaction =>
    rw [handle_of_reaction decision, attempted_of_reaction decision]
    refine ⟨?_, foldl_deliver_memory ..⟩
    have taken : (tracker.take reaction).Recorded := ⟨recorded.laps, recorded.lives, recorded.refused⟩
    generalize tracker.take reaction = begun at taken
    induction reaction.writes generalizing begun with
    | nil => exact taken
    | cons write rest ih => exact ih _ (taken.deliver write)

/-- A run into a sink that remembers: everything asked for is there, in order, and counted. -/
theorem recorded_run (labeler : Nat → String) (packets : List Packet)
    {tracker : Tracker (List Write)} (recorded : tracker.Recorded) :
    (tracker.run .memory labeler packets).Recorded ∧
      (tracker.run .memory labeler packets).sink =
        tracker.sink ++ (tracker.attempts .memory labeler packets).map (·.2) := by
  induction packets generalizing tracker with
  | nil => exact ⟨recorded, (List.append_nil _).symm⟩
  | cons packet rest ih =>
    obtain ⟨next, sink⟩ := recorded_handle labeler recorded packet
    obtain ⟨last, held⟩ := ih next
    refine ⟨last, ?_⟩
    rw [attempts, List.map_append, attempts_writes, ← List.append_assoc, ← sink]
    exact held

/-! ## Every run -/

/-- Before the first session packet nothing is asked for. Of what is asked for then, each write to a
lap goes to the session that is followed and to the lap that its packet has met, which is not lap 0:
telemetry to the lap that is current before and behind, times and tyre to the one that a lap packet
has found. Motion and status packets ask for nothing. An empty sink that remembers holds what was
asked for, and of each sort as many as are counted. -/
theorem run_writes (into : Sink σ) (labeler : Nat → String) (sink : σ) (packets : List Packet) :
    let log := (Tracker.start sink).history into labeler packets
    let asked := (Tracker.start sink).attempts into labeler packets
    let remembering := (Tracker.start []).run .memory labeler packets
    Effect.history into labeler (.start sink) packets = log ∧
      asked = log.flatMap (fun handled => handled.writes.map (handled.packet, ·)) ∧
      (∀ earlier later, log = earlier ++ later →
        (∀ handled ∈ earlier, handled.packet.kind ≠ .session) →
          ∀ handled ∈ earlier, handled.writes = []) ∧
      (∀ handled ∈ log,
        (handled.packet.kind = .motion ∨ handled.packet.kind = .carStatus → handled.writes = []) ∧
        ∀ label number fields, .lap label number fields ∈ handled.writes →
          1 ≤ number ∧ ∃ before after, handled.before = some before ∧ handled.after = some after ∧
            before.label = label ∧ after.label = label ∧ before.lap = number ∧
            (handled.packet.kind = .carTelemetry ∧ after.lap = number ∨
              handled.packet.kind = .lapData ∧
                (fields.names = timingNames ∨ fields.names = tyreNames))) ∧
      remembering.sink = asked.map (·.2) ∧
      remembering.sink.countP (·.isLap) = remembering.stats.lapPoints ∧
      remembering.sink.countP (!·.isLap) = remembering.stats.livePoints := by
  intro log asked remembering
  have attempted : asked = log.flatMap fun handled => handled.writes.map (handled.packet, ·) :=
    attempts_eq_history into labeler (.start sink) packets
  refine ⟨Effect.history_eq into labeler _ packets, attempted, ?_, ?_, ?_⟩
  · intro earlier later split others handled entered
    obtain ⟨front, rest, rfl, rfl, -⟩ := exists_of_history_eq_append into labeler _ _ split
    have idle : ∀ packet ∈ front, packet.kind ≠ .session := by
      rw [← history_packets into labeler (.start sink) front]
      simpa using others
    have nothing := attempts_of_idle into labeler (.start sink) front rfl idle
    rw [attempts_eq_history, List.flatMap_eq_nil_iff] at nothing
    exact List.map_eq_nil_iff.mp (nothing handled entered)
  · intro handled entered
    have sound (write : Write) (among : write ∈ handled.writes) :=
      asked_of_mem_history into labeler (.start sink) entered among
    constructor
    · intro kind
      refine List.eq_nil_iff_forall_not_mem.mpr fun write among => ?_
      obtain ⟨motion, status⟩ := (sound write among).kind_ne
      rcases kind with isMotion | isStatus
      · exact motion isMotion
      · exact status isStatus
    · intro label number fields among
      exact (sound _ among).of_lap
  · obtain ⟨held, contents⟩ := recorded_run labeler packets
      (show (Tracker.start ([] : List Write)).Recorded from ⟨rfl, rfl, rfl⟩)
    obtain ⟨same, -⟩ := history_congr .memory into labeler labeler (.start []) (.start sink) packets
      rfl fun _ _ => rfl
    have alike : (Tracker.start []).attempts .memory labeler packets = asked := by
      rw [attempted, attempts_eq_history, same]
    rw [alike] at contents
    exact ⟨contents, held.laps, held.lives⟩

-- Three changes of the sector report the tyre, and the end of lap 4 its times and the tyre again;
-- the damage is live.
example : ((Tracker.start []).run .memory (fun _ => "S1") fourthLap).stats = ⟨1, 5, 1, 0⟩ := rfl

end Tracker

end LapTelemetry.Session
