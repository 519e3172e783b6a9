import LapTelemetry.Proofs.Session.History
import LapTelemetry.Proofs.Session.Stepwise
import LapTelemetry.Proofs.Session.WholeLap

/-! # Starts of sessions

A session packet starts a session if none is followed, or another one. Only then is a
label taken, so of the labels a run sees no more than one for each start, and only a
start hangs on them (`Handled.decided_label`). Two runs over the same packets, from the
same session on and with the same labels for the starts, have the same history,
whatever their sinks make of the writes (`history_congr`).

A start leaves nothing of the session before it. What a run comes to can therefore be
had from its last start alone, by a tracker that has seen nothing before
(`run_starts`). -/

namespace LapTelemetry.Session

open LapTelemetry.Datagram LapTelemetry.Point LapTelemetry.Wire

set_option autoImplicit false

/-! ## One packet -/

namespace Handled

instance (handled : Handled) : Decidable handled.Starts :=
  inferInstanceAs (Decidable (handled.packet.kind = .session ∧
    handled.before.map (·.uid) ≠ some handled.packet.header.sessionUid))

section Decided

variable {before : Option State} {label : String} {packet : Packet} {reaction : Reaction}

/-- Without a start the label makes no difference. -/
theorem decided_label (other : String) (steady : ¬ (decided before label packet).Starts) :
    decided before other packet = decided before label packet := by
  have same : react before other packet = react before label packet := by
    cases before with
    | none =>
      have idle := kind_of_steady steady
      rw [react_of_idle other idle, react_of_idle label idle]
    | some state =>
      cases kind : packet.kind with
      | session => simp only [react, kind, onSession, if_pos (uid_of_steady steady kind).symm]
      | _ => simp only [react, kind]
  simp only [decided, same]

/-- A packet that starts no session leaves the name of the one that is followed. -/
theorem decided_steady (steady : ¬ (decided before label packet).Starts) :
    (decided before label packet).after.map (fun state => (state.uid, state.label)) =
      before.map fun state => (state.uid, state.label) := by
  cases before with
  | none => rw [decided_of_idle (kind_of_steady steady)]
  | some state =>
    by_cases accepted : (decided (some state) label packet).outcome = .ok ()
    · obtain ⟨reaction, decision, entry, same⟩ := exists_reaction accepted steady
      obtain ⟨after, reached, next⟩ := next_of_react decision same
      rw [entry, reached]
      cases next with
      | @lapData report =>
        obtain ⟨sector, times, tyre, reported⟩ := State.exists_report_eq state report
        rw [reported]
        rfl
      | _ => rfl
    · rw [(eq_of_refused accepted).2]

/-- The tracker takes a label and counts a session for a start, and for nothing else. -/
theorem started_iff (accepted : react before label packet = .ok reaction) :
    reaction.started = true ↔ (decided before label packet).Starts := by
  rw [starts_decided_iff]
  by_cases kind : packet.kind = .session
  · simp only [react, kind] at accepted
    cases accepted
    unfold onSession
    cases before with
    | none => simp [kind]
    | some state => by_cases same : state.uid = packet.header.sessionUid <;> simp [same, kind]
  · have unstarted : reaction.started = false := by
      cases before with
      | none =>
        rw [react_of_idle label kind] at accepted
        cases accepted
        rfl
      | some state =>
        have realizes : Effect.Realizes Sink.failing _ state (react (some state) label packet) :=
          Effect.perform_realizes (fun _ => label) label packet kind
        rw [accepted] at realizes
        cases realizes
        rfl
    simp [kind, unstarted]

end Decided

/-- How many sessions start in a history. -/
def startCount (log : List Handled) : Nat := log.countP fun handled => decide handled.Starts

theorem startCount_cons (handled : Handled) (log : List Handled) :
    startCount (handled :: log) = (if handled.Starts then 1 else 0) + startCount log := by
  unfold startCount
  rw [List.countP_cons, Nat.add_comm]
  simp only [decide_eq_true_eq]

theorem startCount_eq_zero_iff {log : List Handled} :
    startCount log = 0 ↔ ∀ handled ∈ log, ¬ handled.Starts := by
  simp only [startCount, List.countP_eq_zero, decide_eq_true_eq]

end Handled

/-! ## Many packets -/

namespace Tracker

variable {σ τ : Type}

theorem foldl_deliver_labelsGiven (into : Sink σ) (writes : List Write) (tracker : Tracker σ) :
    (writes.foldl (deliver into) tracker).labelsGiven = tracker.labelsGiven :=
  foldl_deliver_view (·.labelsGiven) (fun _ _ => rfl) writes tracker

theorem foldl_deliver_sessions (into : Sink σ) (writes : List Write) (tracker : Tracker σ) :
    (writes.foldl (deliver into) tracker).stats.sessions = tracker.stats.sessions := by
  refine foldl_deliver_view (·.stats.sessions) (fun tracker write => ?_) writes tracker
  unfold deliver TrackerStats.count
  dsimp only
  split
  · rfl
  · split
    · rfl
    · rfl

section Runs

variable (into : Sink σ) (labeler : Nat → String)

/-- A start takes one label and counts one session. -/
theorem handle_starts (tracker : Tracker σ) (packet : Packet) :
    (tracker.handle into labeler packet).2.labelsGiven = tracker.labelsGiven +
        (if (Handled.decided tracker.state (labeler tracker.labelsGiven) packet).Starts then 1
          else 0) ∧
      (tracker.handle into labeler packet).2.stats.sessions = tracker.stats.sessions +
        (if (Handled.decided tracker.state (labeler tracker.labelsGiven) packet).Starts then 1
          else 0) := by
  cases decision : react tracker.state (labeler tracker.labelsGiven) packet with
  | error fault =>
    have steady : ¬ (Handled.decided tracker.state (labeler tracker.labelsGiven) packet).Starts := by
      intro starts
      have accepted := (Handled.decided_of_starts starts).1
      rw [Handled.decided_of_refusal decision] at accepted
      cases accepted
    rw [handle_of_refusal decision, if_neg steady]
    exact ⟨rfl, rfl⟩
  | ok reaction =>
    rw [handle_of_reaction decision, foldl_deliver_labelsGiven, foldl_deliver_sessions]
    simp only [take, ← Handled.started_iff decision]
    exact ⟨trivial, trivial⟩

theorem run_startCount (tracker : Tracker σ) (packets : List Packet) :
    (tracker.run into labeler packets).labelsGiven =
        tracker.labelsGiven + Handled.startCount (tracker.history into labeler packets) ∧
      (tracker.run into labeler packets).stats.sessions =
        tracker.stats.sessions + Handled.startCount (tracker.history into labeler packets) := by
  induction packets generalizing tracker with
  | nil => exact ⟨rfl, rfl⟩
  | cons packet rest ih =>
    obtain ⟨labels, sessions⟩ := handle_starts into labeler tracker packet
    obtain ⟨allLabels, allSessions⟩ := ih (tracker.handle into labeler packet).2
    rw [history_cons, Handled.startCount_cons]
    refine ⟨?_, ?_⟩
    · rw [← Nat.add_assoc, ← labels]
      exact allLabels
    · rw [← Nat.add_assoc, ← sessions]
      exact allSessions

theorem length_history (tracker : Tracker σ) (packets : List Packet) :
    (tracker.history into labeler packets).length = packets.length := by
  induction packets generalizing tracker with
  | nil => rfl
  | cons packet rest ih => rw [history_cons, List.length_cons, List.length_cons, ih]

/-- Until the first start nothing happens. -/
theorem run_of_idle (tracker : Tracker σ) (packets : List Packet) (idle : tracker.state = none)
    (steady : ∀ handled ∈ tracker.history into labeler packets, ¬ handled.Starts) :
    tracker.run into labeler packets = tracker ∧
      ∀ handled ∈ tracker.history into labeler packets,
        handled.outcome = .ok () ∧ handled.writes = [] := by
  induction packets with
  | nil => exact ⟨rfl, fun _ mem => absurd mem List.not_mem_nil⟩
  | cons packet rest ih =>
    rw [history_cons] at steady ⊢
    have other : packet.kind ≠ .session :=
      Handled.kind_of_steady (idle ▸ steady _ List.mem_cons_self)
    rw [handle_of_idle idle other] at steady ⊢
    obtain ⟨same, entries⟩ := ih fun handled mem => steady handled (List.mem_cons_of_mem _ mem)
    refine ⟨?_, fun handled mem => ?_⟩
    · rw [run, List.foldl_cons, handle_of_idle idle other]
      exact same
    · rcases List.mem_cons.mp mem with rfl | behind
      · rw [idle, Handled.decided_of_idle other]
        exact ⟨rfl, rfl⟩
      · exact entries handled behind

end Runs

section Congruence

variable (first : Sink σ) (second : Sink τ) (labeler relabeler : Nat → String)

/-- What becomes of packets is settled by the session they meet and by the labels of those that
start another. -/
theorem history_congr (one : Tracker σ) (other : Tracker τ) (packets : List Packet)
    (same : one.state = other.state)
    (labels : ∀ k < Handled.startCount (one.history first labeler packets),
      labeler (one.labelsGiven + k) = relabeler (other.labelsGiven + k)) :
    one.history first labeler packets = other.history second relabeler packets ∧
      (one.run first labeler packets).state = (other.run second relabeler packets).state := by
  induction packets generalizing one other with
  | nil => exact ⟨rfl, same⟩
  | cons packet rest ih =>
    rw [history_cons, Handled.startCount_cons] at labels
    have entry : Handled.decided one.state (labeler one.labelsGiven) packet =
        Handled.decided other.state (relabeler other.labelsGiven) packet := by
      rw [← same]
      by_cases starts : (Handled.decided one.state (labeler one.labelsGiven) packet).Starts
      · have label := labels 0 (by rw [if_pos starts]; omega)
        exact congrArg (Handled.decided one.state · packet) label
      · exact (Handled.decided_label _ starts).symm
    have next : (one.handle first labeler packet).2.state =
        (other.handle second relabeler packet).2.state := by
      rw [handle_after, handle_after, entry]
    obtain ⟨log, reached⟩ := ih _ _ next fun k few => by
      rw [(handle_starts first labeler one packet).1, (handle_starts second relabeler other packet).1,
        ← entry, Nat.add_assoc, Nat.add_assoc]
      exact labels _ (by omega)
    refine ⟨?_, reached⟩
    rw [history_cons, history_cons, entry, log]

/-- From a start on, a tracker that has seen nothing before comes to the same session. -/
theorem run_of_start {tracker : Tracker σ} {packet : Packet} {rest : List Packet}
    (starts : (Handled.decided tracker.state (labeler tracker.labelsGiven) packet).Starts)
    (lastOne : ∀ handled ∈ (tracker.handle first labeler packet).2.history first labeler rest,
      ¬ handled.Starts)
    (fresh : τ) (named : relabeler 0 = labeler tracker.labelsGiven) :
    ((Tracker.start fresh).run second relabeler (packet :: rest)).state =
      (tracker.run first labeler (packet :: rest)).state := by
  have anew : (Handled.decided none (relabeler 0) packet).Starts :=
    Handled.starts_decided_iff.mpr ⟨(Handled.starts_decided_iff.mp starts).1, by simp⟩
  have met : (tracker.handle first labeler packet).2.state =
      ((Tracker.start fresh).handle second relabeler packet).2.state := by
    calc (tracker.handle first labeler packet).2.state
        = some (.start packet.header.sessionUid (labeler tracker.labelsGiven)) := by
          rw [handle_after, (Handled.decided_of_starts starts).2]
      _ = some (.start packet.header.sessionUid (relabeler 0)) := by rw [named]
      _ = (Handled.decided none (relabeler 0) packet).after := (Handled.decided_of_starts anew).2.symm
      _ = _ := (handle_after second relabeler (Tracker.start fresh) packet).symm
  -- Behind the start no label is needed.
  obtain ⟨-, same⟩ := history_congr first second labeler relabeler _ _ rest met fun k few => by
    rw [Handled.startCount_eq_zero_iff.mpr lastOne] at few
    exact absurd few (Nat.not_lt_zero k)
  exact same.symm

end Congruence

/-- Sessions and labels of a run are those of its starts, and what the run comes to is what its
last start and the packets behind it come to, for a tracker that has seen nothing before, with any
sink and any further labels. -/
theorem run_starts (into : Sink σ) (labeler : Nat → String) (sink : σ) (packets : List Packet) :
    let log := (Tracker.start sink).history into labeler packets
    let reached := (Tracker.start sink).run into labeler packets
    (reached.stats.sessions = Handled.startCount log ∧
      reached.labelsGiven = Handled.startCount log) ∧
    (∀ handled ∈ log, ¬ handled.Starts →
      handled.after.map (fun state => (state.uid, state.label)) =
        handled.before.map fun state => (state.uid, state.label)) ∧
    (∀ earlier later, log = earlier ++ later → (∀ handled ∈ earlier, ¬ handled.Starts) →
      (Tracker.start sink).run into labeler (packets.take earlier.length) = .start sink ∧
      ∀ handled ∈ earlier, handled.outcome = .ok () ∧ handled.writes = []) ∧
    ∀ earlier handled later, log = earlier ++ handled :: later → handled.Starts →
      (∀ other ∈ later, ¬ other.Starts) →
        let label := labeler (Handled.startCount earlier)
        handled.outcome = .ok () ∧
        handled.after = some (.start handled.packet.header.sessionUid label) ∧
        ∀ (τ : Type) (other : Sink τ) (fresh : τ) (relabeler : Nat → String), relabeler 0 = label →
          let again := (Tracker.start fresh).run other relabeler (packets.drop earlier.length)
          again.state = reached.state ∧ again.snapshot = reached.snapshot := by
  intro log reached
  obtain ⟨labels, sessions⟩ := run_startCount into labeler (.start sink) packets
  refine ⟨⟨?_, ?_⟩, ?_, ?_, ?_⟩
  · exact sessions.trans (Nat.zero_add _)
  · exact labels.trans (Nat.zero_add _)
  · intro handled mem steady
    obtain ⟨earlier, later, split⟩ := List.append_of_mem mem
    obtain ⟨front, rest, label, -, -, entry⟩ := exists_of_history_eq into labeler _ _ split
    rw [entry] at steady ⊢
    rw [Handled.decided_steady steady, Handled.decided_before]
  · intro earlier later split steady
    obtain ⟨front, rest, rfl, rfl, -⟩ := exists_of_history_eq_append into labeler _ _ split
    rw [length_history, List.take_left]
    exact run_of_idle into labeler (.start sink) front rfl steady
  · intro earlier handled later split starts lastOne label
    obtain ⟨front, behind, rfl, rfl, entries⟩ := exists_of_history_eq_append into labeler _ _ split
    cases behind with
    | nil => cases entries
    | cons packet rest =>
      rw [history_cons] at entries
      obtain ⟨rfl, rfl⟩ := List.cons.inj entries
      have given : labeler ((Tracker.start sink).run into labeler front).labelsGiven = label := by
        rw [(run_startCount into labeler (.start sink) front).1]
        exact congrArg labeler (Nat.zero_add _)
      obtain ⟨accepted, began⟩ := Handled.decided_of_starts starts
      rw [Handled.decided_packet, given]
      refine ⟨by rwa [given] at accepted, by rwa [given] at began, ?_⟩
      intro τ other fresh relabeler named again
      have state : again.state = reached.state := by
        calc again.state
            = ((Tracker.start fresh).run other relabeler (packet :: rest)).state := by
              unfold again
              rw [length_history, List.drop_left]
          _ = _ := run_of_start into other labeler relabeler starts lastOne fresh
              (named.trans given.symm)
          _ = reached.state := by rw [← run_append]
      exact ⟨state, congrArg Snapshot.ofState? state⟩

/-! ## A session that comes back -/

/-- Packets of session 7 and then of session 8, with one before them all. -/
def formerSessions : List Packet :=
  [packetOf .lapData [lapEntries 1 2 29000 0 0], packetOf .session [],
    packetOf .carStatus
      [[("visual_tyre_compound", .natural .uint8 16), ("tyres_age_laps", .natural .uint8 2)]],
    packetOf .motion [[]], packetOf .lapData [lapEntries 1 3 31000 0 0], packetOf .session [],
    ⟨⟨2021, 1, 16, 1, 1, 8, 0, 0, 0, 255⟩, .session, ⟨[]⟩⟩, packetOf .carTelemetry [[]],
    packetOf .motion [[]], packetOf .lapData [lapEntries 2 9 0 30500 0]]

/-- What comes behind the packet with which session 7 is followed again. -/
def comeback : List Packet :=
  [packetOf .lapData [lapEntries 0 3 0 0 0], packetOf .lapData [lapEntries 1 3 32000 0 0],
    packetOf .session []]

/-- The labels of the first three sessions. -/
def sessionNames (index : Nat) : String := ["S1", "S2", "S3"].getD index ""

/-- Of the tyre and the laps from before nothing is left. -/
theorem run_starts_comeback :
    let packets := formerSessions ++ packetOf .session [] :: comeback
    let reached := (Tracker.start []).run .memory sessionNames packets
    reached.stats.sessions = 3 ∧
      reached.snapshot = ⟨some 7, some "S3", 3, 1, ⟨32000, 0, 0⟩, none⟩ ∧
      ((Tracker.start ()).run .failing (fun _ => "S3") (packets.drop 10)).state = reached.state := by
  intro packets reached
  have split := history_append .memory sessionNames (Tracker.start []) formerSessions
    (packetOf .session [] :: comeback)
  rw [history_cons] at split
  obtain ⟨⟨sessions, -⟩, -, -, ended⟩ := run_starts .memory sessionNames [] packets
  obtain ⟨-, -, again⟩ := ended _ _ _ split (by decide +kernel) (by decide +kernel)
  obtain ⟨same, -⟩ := again Unit .failing () (fun _ => "S3") (by decide +kernel)
  rw [length_history] at same
  exact ⟨sessions.trans (by decide +kernel), by decide +kernel, same⟩

end Tracker

end LapTelemetry.Session
