import Mathlib.Data.List.Induction
import LapTelemetry.Proofs.Session.LapCourse

/-! # The history of a run

A run leaves a history: each packet with the session that it met, what came of it,
the writes that it asked for and the session after it. An entry is made by the
decision on its packet alone (`history_cons`), so no sink has a say in it.

What holds of the empty history, and of every history with one more entry, holds of
the history of every run (`history_induction`); what new sessions have and no lap
report takes from them, all sessions of a run have (`run_keeps`). A history may be
split anywhere, as the packets may (`exists_of_history_eq_append`), and every entry
stands behind the history of a shorter run, in the state that this run has reached
(`exists_of_history_eq`). -/

namespace LapTelemetry.Session

open LapTelemetry.Datagram LapTelemetry.Point

set_option autoImplicit false

theorem lapReport_of_lapReport? {packet : Packet} {report : LapReport}
    (reported : lapReport? packet = some report) :
    packet.kind = .lapData ∧ lapReport packet = .ok report := by
  unfold lapReport? at reported
  split at reported
  · next kind =>
    refine ⟨kind, ?_⟩
    cases read : lapReport packet with
    | error fault => rw [read] at reported; cases reported
    | ok found => rw [read] at reported; cases reported; rfl
  · cases reported

/-- A packet that has been handled. -/
structure Handled where
  packet : Packet
  /-- The session that the packet met. -/
  before : Option State
  outcome : Except Fault Unit
  /-- The writes that the packet asked for, in order. -/
  writes : List Write
  after : Option State

namespace Handled

/-- What becomes of a packet; the label is for a session that starts. -/
def decided (before : Option State) (label : String) (packet : Packet) : Handled :=
  match react before label packet with
  | .error fault => ⟨packet, before, .error fault, [], before⟩
  | .ok reaction => ⟨packet, before, .ok (), reaction.writes, reaction.state⟩

/-- The packet starts a session: it is about one that was not followed. -/
def Starts (handled : Handled) : Prop :=
  handled.packet.kind = .session ∧
    handled.before.map (·.uid) ≠ some handled.packet.header.sessionUid

/-- A packet of a kind has been accepted while a session was followed. -/
def Accepted (handled : Handled) (kind : Kind) : Prop :=
  handled.packet.kind = kind ∧ handled.before.isSome ∧ handled.outcome = .ok ()

section Decided

variable {before : Option State} {label : String} {packet : Packet} {fault : Fault}
  {reaction : Reaction}

theorem decided_of_refusal (refused : react before label packet = .error fault) :
    decided before label packet = ⟨packet, before, .error fault, [], before⟩ := by
  simp only [decided, refused]

theorem decided_of_reaction (accepted : react before label packet = .ok reaction) :
    decided before label packet = ⟨packet, before, .ok (), reaction.writes, reaction.state⟩ := by
  simp only [decided, accepted]

@[simp] theorem decided_packet : (decided before label packet).packet = packet := by
  unfold decided
  split <;> rfl

@[simp] theorem decided_before : (decided before label packet).before = before := by
  unfold decided
  split <;> rfl

theorem starts_decided_iff : (decided before label packet).Starts ↔
    packet.kind = .session ∧ before.map (·.uid) ≠ some packet.header.sessionUid := by
  simp only [Starts, decided_packet, decided_before]

theorem kind_of_steady (steady : ¬ (decided none label packet).Starts) :
    packet.kind ≠ .session :=
  fun kind => steady (starts_decided_iff.mpr ⟨kind, by simp⟩)

theorem uid_of_steady {state : State} (steady : ¬ (decided (some state) label packet).Starts)
    (kind : packet.kind = .session) : packet.header.sessionUid = state.uid := by
  by_contra another
  exact steady (starts_decided_iff.mpr ⟨kind, by simpa using fun same => another same.symm⟩)

/-- A packet that is refused asks for nothing and changes nothing. -/
theorem eq_of_refused (refused : (decided before label packet).outcome ≠ .ok ()) :
    (decided before label packet).writes = [] ∧ (decided before label packet).after = before := by
  cases decision : react before label packet with
  | error fault => rw [decided_of_refusal decision]; exact ⟨rfl, rfl⟩
  | ok reaction => rw [decided_of_reaction decision] at refused; exact absurd rfl refused

/-- Before the first session every packet that starts none is let pass. -/
theorem decided_of_idle (other : packet.kind ≠ .session) :
    decided none label packet = ⟨packet, none, .ok (), [], none⟩ :=
  decided_of_reaction (react_of_idle label other)

/-- A packet that starts a session leaves nothing of the one before. -/
theorem decided_of_starts (starts : (decided before label packet).Starts) :
    (decided before label packet).outcome = .ok () ∧
      (decided before label packet).after = some (.start packet.header.sessionUid label) := by
  obtain ⟨kind, other⟩ := starts_decided_iff.mp starts
  have decision : react before label packet = .ok (onSession before label packet) := by
    simp only [react, kind]
  rw [decided_of_reaction decision]
  refine ⟨rfl, ?_⟩
  unfold onSession
  cases before with
  | none => rfl
  | some state =>
    have another : state.uid ≠ packet.header.sessionUid := by simpa using other
    simp only [if_neg another]

/-- A packet that is accepted and starts no session goes on with the session it met. -/
theorem exists_reaction {state : State}
    (accepted : (decided (some state) label packet).outcome = .ok ())
    (steady : ¬ (decided (some state) label packet).Starts) :
    ∃ reaction, react (some state) label packet = .ok reaction ∧
      decided (some state) label packet =
        ⟨packet, some state, .ok (), reaction.writes, reaction.state⟩ ∧
      (packet.kind = .session → packet.header.sessionUid = state.uid) := by
  cases decision : react (some state) label packet with
  | error fault => rw [decided_of_refusal decision] at accepted; cases accepted
  | ok reaction =>
    exact ⟨reaction, rfl, decided_of_reaction decision, uid_of_steady steady⟩

/-- What holds of new sessions, and of a session after a lap report or after a change of the
motion sample or the tyre, is not lost with any packet. -/
theorem decided_keeps {holds : State → Prop}
    (start : ∀ uid label, holds (.start uid label))
    (bare : ∀ state after : State, after.bare = state.bare → holds state → holds after)
    (report : ∀ state report, lapReport? packet = some report → holds state →
      holds (state.report report))
    (held : ∀ state, before = some state → holds state) :
    ∀ after, (decided before label packet).after = some after → holds after := by
  intro after now
  by_cases starts : (decided before label packet).Starts
  · rw [(decided_of_starts starts).2] at now
    cases now
    exact start _ _
  cases before with
  | none =>
    rw [decided_of_idle (kind_of_steady starts)] at now
    cases now
  | some state =>
    by_cases accepted : (decided (some state) label packet).outcome = .ok ()
    · obtain ⟨reaction, decision, entry, steady⟩ := exists_reaction accepted starts
      rw [entry] at now
      obtain ⟨reached, leads, next⟩ := next_of_react decision steady
      obtain rfl : reached = after := Option.some.inj (leads.symm.trans now)
      cases next with
      | lapData _ reported => exact report state _ reported (held state rfl)
      | _ => exact bare state _ rfl (held state rfl)
    · rw [(eq_of_refused accepted).2] at now
      exact held after now

end Decided

end Handled

namespace Tracker

variable {σ : Type}

/-- The history of a run. -/
def history (into : Sink σ) (labeler : Nat → String) : Tracker σ → List Packet → List Handled
  | _, [] => []
  | tracker, packet :: rest =>
    let next := tracker.handle into labeler packet
    ⟨packet, tracker.state, next.1, tracker.attempted into labeler packet, next.2.state⟩ ::
      history into labeler next.2 rest

section Histories

variable (into : Sink σ) (labeler : Nat → String)

/-- The session after a packet is the one that the decision leads to. -/
theorem handle_after (tracker : Tracker σ) (packet : Packet) :
    (tracker.handle into labeler packet).2.state =
      (Handled.decided tracker.state (labeler tracker.labelsGiven) packet).after := by
  cases decision : react tracker.state (labeler tracker.labelsGiven) packet with
  | error fault => rw [handle_of_refusal decision, Handled.decided_of_refusal decision]
  | ok reaction => rw [handle_state decision, Handled.decided_of_reaction decision]

/-- An entry of a history is what the decision on the packet makes of the session. -/
theorem history_cons (tracker : Tracker σ) (packet : Packet) (rest : List Packet) :
    tracker.history into labeler (packet :: rest) =
      Handled.decided tracker.state (labeler tracker.labelsGiven) packet ::
        (tracker.handle into labeler packet).2.history into labeler rest := by
  rw [history]
  congr 1
  cases decision : react tracker.state (labeler tracker.labelsGiven) packet with
  | error fault =>
    rw [handle_of_refusal decision, attempted_of_refusal decision,
      Handled.decided_of_refusal decision]
  | ok reaction =>
    rw [attempted_of_reaction decision, handle_state decision, handle_of_reaction decision,
      Handled.decided_of_reaction decision]

theorem run_append (tracker : Tracker σ) (first second : List Packet) :
    tracker.run into labeler (first ++ second) =
      (tracker.run into labeler first).run into labeler second :=
  List.foldl_append

theorem history_append (tracker : Tracker σ) (first second : List Packet) :
    tracker.history into labeler (first ++ second) =
      tracker.history into labeler first ++
        (tracker.run into labeler first).history into labeler second := by
  induction first generalizing tracker with
  | nil => rfl
  | cons packet rest ih =>
    rw [List.cons_append, history_cons, history_cons, ih]
    rfl

/-- What a run asks for can be read off its history. -/
theorem attempts_eq_history (tracker : Tracker σ) (packets : List Packet) :
    tracker.attempts into labeler packets =
      (tracker.history into labeler packets).flatMap fun handled =>
        handled.writes.map (handled.packet, ·) := by
  induction packets generalizing tracker with
  | nil => rfl
  | cons packet rest ih =>
    rw [attempts, ih, history]
    rfl

/-- What is true at the start, and stays true with every packet, is true of every run. -/
theorem history_induction (tracker : Tracker σ) (packets : List Packet)
    (holds : List Handled → Option State → Prop) (atStart : holds [] tracker.state)
    (step : ∀ log before label, ∀ packet ∈ packets, holds log before →
      holds (log ++ [Handled.decided before label packet])
        (Handled.decided before label packet).after) :
    holds (tracker.history into labeler packets) (tracker.run into labeler packets).state := by
  -- from the end, since the last entry hangs on the session that the run before has led to
  induction packets using List.reverseRecOn with
  | nil => exact atStart
  | append_singleton front last ih =>
    have shorter := ih fun log before label packet member =>
      step log before label packet (List.mem_append_left _ member)
    rw [history_append, run_append, history_cons]
    have next := step _ _ (labeler (tracker.run into labeler front).labelsGiven) last
      (List.mem_append_right _ List.mem_cons_self) shorter
    rw [← handle_after into labeler] at next
    exact next

/-- A history is split where its packets are. -/
theorem exists_of_history_eq_append (tracker : Tracker σ) (packets : List Packet)
    {earlier later : List Handled}
    (split : tracker.history into labeler packets = earlier ++ later) :
    ∃ front rest, packets = front ++ rest ∧ earlier = tracker.history into labeler front ∧
      later = (tracker.run into labeler front).history into labeler rest := by
  induction earlier generalizing tracker packets with
  | nil => exact ⟨[], packets, rfl, rfl, split.symm⟩
  | cons first others ih =>
    cases packets with
    | nil => cases split
    | cons packet rest =>
      rw [history_cons] at split
      obtain ⟨rfl, behind⟩ := List.cons.inj split
      obtain ⟨front, back, rfl, rfl, rfl⟩ := ih _ _ behind
      exact ⟨packet :: front, back, rfl, by rw [history_cons], rfl⟩

/-- An entry stands behind the history of the packets before its own. -/
theorem exists_of_history_eq (tracker : Tracker σ) (packets : List Packet)
    {earlier later : List Handled} {handled : Handled}
    (split : tracker.history into labeler packets = earlier ++ handled :: later) :
    ∃ front rest label, packets = front ++ handled.packet :: rest ∧
      earlier = tracker.history into labeler front ∧
      handled = Handled.decided (tracker.run into labeler front).state label handled.packet := by
  obtain ⟨front, behind, rfl, rfl, entries⟩ := exists_of_history_eq_append into labeler _ _ split
  cases behind with
  | nil => cases entries
  | cons packet rest =>
    rw [history_cons] at entries
    obtain ⟨rfl, -⟩ := List.cons.inj entries
    exact ⟨front, rest, _, by rw [Handled.decided_packet], rfl, by rw [Handled.decided_packet]⟩

/-- An entry of a history is what its packet is decided to in the session that it has met. -/
theorem exists_decided_of_mem_history {tracker : Tracker σ} {packets : List Packet}
    {handled : Handled} (entered : handled ∈ tracker.history into labeler packets) :
    ∃ before label, handled = Handled.decided before label handled.packet := by
  obtain ⟨earlier, later, split⟩ := List.append_of_mem entered
  obtain ⟨front, rest, label, -, -, entry⟩ :=
    exists_of_history_eq into labeler tracker packets split
  exact ⟨_, label, entry⟩

/-- The sessions of a run have what new ones have, if lap reports leave it and it does not hang
on the motion sample or the tyre. -/
theorem run_keeps {holds : State → Prop} (sink : σ) (packets : List Packet)
    (start : ∀ uid label, holds (.start uid label))
    (bare : ∀ state after : State, after.bare = state.bare → holds state → holds after)
    (report : ∀ packet ∈ packets, ∀ state report, lapReport? packet = some report → holds state →
      holds (state.report report)) :
    ∀ state, ((Tracker.start sink).run into labeler packets).state = some state → holds state := by
  refine history_induction into labeler (Tracker.start sink) packets
    (fun _ reached => ∀ state, reached = some state → holds state) ?_ ?_
  · intro state followed
    cases followed
  · intro _ before label packet member held
    exact Handled.decided_keeps start bare (report packet member) held

/-- Every timing point of a run is asked for by a report, in the session that the packets before it
have led to. -/
theorem exists_report_of_mem_timings {tracker : Tracker σ} {packets : List Packet} {write : Write}
    (mem : write ∈ tracker.timings into labeler packets) :
    ∃ front packet rest state report, packets = front ++ packet :: rest ∧
      (tracker.run into labeler front).state = some state ∧ lapReport? packet = some report ∧
      write ∈ state.timing report := by
  obtain ⟨⟨packet, asked⟩, attempted, rfl⟩ := List.mem_map.mp mem
  obtain ⟨among, tells⟩ := List.mem_filter.mp attempted
  rw [attempts_eq_history] at among
  obtain ⟨handled, entered, pair⟩ := List.mem_flatMap.mp among
  obtain ⟨earlier, later, split⟩ := List.append_of_mem entered
  obtain ⟨front, rest, label, rfl, -, entry⟩ := exists_of_history_eq into labeler tracker packets split
  obtain ⟨other, written, same⟩ := List.mem_map.mp pair
  obtain ⟨rfl, rfl⟩ := Prod.mk.inj same
  have kind : handled.packet.kind = .lapData := by
    simp only [isTiming, Bool.and_eq_true, beq_iff_eq] at tells
    exact tells.1
  have steady : ¬ handled.Starts := fun starts => by
    rw [Handled.Starts, kind] at starts
    cases starts.1
  have accepted : handled.outcome = .ok () := by
    by_contra refused
    rw [entry] at written refused
    rw [(Handled.eq_of_refused refused).1] at written
    cases written
  cases followed : (tracker.run into labeler front).state with
  | none =>
    rw [followed, Handled.decided_of_idle (by rw [kind]; decide)] at entry
    rw [entry] at written
    cases written
  | some state =>
    rw [followed] at entry
    rw [entry] at accepted steady
    obtain ⟨reaction, decision, whole, -⟩ := Handled.exists_reaction accepted steady
    obtain ⟨report, reported, rfl⟩ := react_lapData decision kind
    refine ⟨front, handled.packet, rest, state, report, rfl, followed, reported, ?_⟩
    rw [entry, whole] at written
    have among := List.mem_filter.mpr ⟨List.mem_map_of_mem (f := (handled.packet, ·)) written, tells⟩
    rw [lapReaction_timings state report kind] at among
    obtain ⟨again, point, same⟩ := List.mem_map.mp among
    cases same
    exact point

end Histories

end Tracker

end LapTelemetry.Session
