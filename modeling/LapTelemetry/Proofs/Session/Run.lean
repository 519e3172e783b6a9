import LapTelemetry.Session.Tracker

/-! # Runs of the tracker

A run hands packets to the tracker one after the other. Of a run one may ask which
packets were accepted, and what the sink was asked to write, whatever it made of it.
A `recording` sink notes the latter beside another sink. It makes no difference to
the tracker and notes all attempts of a run (`run_noting`). For one packet these are
the writes of its reaction (`attempted_of_reaction`), in which no sink has a say. -/

namespace LapTelemetry.Point.Sink

set_option autoImplicit false

variable {σ : Type}

/-- The same sink, which also notes every write that it is asked for. -/
def recording (into : Sink σ) : Sink (σ × List Write) := ⟨fun held write =>
  let (outcome, next) := into.attempt held.1 write
  (outcome, (next, held.2 ++ [write]))⟩

end LapTelemetry.Point.Sink

namespace LapTelemetry.Session

open LapTelemetry.Datagram LapTelemetry.Point

set_option autoImplicit false

/-- Until a session is followed, packets of other kinds are let pass. -/
theorem react_of_idle {packet : Packet} (label : String) (other : packet.kind ≠ .session) :
    react none label packet = .ok ⟨none, [], false, none⟩ := by
  cases kind : packet.kind with
  | session => exact absurd kind other
  | _ => simp only [react, kind]

namespace Tracker

variable {σ : Type}

/-- The tracker with notes of the writes beside its sink. -/
def noting (tracker : Tracker σ) (noted : List Write) : Tracker (σ × List Write) :=
  ⟨tracker.state, tracker.stats, tracker.labelsGiven, tracker.laps, (tracker.sink, noted)⟩

/-- The writes that a packet asks for, in order. -/
def attempted (into : Sink σ) (labeler : Nat → String) (tracker : Tracker σ) (packet : Packet) :
    List Write :=
  ((tracker.noting []).handle into.recording labeler packet).2.sink.2

/-- The tracker after packets. -/
def run (into : Sink σ) (labeler : Nat → String) (tracker : Tracker σ) (packets : List Packet) :
    Tracker σ :=
  packets.foldl (fun tracker packet => (tracker.handle into labeler packet).2) tracker

/-- The packets that are accepted in a run. -/
def accepted (into : Sink σ) (labeler : Nat → String) : Tracker σ → List Packet → List Packet
  | _, [] => []
  | tracker, packet :: rest =>
    let (outcome, after) := tracker.handle into labeler packet
    match outcome with
    | .ok _ => packet :: accepted into labeler after rest
    | .error _ => accepted into labeler after rest

/-- The writes that a run asks for, each with the packet that gives rise to it. -/
def attempts (into : Sink σ) (labeler : Nat → String) :
    Tracker σ → List Packet → List (Packet × Write)
  | _, [] => []
  | tracker, packet :: rest =>
    (tracker.attempted into labeler packet).map (packet, ·) ++
      attempts into labeler (tracker.handle into labeler packet).2 rest

/-! ## One packet -/

/-- What no single write changes, no writes change. -/
theorem foldl_deliver_view {β : Type} {into : Sink σ} (view : Tracker σ → β)
    (kept : ∀ tracker write, view (deliver into tracker write) = view tracker)
    (writes : List Write) (tracker : Tracker σ) :
    view (writes.foldl (deliver into) tracker) = view tracker := by
  induction writes generalizing tracker with
  | nil => rfl
  | cons write rest ih => exact (ih (tracker.deliver into write)).trans (kept tracker write)

theorem foldl_deliver_state (into : Sink σ) (writes : List Write) (tracker : Tracker σ) :
    (writes.foldl (deliver into) tracker).state = tracker.state :=
  foldl_deliver_view (·.state) (fun _ _ => rfl) writes tracker

theorem foldl_deliver_noting (into : Sink σ) (writes : List Write) (tracker : Tracker σ)
    (noted : List Write) :
    writes.foldl (deliver into.recording) (tracker.noting noted) =
      (writes.foldl (deliver into) tracker).noting (noted ++ writes) := by
  induction writes generalizing tracker noted with
  | nil => rw [List.append_nil]; rfl
  | cons write rest ih =>
    have delivered : (tracker.noting noted).deliver into.recording write =
        (tracker.deliver into write).noting (noted ++ [write]) := rfl
    rw [List.foldl_cons, delivered, ih, List.append_assoc]
    rfl

section Decided

variable {into : Sink σ} {labeler : Nat → String} {tracker : Tracker σ} {packet : Packet}
  {reaction : Reaction} {fault : Fault}

theorem handle_of_refusal
    (decided : react tracker.state (labeler tracker.labelsGiven) packet = .error fault) :
    tracker.handle into labeler packet = (.error fault, tracker) := by
  simp only [handle, decided]

theorem handle_of_reaction
    (decided : react tracker.state (labeler tracker.labelsGiven) packet = .ok reaction) :
    tracker.handle into labeler packet =
      (.ok (), reaction.writes.foldl (deliver into) (tracker.take reaction)) := by
  simp only [handle, decided]

theorem handle_state
    (decided : react tracker.state (labeler tracker.labelsGiven) packet = .ok reaction) :
    (tracker.handle into labeler packet).2.state = reaction.state := by
  rw [handle_of_reaction decided, foldl_deliver_state]
  rfl

theorem noting_handle_of_reaction (noted : List Write)
    (decided : react tracker.state (labeler tracker.labelsGiven) packet = .ok reaction) :
    (tracker.noting noted).handle into.recording labeler packet =
      (.ok (), (tracker.handle into labeler packet).2.noting (noted ++ reaction.writes)) := by
  have beside : react (tracker.noting noted).state (labeler (tracker.noting noted).labelsGiven)
      packet = .ok reaction := decided
  have taken : (tracker.noting noted).take reaction = (tracker.take reaction).noting noted := rfl
  rw [handle_of_reaction beside, taken, foldl_deliver_noting, handle_of_reaction decided]

theorem noting_handle_of_refusal (noted : List Write)
    (decided : react tracker.state (labeler tracker.labelsGiven) packet = .error fault) :
    (tracker.noting noted).handle into.recording labeler packet =
      (.error fault, tracker.noting noted) :=
  handle_of_refusal (show react (tracker.noting noted).state _ packet = _ from decided)

theorem attempted_of_reaction
    (decided : react tracker.state (labeler tracker.labelsGiven) packet = .ok reaction) :
    tracker.attempted into labeler packet = reaction.writes := by
  rw [attempted, noting_handle_of_reaction [] decided]
  rfl

theorem attempted_of_refusal
    (decided : react tracker.state (labeler tracker.labelsGiven) packet = .error fault) :
    tracker.attempted into labeler packet = [] := by
  rw [attempted, noting_handle_of_refusal [] decided]
  rfl

end Decided

/-! ## Many packets -/

theorem attempts_writes (packet : Packet) (writes : List Write) :
    (writes.map (packet, ·)).map (·.2) = writes := by
  simp only [List.map_map, Function.comp_def, List.map_id']

/-- A sink that notes the writes has noted the attempts, and nothing else is different. -/
theorem run_noting (into : Sink σ) (labeler : Nat → String) (packets : List Packet)
    (tracker : Tracker σ) (noted : List Write) :
    (tracker.noting noted).run into.recording labeler packets =
      (tracker.run into labeler packets).noting
        (noted ++ (tracker.attempts into labeler packets).map (·.2)) := by
  induction packets generalizing tracker noted with
  | nil => simp only [attempts, List.map_nil, List.append_nil]; rfl
  | cons packet rest ih =>
    have step : ((tracker.noting noted).handle into.recording labeler packet).2 =
        (tracker.handle into labeler packet).2.noting
          (noted ++ tracker.attempted into labeler packet) := by
      cases decided : react tracker.state (labeler tracker.labelsGiven) packet with
      | error fault =>
        rw [attempted_of_refusal decided, noting_handle_of_refusal noted decided, List.append_nil,
          handle_of_refusal decided]
      | ok reaction =>
        rw [attempted_of_reaction decided, noting_handle_of_reaction noted decided]
    simp only [run, List.foldl_cons, attempts, List.map_append, attempts_writes] at ih ⊢
    rw [step, ih, List.append_assoc]

end Tracker

end LapTelemetry.Session
