import LapTelemetry.Proofs.Session.Stepwise

/-! # Refused packets

A refused packet leaves the tracker as it was, with everything that it holds: the
session with its motion sample, tyre, sector times and lap, the counters, the labels
given, the laps and the sink. Of the handlers in `Stepwise` this is not plain, since
they change the tracker as they go and take nothing back. It holds because what can
fail stands first in each of them: an effect is `Atomic` if a fault that ends it has
found the tracker unchanged, checks are atomic, and so is a check before an atomic
effect; what comes after the last check is `Unfailing`. -/

namespace LapTelemetry.Session

open LapTelemetry.Datagram LapTelemetry.Number LapTelemetry.Point LapTelemetry.Text LapTelemetry.Wire

set_option autoImplicit false

namespace Effect

variable {σ α β : Type}

/-! ## Effects that never stop -/

/-- An effect that no fault ends. -/
def Unfailing (act : Effect σ α) : Prop := ∀ tracker, ∃ a after, act tracker = (.ok a, after)

theorem change_unfailing (f : Tracker σ → Tracker σ) : Unfailing (change f) :=
  fun tracker => ⟨(), f tracker, rfl⟩

theorem pure_unfailing (a : α) : Unfailing (pure a : Effect σ α) := fun tracker => ⟨a, tracker, rfl⟩

theorem Unfailing.bind {act : Effect σ α} {next : α → Effect σ β} (first : Unfailing act)
    (rest : ∀ a, Unfailing (next a)) : Unfailing (act >>= next) := by
  intro tracker
  obtain ⟨a, between, done⟩ := first tracker
  obtain ⟨b, after, finished⟩ := rest a between
  exact ⟨b, after, (bind_ok done).trans finished⟩

theorem session_unfailing {act : State → Effect σ Unit} (each : ∀ state, Unfailing (act state)) :
    Unfailing (session act) := by
  intro tracker
  cases followed : tracker.state with
  | none => exact ⟨(), tracker, session_of_none followed⟩
  | some state =>
    obtain ⟨a, after, done⟩ := each state tracker
    exact ⟨a, after, (session_of_some followed).trans done⟩

theorem writeLap_unfailing (into : Sink σ) (lap : Nat) (fields : Fields) :
    Unfailing (writeLap into lap fields) := by
  refine session_unfailing fun state => ?_
  split
  · exact pure_unfailing ()
  · exact change_unfailing _

theorem writeLive_unfailing (into : Sink σ) (fields : Fields) : Unfailing (writeLive into fields) :=
  session_unfailing fun _ => change_unfailing _

theorem reportTyre_unfailing (into : Sink σ) : Unfailing (reportTyre into) := by
  refine session_unfailing fun state => ?_
  split
  · exact pure_unfailing ()
  · exact writeLap_unfailing into _ _

theorem changeSector_unfailing (into : Sink σ) (record : Record Value) (sector : Nat) :
    Unfailing (changeSector into record sector) := by
  refine session_unfailing fun state => ?_
  split
  · exact pure_unfailing ()
  · refine (change_unfailing _).bind fun _ => Unfailing.bind ?_ fun _ => reportTyre_unfailing into
    refine session_unfailing fun state => ?_
    dsimp only
    split
    · exact change_unfailing _
    · exact pure_unfailing ()

theorem completeLap_unfailing (lapTime : Nat) : Unfailing (completeLap lapTime : Effect σ Unit) := by
  refine session_unfailing fun state => ?_
  split
  · exact (change_unfailing _).bind fun _ => change_unfailing _
  · exact pure_unfailing ()

theorem changeLap_unfailing (into : Sink σ) (lap lapTime : Nat) :
    Unfailing (changeLap into lap lapTime) := by
  refine session_unfailing fun state => ?_
  split
  · exact pure_unfailing ()
  · refine (completeLap_unfailing lapTime).bind fun _ => ?_
    refine (session_unfailing fun state => writeLap_unfailing into _ _).bind fun _ => ?_
    exact (reportTyre_unfailing into).bind fun _ => session_unfailing fun _ => change_unfailing _

/-! ## Effects that stop before they change anything -/

/-- An effect that a fault ends has left the tracker as it was. -/
def Atomic (act : Effect σ α) : Prop :=
  ∀ tracker fault after, act tracker = (.error fault, after) → after = tracker

theorem Unfailing.atomic {act : Effect σ α} (unfailing : Unfailing act) : Atomic act := by
  intro tracker fault after stopped
  obtain ⟨a, other, done⟩ := unfailing tracker
  rw [stopped] at done
  cases done

theorem check_atomic (outcome : Except Fault α) : Atomic (check outcome : Effect σ α) := by
  intro tracker fault after stopped
  exact (congrArg Prod.snd stopped).symm

/-- A check may stand before an atomic effect, since it changes nothing when it succeeds. -/
theorem check_bind_atomic (outcome : Except Fault α) {next : α → Effect σ β}
    (rest : ∀ a, Atomic (next a)) : Atomic (check outcome >>= next) := by
  cases outcome with
  | error fault => exact check_atomic (.error fault)
  | ok a => exact rest a

theorem session_atomic {act : State → Effect σ Unit} (each : ∀ state, Atomic (act state)) :
    Atomic (session act) := by
  intro tracker fault after stopped
  cases followed : tracker.state with
  | none =>
    rw [session_of_none followed] at stopped
    cases stopped
  | some state =>
    rw [session_of_some followed] at stopped
    exact each state tracker fault after stopped

theorem onSession_atomic (into : Sink σ) (labeler : Nat → String) (packet : Packet) :
    Atomic (onSession into labeler packet) := by
  refine Unfailing.atomic (Unfailing.bind ?_ fun _ => ?_)
  · intro tracker
    unfold startSession
    split <;> exact ⟨(), _, rfl⟩
  · dsimp only
    split
    · exact pure_unfailing ()
    · exact writeLive_unfailing into _

theorem onMotion_atomic (packet : Packet) : Atomic (onMotion packet : Effect σ Unit) :=
  check_bind_atomic _ fun _ => (session_unfailing fun _ => change_unfailing _).atomic

theorem onTelemetry_atomic (into : Sink σ) (packet : Packet) : Atomic (onTelemetry into packet) := by
  refine session_atomic fun state => ?_
  split
  · exact check_atomic _
  · refine check_bind_atomic _ fun telemetry => Unfailing.atomic ?_
    exact (change_unfailing _).bind fun _ => writeLap_unfailing into _ _

theorem onLapData_atomic (into : Sink σ) (packet : Packet) : Atomic (onLapData into packet) := by
  refine check_bind_atomic _ fun record => check_bind_atomic _ fun sector => ?_
  refine check_bind_atomic _ fun lap => check_bind_atomic _ fun lapTime => Unfailing.atomic ?_
  refine (changeSector_unfailing into record sector).bind fun _ => ?_
  refine (changeLap_unfailing into lap lapTime).bind fun _ => ?_
  exact session_unfailing fun _ => change_unfailing _

theorem onStatus_atomic (packet : Packet) : Atomic (onStatus packet : Effect σ Unit) := by
  refine check_bind_atomic _ fun record => check_bind_atomic _ fun code => ?_
  refine check_bind_atomic _ fun age => Unfailing.atomic ?_
  split
  · exact pure_unfailing ()
  · exact session_unfailing fun _ => change_unfailing _

theorem onDamage_atomic (into : Sink σ) (packet : Packet) : Atomic (onDamage into packet) :=
  check_bind_atomic _ fun _ => (writeLive_unfailing into _).atomic

theorem perform_atomic (into : Sink σ) (labeler : Nat → String) (packet : Packet) :
    Atomic (perform into labeler packet) := by
  unfold perform
  split
  · exact onSession_atomic into labeler packet
  · exact session_atomic fun _ => onMotion_atomic packet
  · exact session_atomic fun _ => onTelemetry_atomic into packet
  · exact session_atomic fun _ => onLapData_atomic into packet
  · exact session_atomic fun _ => onStatus_atomic packet
  · exact session_atomic fun _ => onDamage_atomic into packet

end Effect

namespace Tracker

/-- A packet that is refused changes nothing, whether the packet is decided on first or checked
and carried out in turn. -/
theorem handle_refused {σ : Type} (into : Sink σ) (labeler : Nat → String)
    (tracker after : Tracker σ) (packet : Packet) (fault : Fault)
    (refused : tracker.handle into labeler packet = (.error fault, after)) :
    after = tracker ∧ Effect.perform into labeler packet tracker = (.error fault, tracker) := by
  have performed : Effect.perform into labeler packet tracker = (.error fault, after) :=
    (Effect.perform_eq_handle into labeler packet tracker).trans refused
  have unchanged : after = tracker :=
    Effect.perform_atomic into labeler packet tracker fault after performed
  exact ⟨unchanged, unchanged ▸ performed⟩

/-- A tracker in the second sector of lap 3, with a motion sample that waits for telemetry. -/
def waiting : Tracker (List Write) where
  state := some
    ⟨7, "S1", 3, 1, ⟨31000, 0, 0⟩, some ⟨[("g_force", .natural .uint8 1)]⟩, some ⟨.soft, 4⟩⟩
  stats := ⟨1, 0, 1, 0⟩
  labelsGiven := 1
  laps := []
  sink := [.live ⟨[("weather", .text "Clear")]⟩]

/-- Telemetry for a car that it has no record of. -/
def telemetryBeyond : Packet :=
  ⟨⟨2021, 1, 16, 1, 6, 7, 0, 0, 22, 255⟩, .carTelemetry,
    ⟨[("car_telemetry_data", .array [.record ⟨[("speed", .natural .uint16 300)]⟩])]⟩⟩

/-- The motion sample still waits after telemetry that could not be paired with it. -/
theorem handle_refused_waiting :
    waiting.handle .memory (fun _ => "S2") telemetryBeyond =
        (.error (.indexOutOfRange 22 1), waiting) ∧
      Effect.perform .memory (fun _ => "S2") telemetryBeyond waiting =
        (.error (.indexOutOfRange 22 1), waiting) := by
  have refused : waiting.handle .memory (fun _ => "S2") telemetryBeyond =
      (.error (.indexOutOfRange 22 1), waiting) := rfl
  exact ⟨refused, (handle_refused .memory (fun _ => "S2") waiting waiting telemetryBeyond
    (.indexOutOfRange 22 1) refused).2⟩

end Tracker

end LapTelemetry.Session
