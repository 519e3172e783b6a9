import LapTelemetry.Proofs.Session.History
import LapTelemetry.Proofs.Session.WholeLap
import LapTelemetry.Proofs.Splits

/-! # Motion samples and the telemetry that takes them

The session has one place for a motion sample. Three kinds of packets change it: an
accepted motion packet fills it, accepted telemetry empties it, and so does another
session (`Handled.decided_slot`). Whether the place is filled can therefore be read
off the history. An accepted motion packet is `Pairable` as long as neither telemetry
nor a session has come behind it, and the `Latest` one of these has left the sample
that is kept (`Slot`).

From this follows, for every run, which telemetry is accepted, what it writes, and
that a `Pairing` of a motion packet with the telemetry that takes its sample leaves
no room for a second one on either side (`run_pairing`). -/

namespace LapTelemetry.Session

open LapTelemetry.Datagram LapTelemetry.Point LapTelemetry.Wire

set_option autoImplicit false

/-! ## The place of the sample -/

namespace State

theorem report_pendingMotion (state : State) (report : LapReport) :
    (state.report report).pendingMotion = state.pendingMotion := by
  obtain ⟨sector, times, tyre, reported⟩ := exists_report_eq state report
  rw [reported]

end State

/-- The sample that the session keeps. -/
def slot (session : Option State) : Option (Record Value) := session.bind State.pendingMotion

namespace Handled

variable {label : String} {packet : Packet}

/-- Telemetry finds no sample, or no record of the player, or takes the sample. -/
theorem decided_telemetry (state : State) (kind : packet.kind = .carTelemetry) :
    decided (some state) label packet =
      match state.pendingMotion, player packet with
      | none, _ => ⟨packet, some state, .error .unpairedTelemetry, [], some state⟩
      | some _, .error fault => ⟨packet, some state, .error fault, [], some state⟩
      | some sample, .ok telemetry =>
        ⟨packet, some state, .ok (),
          state.lapWrites (scalarFields (flattenTyres (telemetry.merge sample))),
          some { state with pendingMotion := none }⟩ := by
  cases kept : state.pendingMotion with
  | none =>
    have refused : react (some state) label packet = .error .unpairedTelemetry := by
      simp only [react, kind, onTelemetry, kept]
    exact decided_of_refusal refused
  | some sample =>
    cases found : player packet with
    | error fault =>
      have refused : react (some state) label packet = .error fault := by
        simp only [react, kind, onTelemetry, kept, found]
        rfl
      exact decided_of_refusal refused
    | ok telemetry =>
      have accepted : react (some state) label packet = .ok
          ⟨some { state with pendingMotion := none },
            state.lapWrites (scalarFields (flattenTyres (telemetry.merge sample))), false, none⟩ := by
        simp only [react, kind, onTelemetry, kept, found]
        rfl
      exact decided_of_reaction accepted

/-- What a packet does to the place of the sample: it is emptied, filled or left alone. -/
theorem decided_slot (before : Option State) (label : String) (packet : Packet) :
    let handled := decided before label packet
    ((handled.Starts ∨ handled.Accepted .carTelemetry) ∧ slot handled.after = none) ∨
    (handled.Accepted .motion ∧
      ∃ sample, player packet = .ok sample ∧ slot handled.after = some sample) ∨
    (¬ handled.Starts ∧ ¬ handled.Accepted .carTelemetry ∧ ¬ handled.Accepted .motion ∧
      slot handled.after = slot before) := by
  intro handled
  -- A session that starts empties the place whatever its packet is; of the other packets only
  -- those that are accepted in a session count, and `State.Next` says what they change.
  by_cases starts : handled.Starts
  · refine .inl ⟨.inl starts, ?_⟩
    rw [(decided_of_starts starts).2]
    rfl
  by_cases accepted : handled.outcome = .ok ()
  · cases before with
    | none =>
      have entry : handled = ⟨packet, none, .ok (), [], none⟩ :=
        decided_of_idle (kind_of_steady starts)
      refine .inr (.inr ⟨starts, ?_⟩)
      rw [entry]
      simp [Accepted]
    | some state =>
      obtain ⟨reaction, decision, entry, steady⟩ := exists_reaction accepted starts
      change handled = _ at entry
      obtain ⟨after, reached, next⟩ := next_of_react decision steady
      have kept : slot handled.after = after.pendingMotion := by
        rw [entry, reached]
        rfl
      have isAccepted (kind : Kind) : handled.Accepted kind ↔ packet.kind = kind := by
        simp [Accepted, handled, accepted]
      simp only [isAccepted, kept]
      cases next with
      | motion kind found => exact .inr (.inl ⟨kind, _, found, rfl⟩)
      | telemetry kind => exact .inl ⟨.inr kind, rfl⟩
      | lapData kind =>
        exact .inr (.inr ⟨starts, by simp [kind], by simp [kind], State.report_pendingMotion ..⟩)
      | session kind | status kind | damage kind =>
        exact .inr (.inr ⟨starts, by simp [kind], by simp [kind], rfl⟩)
  · refine .inr (.inr ⟨starts, fun taken => accepted taken.2.2, fun filled => accepted filled.2.2, ?_⟩)
    rw [(eq_of_refused accepted).2]

/-! ## Samples in a history -/

/-- An accepted motion packet behind which no telemetry has been accepted and no session
started. -/
def Pairable (motion : Handled) (later : List Handled) : Prop :=
  motion.Accepted .motion ∧ ∀ handled ∈ later, ¬ handled.Starts ∧ ¬ handled.Accepted .carTelemetry

/-- The last one of them. -/
def Latest (motion : Handled) (later : List Handled) : Prop :=
  motion.Pairable later ∧ ∀ handled ∈ later, ¬ handled.Accepted .motion

/-- Some accepted motion packet of a history has not been paired. -/
def SomePairable (log : List Handled) : Prop :=
  ∃ earlier motion later, log = earlier ++ motion :: later ∧ motion.Pairable later

/-- The sample that is kept is that of the latest pairable motion packet. -/
def Slot (log : List Handled) : Option (Record Value) → Prop
  | none => ¬ SomePairable log
  | some sample => ∃ earlier motion later, log = earlier ++ motion :: later ∧
      motion.Latest later ∧ player motion.packet = .ok sample

section Slot

variable {log : List Handled} {handled : Handled}

/-- Behind telemetry that is accepted, or a session that starts, no motion packet is pairable. -/
theorem Slot.emptied (empties : handled.Starts ∨ handled.Accepted .carTelemetry) :
    Slot (log ++ [handled]) none := by
  rintro ⟨earlier, motion, later, split, accepted, since⟩
  -- The motion packet is either the new one, which is of another kind, or has the new one behind it.
  rcases split_concat split with ⟨-, rfl, -⟩ | ⟨rest, -, rfl⟩
  · rcases empties with starts | taken
    · rw [Starts, accepted.1] at starts
      cases starts.1
    · exact absurd (accepted.1.symm.trans taken.1) (by decide)
  · obtain ⟨steady, untaken⟩ := since handled (List.mem_append_right _ List.mem_cons_self)
    exact empties.elim steady untaken

theorem Slot.filled {sample : Record Value} (accepted : handled.Accepted .motion)
    (found : player handled.packet = .ok sample) : Slot (log ++ [handled]) (some sample) :=
  ⟨log, handled, [], rfl, ⟨⟨accepted, fun _ mem => absurd mem List.not_mem_nil⟩,
    fun _ mem => absurd mem List.not_mem_nil⟩, found⟩

theorem Slot.kept {held : Option (Record Value)} (slot : Slot log held) (steady : ¬ handled.Starts)
    (untaken : ¬ handled.Accepted .carTelemetry) (noMotion : ¬ handled.Accepted .motion) :
    Slot (log ++ [handled]) held := by
  cases held with
  | none =>
    rintro ⟨earlier, motion, later, split, accepted, since⟩
    rcases split_concat split with ⟨-, rfl, -⟩ | ⟨rest, rfl, rfl⟩
    · exact noMotion accepted
    · exact slot ⟨earlier, motion, rest, rfl, accepted,
        fun other mem => since other (List.mem_append_left _ mem)⟩
  | some sample =>
    obtain ⟨earlier, motion, later, rfl, ⟨⟨accepted, since⟩, last⟩, found⟩ := slot
    refine ⟨earlier, motion, later ++ [handled], by simp, ⟨⟨accepted, ?_⟩, ?_⟩, found⟩
    · intro other mem
      rcases List.mem_append.mp mem with before | new
      · exact since other before
      · rw [List.mem_singleton.mp new]
        exact ⟨steady, untaken⟩
    · intro other mem
      rcases List.mem_append.mp mem with before | new
      · exact last other before
      · rw [List.mem_singleton.mp new]
        exact noMotion

/-- A sample is kept exactly if some motion packet is pairable. -/
theorem Slot.isSome_iff {held : Option (Record Value)} (slot : Slot log held) :
    held.isSome ↔ SomePairable log := by
  cases held with
  | none => exact ⟨fun kept => (nomatch kept), fun pairable => absurd pairable slot⟩
  | some sample =>
    obtain ⟨earlier, motion, later, split, latest, -⟩ := slot
    simpa using ⟨earlier, motion, later, split, latest.1⟩

/-- Telemetry that meets a session is accepted by the motion packets before it, and takes the
sample of the latest. -/
theorem Slot.telemetry {state : State} {label : String} (held : Slot log state.pendingMotion)
    (entry : handled = decided (some state) label handled.packet)
    (kind : handled.packet.kind = .carTelemetry) :
    (handled.outcome = .ok () ↔
        SomePairable log ∧ ∃ telemetry, player handled.packet = .ok telemetry) ∧
      (¬ SomePairable log → handled.outcome = .error .unpairedTelemetry) ∧
      (handled.outcome = .ok () → ∃ earlier motion between sample telemetry,
        log = earlier ++ motion :: between ∧ motion.Latest between ∧
        player motion.packet = .ok sample ∧ player handled.packet = .ok telemetry ∧
        handled.writes =
          state.lapWrites (scalarFields (flattenTyres (telemetry.merge sample))) ∧
        handled.after = some { state with pendingMotion := none }) := by
  have decided := entry.trans (decided_telemetry state kind)
  rw [← held.isSome_iff]
  cases kept : state.pendingMotion with
  | none =>
    rw [kept] at decided
    have refused : handled.outcome = .error .unpairedTelemetry := by rw [decided]
    simp [refused]
  | some sample =>
    rw [kept] at decided held
    cases found : player handled.packet with
    | error fault =>
      rw [found] at decided
      have refused : handled.outcome = .error fault := by rw [decided]
      simp [refused]
    | ok telemetry =>
      rw [found] at decided
      have accepted : handled.outcome = .ok () := by rw [decided]
      have writes : handled.writes =
          state.lapWrites (scalarFields (flattenTyres (telemetry.merge sample))) := by
        rw [decided]
      have after : handled.after = some { state with pendingMotion := none } := by rw [decided]
      obtain ⟨earlier, motion, between, split, latest, sampled⟩ := held
      exact ⟨by simp [accepted], by simp, fun _ => ⟨earlier, motion, between, sample, telemetry,
        split, latest, sampled, rfl, writes, after⟩⟩

end Slot

end Handled

/-- Telemetry of a history with the motion packet that it takes the sample of. -/
structure Pairing (log : List Handled) where
  earlier : List Handled
  motion : Handled
  between : List Handled
  telemetry : Handled
  later : List Handled
  split : log = earlier ++ motion :: (between ++ telemetry :: later)
  latest : motion.Latest between
  taken : telemetry.Accepted .carTelemetry

namespace Pairing

variable {log : List Handled}

/-- Where the motion packet stands in the history. -/
def motionAt (pairing : Pairing log) : Nat := pairing.earlier.length

/-- Where the telemetry stands in the history. -/
def telemetryAt (pairing : Pairing log) : Nat :=
  pairing.earlier.length + 1 + pairing.between.length

/-- A motion packet is taken once, since telemetry is what ends its time. -/
theorem telemetryAt_eq {first second : Pairing log} (same : first.motionAt = second.motionAt) :
    first.telemetryAt = second.telemetryAt := by
  obtain ⟨earlier, motion, between, telemetry, later, rfl, latest, taken⟩ := first
  obtain ⟨earlier', motion', between', telemetry', later', split, latest', taken'⟩ := second
  obtain ⟨rfl, rest⟩ := List.append_inj split same
  obtain ⟨-, rest⟩ := List.cons.inj rest
  rcases split_cases rest with ⟨rfl, -, -⟩ | ⟨among, -⟩ | ⟨among, -⟩
  · rfl
  · exact absurd taken (latest'.1.2 telemetry among).2
  · exact absurd taken' (latest.1.2 telemetry' among).2

/-- Telemetry takes the sample of one motion packet, the latest. -/
theorem motionAt_eq {first second : Pairing log} (same : first.telemetryAt = second.telemetryAt) :
    first.motionAt = second.motionAt := by
  obtain ⟨earlier, motion, between, telemetry, later, rfl, latest, taken⟩ := first
  obtain ⟨earlier', motion', between', telemetry', later', split, latest', taken'⟩ := second
  rw [← List.cons_append, ← List.append_assoc, ← List.cons_append, ← List.append_assoc] at split
  have before : (earlier ++ motion :: between).length = (earlier' ++ motion' :: between').length := by
    simpa [telemetryAt, Nat.add_assoc, Nat.add_comm 1] using same
  obtain ⟨front, -⟩ := List.append_inj split before
  rcases split_cases front with ⟨rfl, -, -⟩ | ⟨-, among⟩ | ⟨-, among⟩
  · rfl
  · exact absurd latest'.1.1 (latest.2 motion' among)
  · exact absurd latest.1.1 (latest'.2 motion among)

end Pairing

namespace Tracker

variable {σ : Type} (into : Sink σ) (labeler : Nat → String)

/-- In every run the place of the sample is what the history says. -/
theorem run_slot (sink : σ) (packets : List Packet) :
    Handled.Slot ((Tracker.start sink).history into labeler packets)
      (slot ((Tracker.start sink).run into labeler packets).state) := by
  refine history_induction into labeler (Tracker.start sink) packets
    (fun log reached => Handled.Slot log (slot reached)) ?_ ?_
  · rintro ⟨earlier, motion, later, split, -⟩
    exact absurd split.symm (by simp)
  · intro log before label packet _ held
    rcases Handled.decided_slot before label packet with
      ⟨empties, empty⟩ | ⟨motion, sample, found, filled⟩ | ⟨steady, untaken, noMotion, same⟩
    · rw [empty]
      exact Handled.Slot.emptied empties
    · rw [filled]
      exact Handled.Slot.filled motion (by rwa [Handled.decided_packet])
    · rw [same]
      exact held.kept steady untaken noMotion

/-- Which telemetry of a run is accepted, what it writes and which motion packet it is paired with;
the packets that are refused, and those before the first session, have no effect. -/
theorem run_pairing (sink : σ) (packets : List Packet) :
    (∀ earlier handled later,
      (Tracker.start sink).history into labeler packets = earlier ++ handled :: later →
        (handled.outcome ≠ .ok () → handled.writes = [] ∧ handled.after = handled.before) ∧
        (handled.before = none → handled.packet.kind ≠ .session →
          handled.outcome = .ok () ∧ handled.writes = [] ∧ handled.after = none) ∧
        ∀ state, handled.before = some state → handled.packet.kind = .carTelemetry →
          (handled.outcome = .ok () ↔ Handled.SomePairable earlier ∧
            ∃ telemetry, player handled.packet = .ok telemetry) ∧
          (¬ Handled.SomePairable earlier → handled.outcome = .error .unpairedTelemetry) ∧
          (handled.outcome = .ok () →
            ∃ pairing : Pairing ((Tracker.start sink).history into labeler packets),
              pairing.telemetryAt = earlier.length ∧ pairing.telemetry = handled ∧
              ∃ sample telemetry, player pairing.motion.packet = .ok sample ∧
                player handled.packet = .ok telemetry ∧
                handled.writes = (if state.lap = 0 then [] else [.lap state.label state.lap
                  (scalarFields (flattenTyres (telemetry.merge sample)))]) ∧
                handled.after = some { state with pendingMotion := none })) ∧
    ∀ first second : Pairing ((Tracker.start sink).history into labeler packets),
      first.motionAt = second.motionAt ↔ first.telemetryAt = second.telemetryAt := by
  refine ⟨fun earlier handled later split => ?_,
    fun first second => ⟨Pairing.telemetryAt_eq, Pairing.motionAt_eq⟩⟩
  obtain ⟨front, rest, label, -, rfl, entry⟩ := exists_of_history_eq into labeler _ packets split
  have held := run_slot into labeler sink front
  generalize ((Tracker.start sink).run into labeler front).state = session at entry held
  have met : handled.before = session := by rw [entry, Handled.decided_before]
  refine ⟨fun refused => ?_, fun idle other => ?_, fun state followed kind => ?_⟩
  · rw [met]
    rw [entry] at refused ⊢
    exact Handled.eq_of_refused refused
  · rw [entry, ← met, idle, Handled.decided_of_idle other]
    exact ⟨rfl, rfl, rfl⟩
  · obtain rfl : session = some state := met.symm.trans followed
    obtain ⟨acceptedIff, unpaired, paired⟩ := Handled.Slot.telemetry held entry kind
    refine ⟨acceptedIff, unpaired, fun accepted => ?_⟩
    obtain ⟨before, motion, between, sample, telemetry, log, latest, sampled, found, writes, after⟩ :=
      paired accepted
    have taken : handled.Accepted .carTelemetry := ⟨kind, by simp [followed], accepted⟩
    have whole : (Tracker.start sink).history into labeler packets =
        before ++ motion :: (between ++ handled :: later) := by
      rw [split, log, List.append_assoc, List.cons_append]
    have position : before.length + 1 + between.length =
        ((Tracker.start sink).history into labeler front).length := by
      rw [log]
      simp [Nat.add_assoc, Nat.add_comm 1]
    exact ⟨⟨before, motion, between, handled, later, whole, latest, taken⟩, position, rfl,
      sample, telemetry, sampled, found, writes, after⟩

/-! ## Samples that come and go -/

/-- The start of session 7, with one motion sample before it and two after it. Motion and telemetry
without a record of the player are refused. -/
def samples : List Packet :=
  [packetOf .motion [[("g_force", .natural .uint8 1)]], packetOf .session [],
    packetOf .carTelemetry [[("speed", .natural .uint16 290)]],
    packetOf .lapData [lapEntries 0 2 0 0 90000],
    packetOf .motion [[("g_force", .natural .uint8 2)]],
    packetOf .motion [[("g_force", .natural .uint8 3)]], packetOf .motion [],
    packetOf .carTelemetry []]

def pairedTelemetry : Packet :=
  packetOf .carTelemetry [[("g_force", .natural .uint8 0), ("speed", .natural .uint16 300)]]

/-- The telemetry takes the second sample of the session. -/
theorem run_pairing_samples :
    ∃ pairing : Pairing ((Tracker.start []).history .memory (fun _ => "S1")
        (samples ++ [pairedTelemetry])),
      pairing.telemetryAt = 8 ∧ pairing.telemetry.packet = pairedTelemetry ∧
        pairing.telemetry.writes =
          [.lap "S1" 2 ⟨[("g_force", .natural 3), ("speed", .natural 300)]⟩] := by
  have split := history_append .memory (fun _ => "S1") (Tracker.start []) samples [pairedTelemetry]
  rw [history_cons] at split
  obtain ⟨-, -, telemetry⟩ :=
    (run_pairing .memory (fun _ => "S1") [] (samples ++ [pairedTelemetry])).1 _ _ _ split
  obtain ⟨-, -, paired⟩ := telemetry _ rfl rfl
  obtain ⟨pairing, position, taken, -⟩ := paired rfl
  refine ⟨pairing, position.trans rfl, ?_, ?_⟩
  · rw [taken]
    rfl
  · rw [taken]
    decide +kernel

end Tracker

end LapTelemetry.Session
