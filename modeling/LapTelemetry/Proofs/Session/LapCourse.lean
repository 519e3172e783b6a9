import LapTelemetry.Proofs.Outcome
import LapTelemetry.Proofs.Session.Run

/-! # The course of a lap

Of all packets only lap packets move a session along its laps. The others may
change the motion sample and the tyre, which a session keeps beside its laps:
`State.bare` is the session without those two. An accepted lap packet amounts to a
`LapReport`, and on the bare session every accepted packet acts as its report, or
not at all (`react_bare`). So a run with packets of all kinds, some of them refused,
takes the session the same course and asks for the same timing points as its
reports alone (`run_course`). -/

namespace LapTelemetry.Session

open LapTelemetry.Datagram LapTelemetry.Number LapTelemetry.Point LapTelemetry.Text LapTelemetry.Wire

set_option autoImplicit false

/-- What a lap packet says of the player. -/
structure LapReport where
  record : Record Value
  sector : Nat
  lap : Nat
  lapTime : Nat

/-- The report of a lap packet that is accepted, or why it is refused. -/
def lapReport (packet : Packet) : Except Fault LapReport := do
  let record ← player packet
  let sector ← required record "sector" (pow2 8)
  let lap ← required record "current_lap_num" (pow2 32)
  let lapTime ← required record "last_lap_time_in_ms" (pow2 32)
  return ⟨record, sector, lap, lapTime⟩

theorem lapReport_eq_ok_iff {packet : Packet} {report : LapReport} :
    lapReport packet = .ok report ↔
      player packet = .ok report.record ∧
        required report.record "sector" (pow2 8) = .ok report.sector ∧
        required report.record "current_lap_num" (pow2 32) = .ok report.lap ∧
        required report.record "last_lap_time_in_ms" (pow2 32) = .ok report.lapTime := by
  constructor
  · intro read
    obtain ⟨record, found, read⟩ := bind_eq_ok.mp read
    obtain ⟨sector, sectorRead, read⟩ := bind_eq_ok.mp read
    obtain ⟨lap, lapRead, read⟩ := bind_eq_ok.mp read
    obtain ⟨lapTime, timeRead, done⟩ := bind_eq_ok.mp read
    cases done
    exact ⟨found, sectorRead, lapRead, timeRead⟩
  · rintro ⟨found, sectorRead, lapRead, timeRead⟩
    exact bind_eq_ok.mpr ⟨_, found, bind_eq_ok.mpr ⟨_, sectorRead,
      bind_eq_ok.mpr ⟨_, lapRead, bind_eq_ok.mpr ⟨_, timeRead, rfl⟩⟩⟩⟩

/-- The report of a packet; only lap packets have one. -/
def lapReport? (packet : Packet) : Option LapReport :=
  if packet.kind = .lapData then (lapReport packet).toOption else none

/-- The names of the fields with the times of a lap. -/
def timingNames : List String := ["sector_1_ms", "sector_2_ms", "sector_3_ms", "total_time_ms"]

/-- Whether a write asked for by a lap packet tells a time. -/
def isTiming (attempt : Packet × Write) : Bool :=
  attempt.1.kind == .lapData && attempt.2.fields.names.any timingNames.contains

namespace State

/-- The session without what is no part of its laps. -/
def bare (state : State) : State := { state with pendingMotion := none, tyre := none }

/-- The session after a report. -/
def report (state : State) (report : LapReport) : State :=
  let entered := state.enterSector report.record report.sector
  if report.lap = entered.lap then entered else entered.onLap report.lap

/-- The timing point that a report asks for, if it is the first of another lap. -/
def timing (state : State) (report : LapReport) : List Write :=
  let entered := state.enterSector report.record report.sector
  if report.lap = entered.lap then []
  else entered.lapWrites (timingFields (entered.times.atLapEnd report.lapTime) report.lapTime)

/-- A lap packet with a report comes to this, in this order: the tyre if the sector is another,
and the timing point and the tyre again if the lap is another. -/
def lapReaction (state : State) (report : LapReport) : Reaction :=
  let entered := state.enterSector report.record report.sector
  let times := entered.times.atLapEnd report.lapTime
  { state := some (state.report report)
    writes := (if report.sector = state.sector then [] else entered.tyreWrites) ++
      state.timing report ++ (if report.lap = entered.lap then [] else entered.tyreWrites)
    started := false
    completed := if report.lap ≠ entered.lap ∧ 0 < entered.times.first ∧ 0 < entered.times.second then
      some ⟨entered.lap, report.lapTime, times⟩ else none }

/-- The session after reports. -/
def course (state : State) (reports : List LapReport) : State := reports.foldl State.report state

/-- The timing points that reports ask for. -/
def timings : State → List LapReport → List Write
  | _, [] => []
  | state, report :: rest => state.timing report ++ timings (state.report report) rest

end State

/-! ## One packet -/

section Packet

variable {state : State} {packet : Packet} {reaction : Reaction} {label : String}

/-- A lap packet is decided on by its report alone. -/
theorem onLapData_eq (state : State) (packet : Packet) :
    onLapData state packet = (lapReport packet).map state.lapReaction := by
  refine bind_eq_map fun record => bind_eq_map fun sector => ?_
  refine bind_eq_map fun lap => bind_eq_map fun lapTime => ?_
  by_cases same : lap = (state.enterSector record sector).lap
  · simp [State.lapReaction, State.report, State.timing, same, Except.map, pure, Except.pure]
  · simp [State.lapReaction, State.report, State.timing, same, Except.map, pure, Except.pure]

theorem tyreWrites_names {write : Write} (mem : write ∈ state.tyreWrites) :
    write.fields.names = ["tyre_compound", "tyre_age"] := by
  unfold State.tyreWrites State.lapWrites at mem
  split at mem
  · split at mem
    · cases mem
    · rw [List.mem_singleton.mp mem]
      rfl
  · cases mem

theorem timing_names {report : LapReport} {write : Write} (mem : write ∈ state.timing report) :
    write.fields.names = timingNames := by
  unfold State.timing State.lapWrites at mem
  dsimp only at mem
  split at mem
  · cases mem
  · split at mem
    · cases mem
    · rw [List.mem_singleton.mp mem]
      rfl

/-- Of the writes of a lap packet the timing point is the one that tells times. -/
theorem lapReaction_timings (state : State) (report : LapReport) (kind : packet.kind = .lapData) :
    ((state.lapReaction report).writes.map (packet, ·)).filter isTiming =
      (state.timing report).map (packet, ·) := by
  have tyre (entered : State) : (entered.tyreWrites.map (packet, ·)).filter isTiming = [] := by
    refine List.filter_eq_nil_iff.mpr fun attempt mem tells => ?_
    obtain ⟨write, written, rfl⟩ := List.mem_map.mp mem
    rw [isTiming, tyreWrites_names written] at tells
    simp [timingNames] at tells
  have timing : ((state.timing report).map (packet, ·)).filter isTiming =
      (state.timing report).map (packet, ·) := by
    refine List.filter_eq_self.mpr fun attempt mem => ?_
    obtain ⟨write, written, rfl⟩ := List.mem_map.mp mem
    rw [isTiming, timing_names written, kind]
    decide
  have tyreOr (tells : Prop) [Decidable tells] (entered : State) :
      ((if tells then [] else entered.tyreWrites).map (packet, ·)).filter isTiming = [] := by
    split
    · rfl
    · exact tyre entered
  simp only [State.lapReaction, List.map_append, List.filter_append, tyreOr, timing,
    List.nil_append, List.append_nil]

/-- Of a session only the sector and the times hang on the sector that is entered. -/
theorem State.exists_enterSector_eq (state : State) (record : Record Value) (sector : Nat) :
    ∃ times, state.enterSector record sector = { state with sector, times } := by
  unfold enterSector
  split
  · next same => exact ⟨state.times, by rw [same]⟩
  · exact ⟨_, rfl⟩

/-- A report leaves the session its name and its motion sample. -/
theorem State.exists_report_eq (state : State) (report : LapReport) :
    ∃ sector times tyre,
      state.report report = { state with lap := report.lap, sector, times, tyre } := by
  obtain ⟨times, entered⟩ := exists_enterSector_eq state report.record report.sector
  unfold State.report
  rw [entered]
  dsimp only
  split
  · next same => exact ⟨report.sector, times, state.tyre, by rw [same]⟩
  · exact ⟨0, .unknown, none, rfl⟩

/-! ## The session without motion sample and tyre -/

theorem bare_enterSector (state : State) (record : Record Value) (sector : Nat) :
    (state.enterSector record sector).bare = state.bare.enterSector record sector := by
  unfold State.enterSector
  by_cases same : sector = state.sector
  · rw [if_pos same, if_pos (show sector = state.bare.sector from same)]
  · rw [if_neg same, if_neg (show ¬ sector = state.bare.sector from same)]
    rfl

theorem bare_report (state : State) (report : LapReport) :
    (state.report report).bare = state.bare.report report := by
  unfold State.report
  rw [← bare_enterSector]
  by_cases same : report.lap = (state.enterSector report.record report.sector).lap
  · rw [if_pos same, if_pos (show report.lap = (State.bare _).lap from same)]
  · rw [if_neg same, if_neg (show ¬ report.lap = (State.bare _).lap from same)]
    rfl

theorem bare_timing (state : State) (report : LapReport) :
    state.bare.timing report = state.timing report := by
  unfold State.timing
  rw [← bare_enterSector]
  rfl

/-- An accepted lap packet has a report. -/
theorem react_lapData (decided : react (some state) label packet = .ok reaction)
    (kind : packet.kind = .lapData) :
    ∃ report, lapReport? packet = some report ∧ reaction = state.lapReaction report := by
  have lapData : (lapReport packet).map state.lapReaction = .ok reaction := by
    rw [← onLapData_eq]
    simpa only [react, kind] using decided
  cases read : lapReport packet with
  | error fault => rw [read] at lapData; cases lapData
  | ok report =>
    rw [read] at lapData
    cases lapData
    exact ⟨report, by simp only [lapReport?, if_pos kind, read, Except.toOption], rfl⟩

/-- What an accepted packet makes of the session, unless it starts another. -/
inductive State.Next (state : State) (packet : Packet) : State → Prop where
  | session (kind : packet.kind = .session) : Next state packet state
  | motion {sample : Record Value} (kind : packet.kind = .motion)
      (found : player packet = .ok sample) :
      Next state packet { state with pendingMotion := some sample }
  | telemetry (kind : packet.kind = .carTelemetry) :
      Next state packet { state with pendingMotion := none }
  | lapData {report : LapReport} (kind : packet.kind = .lapData)
      (reported : lapReport? packet = some report) : Next state packet (state.report report)
  | status (kind : packet.kind = .carStatus) (tyre : Option TyreReport) :
      Next state packet { state with tyre }
  | damage (kind : packet.kind = .carDamage) : Next state packet state

theorem next_of_react (decided : react (some state) label packet = .ok reaction)
    (steady : packet.kind = .session → packet.header.sessionUid = state.uid) :
    ∃ after, reaction.state = some after ∧ state.Next packet after := by
  cases kind : packet.kind with
  | session =>
    have same : state.uid = packet.header.sessionUid := (steady kind).symm
    simp only [react, kind, onSession, if_pos same] at decided
    cases decided
    exact ⟨state, rfl, .session kind⟩
  | motion =>
    simp only [react, kind, onMotion] at decided
    obtain ⟨sample, found, done⟩ := bind_eq_ok.mp decided
    cases done
    exact ⟨_, rfl, .motion kind found⟩
  | carTelemetry =>
    simp only [react, kind, onTelemetry] at decided
    cases waiting : state.pendingMotion with
    | none => rw [waiting] at decided; cases decided
    | some sample =>
      rw [waiting] at decided
      obtain ⟨telemetry, -, done⟩ := bind_eq_ok.mp decided
      cases done
      exact ⟨_, rfl, .telemetry kind⟩
  | lapData =>
    obtain ⟨report, reported, rfl⟩ := react_lapData decided kind
    exact ⟨_, rfl, .lapData kind reported⟩
  | carStatus =>
    simp only [react, kind, onStatus] at decided
    obtain ⟨record, -, decided⟩ := bind_eq_ok.mp decided
    obtain ⟨code, -, decided⟩ := bind_eq_ok.mp decided
    obtain ⟨age, -, decided⟩ := bind_eq_ok.mp decided
    cases known : TyreCompound.ofCode? code with
    | none => rw [known] at decided; cases decided; exact ⟨_, rfl, .status kind state.tyre⟩
    | some compound => rw [known] at decided; cases decided; exact ⟨_, rfl, .status kind _⟩
  | carDamage =>
    simp only [react, kind, onDamage] at decided
    obtain ⟨damage, -, done⟩ := bind_eq_ok.mp decided
    cases done
    exact ⟨_, rfl, .damage kind⟩

/-- Packets other than lap packets leave the bare session alone. -/
theorem react_bare_of_other (decided : react (some state) label packet = .ok reaction)
    (steady : packet.kind = .session → packet.header.sessionUid = state.uid)
    (other : packet.kind ≠ .lapData) :
    ∃ after, reaction.state = some after ∧ after.bare = state.bare := by
  obtain ⟨after, reached, next⟩ := next_of_react decided steady
  refine ⟨after, reached, ?_⟩
  cases next with
  | lapData kind => exact absurd kind other
  | _ => rfl

/-- A packet that is accepted while a session is followed, and does not start another. -/
theorem react_bare (decided : react (some state) label packet = .ok reaction)
    (steady : packet.kind = .session → packet.header.sessionUid = state.uid) :
    ∃ after, reaction.state = some after ∧
      after.bare = state.bare.course (lapReport? packet).toList ∧
      (reaction.writes.map (packet, ·)).filter isTiming =
        (state.bare.timings (lapReport? packet).toList).map (packet, ·) := by
  by_cases kind : packet.kind = .lapData
  · obtain ⟨report, reported, rfl⟩ := react_lapData decided kind
    refine ⟨state.report report, rfl, ?_, ?_⟩
    · rw [reported]
      exact bare_report state report
    · rw [lapReaction_timings state report kind, reported]
      simp only [Option.toList_some, State.timings, List.append_nil, bare_timing]
  · have silent : (reaction.writes.map (packet, ·)).filter isTiming = [] := by
      refine List.filter_eq_nil_iff.mpr fun attempt mem tells => ?_
      obtain ⟨write, _, rfl⟩ := List.mem_map.mp mem
      simp [isTiming, kind] at tells
    have unreported : lapReport? packet = none := if_neg kind
    obtain ⟨after, now, same⟩ := react_bare_of_other decided steady kind
    rw [silent, unreported]
    exact ⟨after, now, same, rfl⟩

end Packet

/-! ## Many packets -/

namespace State

theorem course_append (state : State) (first second : List LapReport) :
    state.course (first ++ second) = (state.course first).course second :=
  List.foldl_append

theorem timings_append (state : State) (first second : List LapReport) :
    state.timings (first ++ second) = state.timings first ++ (state.course first).timings second := by
  induction first generalizing state with
  | nil => rfl
  | cons report rest ih =>
    simp only [List.cons_append, timings, ih, List.append_assoc]
    rfl

theorem course_uid (state : State) (reports : List LapReport) :
    (state.course reports).uid = state.uid := by
  induction reports generalizing state with
  | nil => rfl
  | cons report rest ih =>
    obtain ⟨sector, times, tyre, reported⟩ := exists_report_eq state report
    refine (ih (state.report report)).trans ?_
    rw [reported]

end State

namespace Tracker

variable {σ : Type}

/-- The reports of the packets that a run accepts. -/
def reports (into : Sink σ) (labeler : Nat → String) (tracker : Tracker σ) (packets : List Packet) :
    List LapReport :=
  (tracker.accepted into labeler packets).filterMap lapReport?

/-- The timing points that a run asks for. -/
def timings (into : Sink σ) (labeler : Nat → String) (tracker : Tracker σ) (packets : List Packet) :
    List Write :=
  ((tracker.attempts into labeler packets).filter isTiming).map (·.2)

section Steps

variable {into : Sink σ} {labeler : Nat → String} {tracker : Tracker σ} {packet : Packet}
  {rest : List Packet} {reaction : Reaction} {fault : Fault}

theorem reports_cons_of_refusal
    (decided : react tracker.state (labeler tracker.labelsGiven) packet = .error fault) :
    tracker.reports into labeler (packet :: rest) = tracker.reports into labeler rest := by
  simp only [reports, accepted, handle_of_refusal decided]

theorem reports_cons_of_reaction
    (decided : react tracker.state (labeler tracker.labelsGiven) packet = .ok reaction) :
    tracker.reports into labeler (packet :: rest) = (lapReport? packet).toList ++
      (tracker.handle into labeler packet).2.reports into labeler rest := by
  simp only [reports, accepted, handle_of_reaction decided]
  cases reported : lapReport? packet with
  | none => simp [reported]
  | some report => simp [reported]

theorem timings_cons :
    tracker.timings into labeler (packet :: rest) =
      (((tracker.attempted into labeler packet).map (packet, ·)).filter isTiming).map (·.2) ++
        (tracker.handle into labeler packet).2.timings into labeler rest := by
  simp only [timings, attempts, List.filter_append, List.map_append]

end Steps

/-- As long as no other session starts, a run takes the course of its reports. -/
theorem run_course (into : Sink σ) (labeler : Nat → String) (packets : List Packet)
    (tracker : Tracker σ) (state : State) (followed : tracker.state = some state)
    (steady : ∀ packet ∈ packets, packet.kind = .session → packet.header.sessionUid = state.uid) :
    (∃ after, (tracker.run into labeler packets).state = some after ∧
      after.bare = state.bare.course (tracker.reports into labeler packets)) ∧
    tracker.timings into labeler packets =
      state.bare.timings (tracker.reports into labeler packets) := by
  induction packets generalizing tracker state with
  | nil => exact ⟨⟨state, followed, rfl⟩, rfl⟩
  | cons packet rest ih =>
    have steadyRest := fun later mem => steady later (List.mem_cons_of_mem packet mem)
    rw [run, List.foldl_cons, timings_cons]
    cases decided : react tracker.state (labeler tracker.labelsGiven) packet with
    | error fault =>
      rw [attempted_of_refusal decided, reports_cons_of_refusal decided, handle_of_refusal decided]
      exact ih tracker state followed steadyRest
    | ok reaction =>
      have next : (tracker.handle into labeler packet).2.state = reaction.state :=
        handle_state decided
      rw [attempted_of_reaction decided, reports_cons_of_reaction decided]
      rw [followed] at decided
      obtain ⟨between, now, bare, timing⟩ := react_bare decided (steady packet List.mem_cons_self)
      have uid : between.uid = state.uid := by
        calc between.uid = between.bare.uid := rfl
          _ = state.bare.uid := by rw [bare, State.course_uid]
          _ = state.uid := rfl
      obtain ⟨⟨after, last, course⟩, timings⟩ := ih _ between (next.trans now) (uid ▸ steadyRest)
      rw [bare] at course timings
      refine ⟨⟨after, last, ?_⟩, ?_⟩
      · rw [course, State.course_append]
      · rw [timing, timings, State.timings_append, List.map_map, Function.comp_def, List.map_id']

end Tracker

end LapTelemetry.Session
