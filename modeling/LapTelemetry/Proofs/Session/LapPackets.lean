import LapTelemetry.Proofs.Session.Refusal
import LapTelemetry.Proofs.Session.SectorTimes

/-! # Lap packets

One lap packet may enter another sector, begin another lap, or do both, and it writes
before, between and behind these changes. What it comes to is told here without the
order in which it is done:

* a slot takes the time that the report has for it, if the sector is entered with the
  report (`LapReport.noted?`, `enterSector_eq`);
* on the same lap the session keeps all but the sector and the times, and another lap
  keeps nothing of the one before it (`report_eq`);
* the tyre is reported for a sector and once more for a lap, behind the timing point
  (`lapReaction_writes`).

`handle_lapPacket` puts these together for every session and every lap packet that has
the three numbers a lap packet needs. -/

namespace LapTelemetry.Session

open LapTelemetry.Datagram LapTelemetry.Number LapTelemetry.Point LapTelemetry.Text
open LapTelemetry.Wire

set_option autoImplicit false

/-! ## Times in a report -/

/-- The name of the time of a sector, counted from 1. -/
def sectorTimeName (number : Nat) : String := "sector" ++ Decimal.ofNat number ++ "_time_in_ms"

/-- A time of a record that is positive and fits its slot. -/
def timeIn? (record : Record Value) (name : String) : Option Nat :=
  (record.natural? name).filter fun ms => decide (0 < ms ∧ ms < pow2 32)

/-- The time that a report notes in the slot of a sector: the report has that number for its sector,
the sector before it, `current`, is another, and the report has the time. -/
def LapReport.noted? (report : LapReport) (current number : Nat) : Option Nat :=
  if report.sector = number ∧ current ≠ number then
    timeIn? report.record (sectorTimeName number)
  else none

/-- The times behind the change to the sector of a report, slot by slot. -/
def SectorTimes.behind (times : SectorTimes) (report : LapReport) (current : Nat) :
    SectorTimes where
  first := (report.noted? current 1).getD times.first
  second := (report.noted? current 2).getD times.second
  third := (report.noted? current 3).getD times.third

theorem timeIn?_getD (record : Record Value) (name : String) (held : Nat) :
    (timeIn? record name).getD held =
      if 0 < (record.natural? name).getD 0 ∧ (record.natural? name).getD 0 < pow2 32 then
        (record.natural? name).getD 0
      else held := by
  unfold timeIn?
  cases record.natural? name with
  | none => rfl
  | some ms =>
    by_cases fits : 0 < ms ∧ ms < pow2 32
    · simp only [Option.filter, Option.getD_some, if_pos fits, decide_eq_true fits, if_true]
    · simp only [Option.filter, Option.getD_some, if_neg fits, decide_eq_false fits]
      rfl

theorem SectorTimes.set_eq (times : SectorTimes) (sector ms : Nat) :
    times.set sector ms =
      ⟨if sector = 1 then ms else times.first, if sector = 2 then ms else times.second,
        if sector = 3 then ms else times.third⟩ := by
  unfold set
  split
  · rfl
  · rfl
  · rfl
  · next first second third => rw [if_neg first, if_neg second, if_neg third]

section Report

variable {state : State} {report : LapReport}

/-- Within a sector nothing is noted. -/
theorem noted?_of_same {current : Nat} (same : report.sector = current) (number : Nat) :
    report.noted? current number = none :=
  if_neg fun first => first.2 (same.symm.trans first.1)

/-- The slot of a sector behind a change of the sector. -/
theorem noted?_getD {current : Nat} (other : report.sector ≠ current) (number held : Nat) :
    (report.noted? current number).getD held =
      if report.sector = number then
        (timeIn? report.record (sectorTimeName report.sector)).getD held
      else held := by
  unfold LapReport.noted?
  by_cases own : report.sector = number
  · have entered : current ≠ number := fun same => other (own.trans same.symm)
    rw [if_pos ⟨own, entered⟩, if_pos own, own]
  · rw [if_neg fun first => own first.1, if_neg own]
    rfl

/-- Entering the sector of a report changes the sector, and the slots that it notes a time for. -/
theorem enterSector_eq (state : State) (report : LapReport) :
    state.enterSector report.record report.sector =
      { state with sector := report.sector, times := state.times.behind report state.sector } := by
  unfold State.enterSector SectorTimes.behind
  by_cases same : report.sector = state.sector
  · simp only [if_pos same, noted?_of_same same, Option.getD_none]
    rw [same]
  · simp only [if_neg same, noted?_getD same, timeIn?_getD, sectorTimeName, SectorTimes.set_eq]
    by_cases fits : 0 < (report.record.natural?
          ("sector" ++ Decimal.ofNat report.sector ++ "_time_in_ms")).getD 0 ∧
        (report.record.natural?
          ("sector" ++ Decimal.ofNat report.sector ++ "_time_in_ms")).getD 0 < pow2 32
    · simp only [if_pos fits]
    · simp only [if_neg fits, ite_self]

example : [1, 2, 3].map sectorTimeName =
    ["sector1_time_in_ms", "sector2_time_in_ms", "sector3_time_in_ms"] := by
  decide +kernel

/-- Beyond the third sector there is no slot. -/
theorem behind_of_beyond (times : SectorTimes) (current : Nat) (beyond : 3 < report.sector) :
    times.behind report current = times := by
  have unnoted (number : Nat) (small : number ≤ 3) : report.noted? current number = none :=
    if_neg fun first => by omega
  simp only [SectorTimes.behind, unnoted 1 (by decide), unnoted 2 (by decide),
    unnoted 3 (by decide), Option.getD_none]

/-- The session after a report, on the same lap and on another. -/
theorem report_eq (state : State) (report : LapReport) :
    state.report report =
      if report.lap = state.lap then
        { state with sector := report.sector, times := state.times.behind report state.sector }
      else state.onLap report.lap := by
  unfold State.report
  rw [enterSector_eq]
  rfl

/-- What a report asks for: the tyre where the sector is another, and where the lap is another the
times at its end and the tyre. -/
theorem lapReaction_writes (state : State) (report : LapReport) :
    (state.lapReaction report).writes =
      (if report.sector = state.sector then [] else state.tyreWrites) ++
        if report.lap = state.lap then []
        else state.lapWrites (timingFields
            ((state.times.behind report state.sector).atLapEnd report.lapTime) report.lapTime) ++
          state.tyreWrites := by
  -- Neither the sector nor the times are in what is asked of the state that has entered the sector.
  simp only [State.lapReaction, State.timing, enterSector_eq]
  by_cases same : report.lap = state.lap
  · simp only [if_pos same, List.append_nil]
    rfl
  · simp only [if_neg same, List.append_assoc]
    rfl

/-- The lap that a report ends is complete if the first two times are known behind the change of
the sector. -/
theorem lapReaction_completed (state : State) (report : LapReport) :
    (state.lapReaction report).completed =
      let times := state.times.behind report state.sector
      if report.lap ≠ state.lap ∧ 0 < times.first ∧ 0 < times.second then
        some ⟨state.lap, report.lapTime, times.atLapEnd report.lapTime⟩
      else none := by
  simp only [State.lapReaction, enterSector_eq]

end Report

/-! ## The packet -/

/-- A number that is required is there and fits. -/
theorem required_eq_ok_iff {record : Record Value} {name : String} {bound n : Nat} :
    required record name bound = .ok n ↔ record.natural? name = some n ∧ n < bound := by
  constructor
  · intro read
    refine ⟨?_, required_lt read⟩
    unfold required at read
    split at read
    · next number found =>
      split at read
      · cases read; exact found
      · cases read
    · cases read
  · rintro ⟨read, fits⟩
    simp only [required, read, if_pos fits]

/-- A lap packet with the three numbers is decided on by its report. -/
theorem react_lapPacket {state : State} {packet : Packet} {report : LapReport} (label : String)
    (kind : packet.kind = .lapData) (read : lapReport packet = .ok report) :
    react (some state) label packet = .ok (state.lapReaction report) := by
  simp only [react, kind, onLapData_eq, read]
  rfl

/-- The point that reports a tyre to the lap. -/
def State.tyrePoint (state : State) (tyre : TyreReport) : Write :=
  .lap state.label state.lap
    ⟨[("tyre_compound", .text tyre.compound.label), ("tyre_age", .natural tyre.age)]⟩

/-- The report of the tyre: one point if a tyre is known. -/
def State.tyrePoints (state : State) : List Write := state.tyre.toList.map state.tyrePoint

theorem tyreWrites_eq (state : State) :
    state.tyreWrites = if state.lap = 0 then [] else state.tyrePoints := by
  unfold State.tyreWrites State.lapWrites State.tyrePoints
  cases state.tyre with
  | none => exact (ite_self _).symm
  | some tyre => rfl

namespace Tracker

variable {σ : Type}

theorem handle_laps {into : Sink σ} {labeler : Nat → String} {tracker : Tracker σ}
    {packet : Packet} {reaction : Reaction}
    (decided : react tracker.state (labeler tracker.labelsGiven) packet = .ok reaction) :
    (tracker.handle into labeler packet).2.laps = tracker.laps ++ reaction.completed.toList := by
  rw [handle_of_reaction decided]
  exact foldl_deliver_view (·.laps) (fun _ _ => rfl) reaction.writes (tracker.take reaction)

/-- What a lap packet comes to in any session, whatever the sink. The times are those behind the
change of the sector, and the third is worked out when the lap ends. -/
theorem handle_lapPacket (into : Sink σ) (labeler : Nat → String) (tracker : Tracker σ)
    (state : State) (packet : Packet) (record : Record Value) (sector lap lapTime : Nat)
    (followed : tracker.state = some state) (kind : packet.kind = .lapData)
    (found : player packet = .ok record)
    (sectorRead : record.natural? "sector" = some sector) (sectorFits : sector < pow2 8)
    (lapRead : record.natural? "current_lap_num" = some lap) (lapFits : lap < pow2 32)
    (timeRead : record.natural? "last_lap_time_in_ms" = some lapTime)
    (timeFits : lapTime < pow2 32) :
    let times := state.times.behind ⟨record, sector, lap, lapTime⟩ state.sector
    let known := 0 < times.first ∧ 0 < times.second
    let third := if known ∧ times.first + times.second ≤ lapTime then
      lapTime - (times.first + times.second) else times.third
    let timing : Write := .lap state.label state.lap
      ⟨[("sector_1_ms", .natural times.first), ("sector_2_ms", .natural times.second),
        ("sector_3_ms", .natural third), ("total_time_ms", .natural lapTime)]⟩
    let next := tracker.handle into labeler packet
    next.1 = .ok () ∧ Effect.perform into labeler packet tracker = next ∧
      tracker.attempted into labeler packet =
        (if state.lap = 0 then []
          else (if sector = state.sector then [] else state.tyrePoints) ++
            if lap = state.lap then [] else timing :: state.tyrePoints) ∧
      next.2.laps = tracker.laps ++
        (if lap ≠ state.lap ∧ known then [⟨state.lap, lapTime, ⟨times.first, times.second, third⟩⟩]
          else []) ∧
      next.2.state = some
        (if lap = state.lap then { state with sector, times }
          else { state with lap, sector := 0, times := .unknown, tyre := none }) := by
  intro times known third timing next
  let report : LapReport := ⟨record, sector, lap, lapTime⟩
  have read : lapReport packet = .ok report :=
    bind_eq_ok.mpr ⟨record, found,
      bind_eq_ok.mpr ⟨sector, required_eq_ok_iff.mpr ⟨sectorRead, sectorFits⟩,
        bind_eq_ok.mpr ⟨lap, required_eq_ok_iff.mpr ⟨lapRead, lapFits⟩,
          bind_eq_ok.mpr ⟨lapTime, required_eq_ok_iff.mpr ⟨timeRead, timeFits⟩, rfl⟩⟩⟩⟩
  have decided : react tracker.state (labeler tracker.labelsGiven) packet =
      .ok (state.lapReaction report) := by
    rw [followed]
    exact react_lapPacket _ kind read
  have ended : times.atLapEnd lapTime = ⟨times.first, times.second, third⟩ := by
    unfold SectorTimes.atLapEnd third known
    simp only [and_assoc]
    split <;> rfl
  refine ⟨?_, Effect.perform_eq_handle into labeler packet tracker, ?_, ?_, ?_⟩
  · exact congrArg Prod.fst (handle_of_reaction decided)
  · rw [attempted_of_reaction decided, lapReaction_writes, tyreWrites_eq]
    change _ ++ (if lap = state.lap then []
      else state.lapWrites (timingFields (times.atLapEnd lapTime) lapTime) ++ _) = _
    rw [ended, State.lapWrites]
    by_cases before : state.lap = 0
    · simp only [if_pos before, ite_self, List.append_nil]
    · simp only [if_neg before]
      rfl
  · rw [handle_laps decided, lapReaction_completed]
    change tracker.laps ++ (if lap ≠ state.lap ∧ known then
      some ⟨state.lap, lapTime, times.atLapEnd lapTime⟩ else none).toList = _
    rw [ended]
    split <;> rfl
  · rw [handle_state decided]
    exact congrArg some (report_eq state report)

/-- From the second sector of lap 3 to the third of lap 4 in one packet. The tyre is reported twice,
and the time of the second sector is in the times of lap 3. -/
theorem handle_lapPacket_waiting :
    let lapEnd := packetOf .lapData [lapEntries 2 4 31000 30500 93250]
    let next := waiting.handle .memory (fun _ => "S2") lapEnd
    let tyrePoint : Write :=
      .lap "S1" 3 ⟨[("tyre_compound", .text "Soft"), ("tyre_age", .natural 4)]⟩
    next.1 = .ok () ∧
      waiting.attempted .memory (fun _ => "S2") lapEnd =
        [tyrePoint, .lap "S1" 3 ⟨[("sector_1_ms", .natural 31000), ("sector_2_ms", .natural 30500),
          ("sector_3_ms", .natural 31750), ("total_time_ms", .natural 93250)]⟩, tyrePoint] ∧
      next.2.laps = [⟨3, 93250, ⟨31000, 30500, 31750⟩⟩] ∧
      next.2.state =
        some ⟨7, "S1", 4, 0, .unknown, some ⟨[("g_force", .natural .uint8 1)]⟩, none⟩ := by
  intro lapEnd next tyrePoint
  obtain ⟨accepted, -, writes, laps, state⟩ := handle_lapPacket .memory (fun _ => "S2") waiting
    ⟨7, "S1", 3, 1, ⟨31000, 0, 0⟩, some ⟨[("g_force", .natural .uint8 1)]⟩, some ⟨.soft, 4⟩⟩
    lapEnd ⟨lapEntries 2 4 31000 30500 93250⟩ 2 4 93250 rfl rfl rfl rfl (by decide) rfl (by decide)
    rfl (by decide)
  exact ⟨accepted, writes.trans (by decide +kernel), laps.trans (by decide +kernel), state⟩

end Tracker

end LapTelemetry.Session
