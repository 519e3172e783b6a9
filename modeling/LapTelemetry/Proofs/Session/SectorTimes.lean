import LapTelemetry.Proofs.Datagram.Season
import LapTelemetry.Proofs.Session.History
import LapTelemetry.Proofs.Session.WholeLap

/-! # Sector times over a whole run

The third sector time of a lap is not reported but worked out when the lap ends, from
the lap time and the two times noted before. Packets may be lost or come out of order,
so these two may be missing, or of another lap, or exceed the lap time; then nothing is
worked out.

`State.moments` are the states of the session on the way through a lap report. Of every
run, from the first packet on, the following holds (`run_sectorTimes`):

* a timing point with two times that do not exceed the lap time has a third which makes
  up the sum, and as long as no record has a third time of its own, every other timing
  point has none;
* the third time is then unknown between any two packets;
* all times, sectors and laps fit their widths, on the way through a report as well.

The records of the bundled season have no third time. -/

namespace LapTelemetry.Session

open LapTelemetry.Datagram LapTelemetry.Number LapTelemetry.Point LapTelemetry.Spec
open LapTelemetry.Text LapTelemetry.Wire

set_option autoImplicit false

/-! ## Times -/

namespace SectorTimes

/-- Times that fit slots of thirty-two bits. -/
structure Fit (times : SectorTimes) : Prop where
  first : times.first < pow2 32
  second : times.second < pow2 32
  third : times.third < pow2 32

/-- What the first two sectors leave of the lap time, as a signed number. -/
def remainder (times : SectorTimes) (lapTime : Nat) : Int :=
  (lapTime : Int) - ((times.first : Int) + times.second)

theorem unknown_fit : unknown.Fit := ⟨pow2_pos 32, pow2_pos 32, pow2_pos 32⟩

theorem set_fit {times : SectorTimes} (fit : times.Fit) (sector : Nat) {ms : Nat}
    (small : ms < pow2 32) : (times.set sector ms).Fit := by
  unfold set
  split
  · exact ⟨small, fit.second, fit.third⟩
  · exact ⟨fit.first, small, fit.third⟩
  · exact ⟨fit.first, fit.second, small⟩
  · exact fit

theorem set_third (times : SectorTimes) {sector : Nat} (ms : Nat) (other : sector ≠ 3) :
    (times.set sector ms).third = times.third := by
  unfold set
  split
  · rfl
  · rfl
  · exact absurd rfl other
  · rfl

theorem atLapEnd_first_second (times : SectorTimes) (lapTime : Nat) :
    (times.atLapEnd lapTime).first = times.first ∧
      (times.atLapEnd lapTime).second = times.second := by
  unfold atLapEnd
  split
  · exact ⟨rfl, rfl⟩
  · exact ⟨rfl, rfl⟩

/-- The third time is left alone or takes the signed difference, which then is not negative and
fits the slot. -/
theorem atLapEnd_signed (times : SectorTimes) (lapTime : Nat) :
    times.atLapEnd lapTime = times ∨
      (0 ≤ times.remainder lapTime ∧
        ((times.atLapEnd lapTime).third : Int) = times.remainder lapTime) := by
  unfold atLapEnd remainder
  split
  · next within =>
    right
    dsimp only
    omega
  · exact Or.inl rfl

theorem atLapEnd_fit {times : SectorTimes} (fit : times.Fit) {lapTime : Nat}
    (small : lapTime < pow2 32) : (times.atLapEnd lapTime).Fit := by
  unfold atLapEnd
  split
  · exact ⟨fit.first, fit.second, Nat.lt_of_le_of_lt (Nat.sub_le _ _) small⟩
  · exact fit

/-- The times at the end of a lap add up to the lap time if the first two allow it. -/
theorem atLapEnd_sum {times : SectorTimes} {lapTime : Nat}
    (known : 0 < times.first ∧ 0 < times.second ∧ times.first + times.second ≤ lapTime) :
    times.first + times.second + (times.atLapEnd lapTime).third = lapTime := by
  rw [atLapEnd, if_pos known]
  exact Nat.add_sub_cancel' known.2.2

theorem atLapEnd_third {times : SectorTimes} {lapTime : Nat}
    (unknown : ¬ (0 < times.first ∧ 0 < times.second ∧ times.first + times.second ≤ lapTime)) :
    (times.atLapEnd lapTime).third = times.third := by
  rw [atLapEnd, if_neg unknown]

end SectorTimes

/-! ## Reports -/

/-- The name that a third sector time would have. -/
def thirdTimeName : String := "sector3_time_in_ms"

/-- No lap packet has a record of the player with a third sector time. -/
def NoThirdTime (packets : List Packet) : Prop :=
  ∀ packet ∈ packets, packet.kind = .lapData →
    ∀ record, player packet = .ok record → record.get? thirdTimeName = none

theorem NoThirdTime.of_append {front rest : List Packet} (untimed : NoThirdTime (front ++ rest)) :
    NoThirdTime front :=
  fun packet member => untimed packet (List.mem_append_left rest member)

/-- In the datagrams of the bundled season there are no third times. -/
theorem noThirdTime_of_season2021 :
    ∃ registry dispatcher, Registry.compile season2021 = .ok registry ∧
      Dispatcher.build registry 2021 = .ok dispatcher ∧
      ∀ packets, (∀ packet ∈ packets, ∃ data, dispatcher.dispatch data = .ok packet) →
        NoThirdTime packets := by
  obtain ⟨registry, dispatcher, compiled, built, untimed⟩ := Dispatcher.thirdTime_eq_none_of_season2021
  refine ⟨registry, dispatcher, compiled, built, fun packets sent packet member kind record found => ?_⟩
  obtain ⟨data, accepted⟩ := sent packet member
  have car : carRecord packet.body "lap_data" packet.header.playerCar = .ok record := by
    simpa only [player, kind, Kind.perCarField?] using found
  exact untimed data packet _ record accepted kind car

theorem required_lt {record : Record Value} {name : String} {bound n : Nat}
    (read : required record name bound = .ok n) : n < bound := by
  unfold required at read
  split at read
  · split at read
    · next small => cases read; exact small
    · cases read
  · cases read

/-- What is known of the numbers of a report. -/
theorem lapReport_inRange {packet : Packet} {report : LapReport}
    (read : lapReport packet = .ok report) :
    player packet = .ok report.record ∧ report.sector < pow2 8 ∧ report.lap < pow2 32 ∧
      report.lapTime < pow2 32 := by
  obtain ⟨found, sector, lap, lapTime⟩ := lapReport_eq_ok_iff.mp read
  exact ⟨found, required_lt sector, required_lt lap, required_lt lapTime⟩

namespace State

/-- A session whose numbers fit their widths. -/
structure InRange (state : State) : Prop where
  sector : state.sector < pow2 8
  lap : state.lap < pow2 32
  times : state.times.Fit

/-- The states of the session on the way through a report, one for each change: the sector, the
time of the sector before it, and if the lap is another, the third sector time, the lap cleared
and its number. -/
def moments (state : State) (report : LapReport) : List State :=
  let entered := state.enterSector report.record report.sector
  let timed := { entered with times := entered.times.atLapEnd report.lapTime }
  let cleared := { timed with sector := 0, times := .unknown, tyre := none }
  { state with sector := report.sector } :: entered ::
    (if report.lap = entered.lap then [] else [timed, cleared, { cleared with lap := report.lap }])

variable {state : State} {report : LapReport}

/-- Sessions that differ in the motion sample and the tyre alone. -/
theorem eq_of_bare_eq {after : State} (same : after.bare = state.bare) :
    after.sector = state.sector ∧ after.lap = state.lap ∧ after.times = state.times := by
  simp only [bare, State.mk.injEq] at same
  exact ⟨same.2.2.2.1, same.2.2.1, same.2.2.2.2.1⟩

/-- The way ends where the report leads to. -/
theorem getLast?_moments (state : State) (report : LapReport) :
    (state.moments report).getLast? = some (state.report report) := by
  unfold moments State.report
  dsimp only
  split
  · rfl
  · rfl

theorem enterSector_lap_label (state : State) (record : Record Value) (sector : Nat) :
    (state.enterSector record sector).lap = state.lap ∧
      (state.enterSector record sector).label = state.label := by
  obtain ⟨times, entered⟩ := exists_enterSector_eq state record sector
  rw [entered]
  exact ⟨rfl, rfl⟩

theorem enterSector_inRange (range : state.InRange) (record : Record Value) {sector : Nat}
    (small : sector < pow2 8) : (state.enterSector record sector).InRange := by
  unfold enterSector
  split
  · exact range
  · refine ⟨small, range.lap, ?_⟩
    dsimp only
    split
    · next fits => exact SectorTimes.set_fit range.times sector fits.2
    · exact range.times

theorem moments_inRange (range : state.InRange) (sector : report.sector < pow2 8)
    (lap : report.lap < pow2 32) (lapTime : report.lapTime < pow2 32) :
    ∀ moment ∈ state.moments report, moment.InRange := by
  have entered := enterSector_inRange range report.record sector
  have timed := SectorTimes.atLapEnd_fit entered.times lapTime
  intro moment mem
  simp only [moments, List.mem_cons] at mem
  rcases mem with rfl | rfl | later
  · exact ⟨sector, range.lap, range.times⟩
  · exact entered
  split at later
  · cases later
  · simp only [List.mem_cons, List.not_mem_nil, or_false] at later
    rcases later with rfl | rfl | rfl
    · exact ⟨entered.sector, entered.lap, timed⟩
    · exact ⟨pow2_pos 8, entered.lap, SectorTimes.unknown_fit⟩
    · exact ⟨pow2_pos 8, lap, SectorTimes.unknown_fit⟩

/-- A record without a third time never fills the third slot. -/
theorem enterSector_third (record : Record Value) (sector : Nat)
    (none : record.get? thirdTimeName = none) :
    (state.enterSector record sector).times.third = state.times.third := by
  unfold enterSector
  split
  · rfl
  dsimp only
  split
  · next fits =>
    refine SectorTimes.set_third _ _ fun third => ?_
    have name : "sector" ++ Decimal.ofNat 3 ++ "_time_in_ms" = thirdTimeName := by decide +kernel
    rw [third, name] at fits
    simp [Record.natural?, none] at fits
  · rfl

theorem report_third (unknown : state.times.third = 0)
    (none : report.record.get? thirdTimeName = none) : (state.report report).times.third = 0 := by
  unfold State.report
  dsimp only
  split
  · exact (enterSector_third report.record report.sector none).trans unknown
  · rfl

/-- What the timing point of a report says. -/
theorem eq_of_mem_timing {write : Write} (mem : write ∈ state.timing report) :
    write = .lap state.label state.lap (timingFields ((state.enterSector report.record
      report.sector).times.atLapEnd report.lapTime) report.lapTime) := by
  obtain ⟨lap, label⟩ := enterSector_lap_label state report.record report.sector
  unfold timing lapWrites at mem
  dsimp only at mem
  split at mem
  · cases mem
  split at mem
  · cases mem
  · rw [List.mem_singleton.mp mem, lap, label]

end State

/-! ## Runs -/

namespace Tracker

variable {σ : Type} (into : Sink σ) (labeler : Nat → String)

theorem run_inRange (sink : σ) (packets : List Packet) :
    ∀ state, ((Tracker.start sink).run into labeler packets).state = some state → state.InRange := by
  refine run_keeps into labeler sink packets ?_ ?_ ?_
  · exact fun _ _ => ⟨pow2_pos 8, pow2_pos 32, SectorTimes.unknown_fit⟩
  · intro state after same range
    obtain ⟨sector, lap, times⟩ := State.eq_of_bare_eq same
    exact ⟨sector ▸ range.sector, lap ▸ range.lap, times ▸ range.times⟩
  · intro packet _ state report reported range
    obtain ⟨-, sector, lap, lapTime⟩ :=
      lapReport_inRange (lapReport_of_lapReport? reported).2
    refine State.moments_inRange range sector lap lapTime _ ?_
    exact List.mem_of_getLast? (State.getLast?_moments state report)

theorem run_third (sink : σ) (packets : List Packet) (untimed : NoThirdTime packets) :
    ∀ state, ((Tracker.start sink).run into labeler packets).state = some state →
      state.times.third = 0 := by
  refine run_keeps into labeler sink packets (fun _ _ => rfl) ?_ ?_
  · intro state after same unknown
    rw [(State.eq_of_bare_eq same).2.2, unknown]
  · intro packet member state report reported unknown
    obtain ⟨kind, read⟩ := lapReport_of_lapReport? reported
    exact State.report_third unknown
      (untimed packet member kind report.record (lapReport_inRange read).1)

/-- A timing point of a run tells the times of the lap that has ended: those that were noted in the
session, the third worked out. -/
theorem exists_times_of_mem_timings (sink : σ) {packets : List Packet} {write : Write}
    (asked : write ∈ (Tracker.start sink).timings into labeler packets) :
    ∃ (label : String) (lap : Nat) (times : SectorTimes) (total : Nat),
      write = .lap label lap (timingFields (times.atLapEnd total) total) ∧ times.Fit ∧
        total < pow2 32 ∧ (NoThirdTime packets → times.third = 0) := by
  obtain ⟨front, packet, rest, state, report, rfl, followed, reported, asks⟩ :=
    exists_report_of_mem_timings into labeler asked
  obtain ⟨kind, read⟩ := lapReport_of_lapReport? reported
  obtain ⟨found, sector, lap, lapTime⟩ := lapReport_inRange read
  have range := run_inRange into labeler sink front state followed
  have entered := (State.enterSector_inRange range report.record sector).times
  refine ⟨state.label, state.lap, _, report.lapTime, State.eq_of_mem_timing asks, entered, lapTime,
    fun untimed => ?_⟩
  have member : packet ∈ front ++ packet :: rest := List.mem_append_right _ List.mem_cons_self
  rw [State.enterSector_third _ _ (untimed packet member kind _ found)]
  exact run_third into labeler sink front untimed.of_append state followed

/-- Whatever the packets of a run are and however they come, its timing points add up as far as the
first two times allow it, and the session never holds a number that its place has no room for. -/
theorem run_sectorTimes (sink : σ) (packets : List Packet) :
    (∀ write ∈ (Tracker.start sink).timings into labeler packets,
      ∃ label lap first second third total,
        write = .lap label lap
          ⟨[("sector_1_ms", .natural first), ("sector_2_ms", .natural second),
            ("sector_3_ms", .natural third), ("total_time_ms", .natural total)]⟩ ∧
        (first < pow2 32 ∧ second < pow2 32 ∧ third < pow2 32 ∧ total < pow2 32) ∧
        (0 < first ∧ 0 < second ∧ first + second ≤ total → first + second + third = total) ∧
        (NoThirdTime packets →
          ¬ (0 < first ∧ 0 < second ∧ first + second ≤ total) → third = 0)) ∧
    (∀ front rest state, packets = front ++ rest →
      ((Tracker.start sink).run into labeler front).state = some state →
        state.InRange ∧ (NoThirdTime packets → state.times.third = 0) ∧
        ∀ packet report, lapReport? packet = some report →
          (∀ moment ∈ state.moments report, moment.InRange) ∧
          ∀ moment ∈ state.moments report,
            moment.times.atLapEnd report.lapTime = moment.times ∨
              (0 ≤ moment.times.remainder report.lapTime ∧
                ((moment.times.atLapEnd report.lapTime).third : Int) =
                  moment.times.remainder report.lapTime)) ∧
    ∃ registry dispatcher, Registry.compile season2021 = .ok registry ∧
      Dispatcher.build registry 2021 = .ok dispatcher ∧
      ((∀ packet ∈ packets, ∃ data, dispatcher.dispatch data = .ok packet) →
        NoThirdTime packets) := by
  refine ⟨fun write asked => ?_, fun front rest state split followed => ?_, ?_⟩
  · obtain ⟨label, lap, times, total, rfl, fit, small, unknown⟩ :=
      exists_times_of_mem_timings into labeler sink asked
    have ended := SectorTimes.atLapEnd_fit fit small
    obtain ⟨first, second⟩ := SectorTimes.atLapEnd_first_second times total
    refine ⟨label, lap, times.first, times.second, (times.atLapEnd total).third, total, ?_,
      ⟨fit.first, fit.second, ended.third, small⟩, SectorTimes.atLapEnd_sum,
      fun untimed incomplete => ?_⟩
    · rw [timingFields, first, second]
    · rw [SectorTimes.atLapEnd_third incomplete, unknown untimed]
  · subst split
    have range := run_inRange into labeler sink front state followed
    refine ⟨range, fun untimed => run_third into labeler sink front untimed.of_append state followed,
      fun packet report reported => ?_⟩
    obtain ⟨-, sector, lap, lapTime⟩ := lapReport_inRange (lapReport_of_lapReport? reported).2
    refine ⟨State.moments_inRange range sector lap lapTime, fun moment _ => ?_⟩
    exact SectorTimes.atLapEnd_signed moment.times report.lapTime
  · obtain ⟨registry, dispatcher, compiled, built, untimed⟩ := noThirdTime_of_season2021
    exact ⟨registry, dispatcher, compiled, built, untimed packets⟩

/-! ## Laps out of order -/

/-- Session 7. Of lap 3 the reports of the third sector come before those of the second, and there
is one of a sector that does not exist; then lap 2 comes again, with times that exceed its own. -/
def strayLaps : List Packet :=
  [packetOf .session [], packetOf .lapData [lapEntries 2 3 0 30500 0],
    packetOf .lapData [lapEntries 2 3 0 30500 0], packetOf .lapData [lapEntries 7 3 0 0 0],
    packetOf .lapData [lapEntries 2 3 0 30500 0], packetOf .lapData [lapEntries 1 3 31000 0 0],
    packetOf .lapData [], packetOf .lapData [lapEntries 0 2 0 0 93250],
    packetOf .lapData [lapEntries 1 2 60000 0 0], packetOf .lapData [lapEntries 2 2 0 60000 0],
    packetOf .lapData [lapEntries 0 4 0 0 90000]]

theorem strayLaps_untimed : NoThirdTime strayLaps := by
  intro packet member kind record found
  simp only [strayLaps, List.mem_cons, List.not_mem_nil, or_false] at member
  rcases member with rfl | rfl | rfl | rfl | rfl | rfl | rfl | rfl | rfl | rfl | rfl
  all_goals cases found
  all_goals rfl

/-- The times of lap 3 make up its 93.250 seconds, and of lap 2 the third stays unknown. -/
theorem run_sectorTimes_strayLaps :
    (Tracker.start []).timings .memory (fun _ => "S1") strayLaps =
        [.lap "S1" 3 ⟨[("sector_1_ms", .natural 31000), ("sector_2_ms", .natural 30500),
            ("sector_3_ms", .natural 31750), ("total_time_ms", .natural 93250)]⟩,
          .lap "S1" 2 ⟨[("sector_1_ms", .natural 60000), ("sector_2_ms", .natural 60000),
            ("sector_3_ms", .natural 0), ("total_time_ms", .natural 90000)]⟩] ∧
      ∀ front rest state, strayLaps = front ++ rest →
        ((Tracker.start []).run .memory (fun _ => "S1") front).state = some state →
          state.InRange ∧ state.times.third = 0 := by
  refine ⟨by decide +kernel, fun front rest state split followed => ?_⟩
  obtain ⟨-, states, -⟩ := run_sectorTimes .memory (fun _ => "S1") [] strayLaps
  obtain ⟨range, third, -⟩ := states front rest state split followed
  exact ⟨range, third strayLaps_untimed⟩

end Tracker

end LapTelemetry.Session
