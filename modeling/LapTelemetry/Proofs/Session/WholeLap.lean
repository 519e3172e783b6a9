import LapTelemetry.Proofs.Session.LapCourse

/-! # A whole lap

The reports of a lap come sector by sector. Within a sector they change nothing;
the first one of a sector notes the time of the sector before, and the first one
of another lap asks for the timing point. Whatever arrives between them, the run
asks for exactly one such point, and the next lap starts without times
(`run_wholeLap`). -/

namespace LapTelemetry.Session

open LapTelemetry.Datagram LapTelemetry.Number LapTelemetry.Point LapTelemetry.Text LapTelemetry.Wire

set_option autoImplicit false

/-- The reports of a whole lap, and the first one of another. -/
structure WholeLap (number first second : Nat) where
  inFirst : List LapReport
  entersSecond : LapReport
  inSecond : List LapReport
  entersThird : LapReport
  inThird : List LapReport
  leaves : LapReport
  inFirst_at : ∀ report ∈ inFirst, report.sector = 0 ∧ report.lap = number
  inSecond_at : ∀ report ∈ entersSecond :: inSecond, report.sector = 1 ∧ report.lap = number
  inThird_at : ∀ report ∈ entersThird :: inThird, report.sector = 2 ∧ report.lap = number
  leaves_at : leaves.sector = 0 ∧ leaves.lap ≠ number
  first_time : entersSecond.record.natural? "sector1_time_in_ms" = some first
  second_time : entersThird.record.natural? "sector2_time_in_ms" = some second
  first_fits : 0 < first ∧ first < pow2 32
  second_fits : 0 < second ∧ second < pow2 32

/-- The reports in the order of arrival. -/
def WholeLap.reports {number first second : Nat} (lap : WholeLap number first second) :
    List LapReport :=
  lap.inFirst ++ (lap.entersSecond :: lap.inSecond) ++ (lap.entersThird :: lap.inThird) ++
    [lap.leaves]

/-! ## Reports within a lap -/

namespace State

variable {state : State} {report : LapReport} {ms : Nat}

/-- A report of the sector and the lap that are current changes nothing. -/
theorem report_stays (sector : report.sector = state.sector) (lap : report.lap = state.lap) :
    state.report report = state ∧ state.timing report = [] := by
  have entered : state.enterSector report.record report.sector = state := by
    rw [enterSector, if_pos sector]
  constructor
  · rw [State.report, entered, if_pos lap]
  · rw [timing, entered, if_pos lap]

/-- The first report of a sector notes the time of the sector before. -/
theorem report_enters (sector : report.sector ≠ state.sector) (lap : report.lap = state.lap)
    (time : report.record.natural? ("sector" ++ Decimal.ofNat report.sector ++ "_time_in_ms") =
      some ms)
    (fits : 0 < ms ∧ ms < pow2 32) :
    state.report report =
        { state with sector := report.sector, times := state.times.set report.sector ms } ∧
      state.timing report = [] := by
  have entered : state.enterSector report.record report.sector =
      { state with sector := report.sector, times := state.times.set report.sector ms } := by
    simp only [enterSector, if_neg sector, time, Option.getD_some]
    rw [if_pos fits]
  constructor
  · rw [State.report, entered, if_pos lap]
  · rw [timing, entered, if_pos lap]

/-- The first report of another lap, at its start, closes the lap with the times noted. -/
theorem report_leaves (start : report.sector = 0) (lap : report.lap ≠ state.lap) :
    (state.report report).lap = report.lap ∧ (state.report report).sector = 0 ∧
      (state.report report).times = .unknown ∧
      state.timing report =
        state.lapWrites (timingFields (state.times.atLapEnd report.lapTime) report.lapTime) := by
  have kept : (state.enterSector report.record report.sector).lap = state.lap ∧
      (state.enterSector report.record report.sector).label = state.label ∧
      (state.enterSector report.record report.sector).times = state.times := by
    unfold enterSector
    split
    · exact ⟨rfl, rfl, rfl⟩
    · refine ⟨rfl, rfl, ?_⟩
      simp only [start, SectorTimes.set, ite_self]
  have another : report.lap ≠ (state.enterSector report.record report.sector).lap := by
    rwa [kept.1]
  rw [State.report, if_neg another, timing, if_neg another]
  refine ⟨rfl, rfl, rfl, ?_⟩
  simp only [lapWrites, kept.1, kept.2.1, kept.2.2]

theorem course_stays {reports : List LapReport}
    (at_ : ∀ report ∈ reports, report.sector = state.sector ∧ report.lap = state.lap) :
    state.course reports = state ∧ state.timings reports = [] := by
  induction reports with
  | nil => exact ⟨rfl, rfl⟩
  | cons report rest ih =>
    obtain ⟨sector, lap⟩ := at_ report List.mem_cons_self
    obtain ⟨same, silent⟩ := report_stays sector lap
    obtain ⟨course, timings⟩ := ih fun later mem => at_ later (List.mem_cons_of_mem report mem)
    refine ⟨?_, ?_⟩
    · rw [State.course, List.foldl_cons, same]
      exact course
    · rw [State.timings, silent, same, timings]
      rfl

/-- The reports of a sector that is entered: the first notes the time, the others change nothing. -/
theorem course_enters {reports : List LapReport} {sector : Nat}
    (at_ : ∀ other ∈ report :: reports, other.sector = sector ∧ other.lap = state.lap)
    (fresh : sector ≠ state.sector)
    (time : report.record.natural? ("sector" ++ Decimal.ofNat sector ++ "_time_in_ms") = some ms)
    (fits : 0 < ms ∧ ms < pow2 32) :
    state.course (report :: reports) = { state with sector, times := state.times.set sector ms } ∧
      state.timings (report :: reports) = [] := by
  obtain ⟨here, lap⟩ := at_ report List.mem_cons_self
  subst here
  obtain ⟨entered, silent⟩ := report_enters fresh lap time fits
  have rest : ∀ other ∈ reports, other.sector = (state.report report).sector ∧
      other.lap = (state.report report).lap := by
    rw [entered]
    exact fun other mem => at_ other (List.mem_cons_of_mem report mem)
  obtain ⟨course, timings⟩ := course_stays rest
  constructor
  · rw [State.course, List.foldl_cons, ← entered]
    exact course
  · rw [State.timings, silent, timings]
    rfl

end State

theorem SectorTimes.atLapEnd_known {first second lapTime : Nat} (known : 0 < first ∧ 0 < second) :
    SectorTimes.atLapEnd ⟨first, second, 0⟩ lapTime =
      ⟨first, second, if first + second ≤ lapTime then lapTime - (first + second) else 0⟩ := by
  unfold SectorTimes.atLapEnd
  by_cases within : first + second ≤ lapTime
  · rw [if_pos ⟨known.1, known.2, within⟩, if_pos within]
  · rw [if_neg fun all => within all.2.2, if_neg within]

/-- What the reports of a whole lap come to. -/
theorem course_wholeLap (state : State) {first second : Nat} (lap : WholeLap state.lap first second)
    (driving : 0 < state.lap) (atStart : state.sector = 0) (untimed : state.times = .unknown) :
    (state.course lap.reports).lap = lap.leaves.lap ∧ (state.course lap.reports).sector = 0 ∧
      (state.course lap.reports).times = .unknown ∧
      state.timings lap.reports = [.lap state.label state.lap (timingFields ⟨first, second,
        if first + second ≤ lap.leaves.lapTime then lap.leaves.lapTime - (first + second) else 0⟩
        lap.leaves.lapTime)] := by
  obtain ⟨course₁, timings₁⟩ := State.course_stays (atStart ▸ lap.inFirst_at)
  have firstName : "sector" ++ Decimal.ofNat 1 ++ "_time_in_ms" = "sector1_time_in_ms" := by
    decide +kernel
  have secondName : "sector" ++ Decimal.ofNat 2 ++ "_time_in_ms" = "sector2_time_in_ms" := by
    decide +kernel
  -- the second sector, with the time of the first
  let inSecond : State := { state with sector := 1, times := state.times.set 1 first }
  obtain ⟨course₂, timings₂⟩ : state.course (lap.entersSecond :: lap.inSecond) = inSecond ∧ _ :=
    State.course_enters lap.inSecond_at (by rw [atStart]; decide)
      (firstName ▸ lap.first_time) lap.first_fits
  -- the third sector, with the times of both
  let inThird : State := { inSecond with sector := 2, times := inSecond.times.set 2 second }
  obtain ⟨course₃, timings₃⟩ : inSecond.course (lap.entersThird :: lap.inThird) = inThird ∧ _ :=
    State.course_enters lap.inThird_at (show 2 ≠ 1 by decide)
      (secondName ▸ lap.second_time) lap.second_fits
  obtain ⟨start, another⟩ := lap.leaves_at
  obtain ⟨number, sector, times, timing⟩ :=
    State.report_leaves start (show lap.leaves.lap ≠ inThird.lap from another)
  have noted : inThird.times = ⟨first, second, 0⟩ := by
    simp only [inThird, inSecond, untimed]
    rfl
  have course : state.course lap.reports = inThird.report lap.leaves := by
    simp only [WholeLap.reports, State.course_append, course₁, course₂, course₃]
    rfl
  have timings : state.timings lap.reports = inThird.timing lap.leaves := by
    simp only [WholeLap.reports, State.timings_append, State.course_append, course₁, course₂, course₃,
      timings₁, timings₂, timings₃, List.nil_append]
    exact List.append_nil _
  rw [course, timings, timing, noted,
    SectorTimes.atLapEnd_known ⟨lap.first_fits.1, lap.second_fits.1⟩, State.lapWrites,
    if_neg (Nat.ne_of_gt (show 0 < inThird.lap from driving))]
  exact ⟨number, sector, times, rfl⟩

namespace Tracker

/-- A session at the start of a lap, and packets of all kinds without another session, of which the
accepted lap packets report a whole lap. -/
theorem run_wholeLap {σ : Type} (into : Sink σ) (labeler : Nat → String) (tracker : Tracker σ)
    (packets : List Packet) (state : State) (first second : Nat)
    (lap : WholeLap state.lap first second) (followed : tracker.state = some state)
    (driving : 0 < state.lap) (atStart : state.sector = 0) (untimed : state.times = .unknown)
    (steady : ∀ packet ∈ packets, packet.kind = .session → packet.header.sessionUid = state.uid)
    (reports : tracker.reports into labeler packets = lap.reports) :
    tracker.timings into labeler packets =
        [.lap state.label state.lap
          ⟨[("sector_1_ms", .natural first), ("sector_2_ms", .natural second),
            ("sector_3_ms", .natural (if first + second ≤ lap.leaves.lapTime then
              lap.leaves.lapTime - (first + second) else 0)),
            ("total_time_ms", .natural lap.leaves.lapTime)]⟩] ∧
      ∃ after, (tracker.run into labeler packets).state = some after ∧
        after.lap = lap.leaves.lap ∧ after.sector = 0 ∧ after.times = .unknown := by
  obtain ⟨⟨after, last, course⟩, timings⟩ :=
    run_course into labeler packets tracker state followed steady
  rw [reports] at course timings
  obtain ⟨number, sector, times, timing⟩ :
      (state.bare.course lap.reports).lap = lap.leaves.lap ∧ _ :=
    course_wholeLap state.bare lap driving atStart untimed
  refine ⟨timings.trans timing, after, last, ?_, ?_, ?_⟩
  · exact (congrArg State.lap course).trans number
  · exact (congrArg State.sector course).trans sector
  · exact (congrArg State.times course).trans times

/-! ## A lap with packets of every kind -/

/-- The numbers of a lap packet. -/
def lapEntries (sector lap first second lapTime : Nat) : List (String × Value) :=
  [("sector", .natural .uint8 sector), ("current_lap_num", .natural .uint8 lap),
    ("sector1_time_in_ms", .natural .uint16 first), ("sector2_time_in_ms", .natural .uint16 second),
    ("last_lap_time_in_ms", .natural .uint32 lapTime)]

/-- A packet of session 7 for the player's car, which has the first record if there is any. -/
def packetOf (kind : Kind) (cars : List (List (String × Value))) : Packet :=
  ⟨⟨2021, 1, 16, 1, 0, 7, 0, 0, 0, 255⟩, kind,
    ⟨kind.perCarField?.toList.map fun field => (field, .array (cars.map fun car => .record ⟨car⟩))⟩⟩

/-- Lap 4 of session 7. The second telemetry has no motion sample left and one lap packet has no
record of the player; both are refused. -/
def fourthLap : List Packet :=
  [packetOf .motion [[]], packetOf .lapData [lapEntries 0 4 0 0 90000], packetOf .session [],
    packetOf .carTelemetry [[("speed", .natural .uint16 300)]],
    packetOf .lapData [lapEntries 1 4 31000 0 90000], packetOf .carTelemetry [[]],
    packetOf .carStatus
      [[("visual_tyre_compound", .natural .uint8 16), ("tyres_age_laps", .natural .uint8 2)]],
    packetOf .lapData [], packetOf .lapData [lapEntries 1 4 31001 0 90000],
    packetOf .lapData [lapEntries 2 4 31000 30500 90000], packetOf .carDamage [[]],
    packetOf .lapData [lapEntries 0 5 31000 30500 93250]]

/-- A tracker that follows session 7 from the start of lap 4. -/
def beforeFourth : Tracker (List Write) :=
  ⟨some ⟨7, "S1", 4, 0, .unknown, none, none⟩, .zero, 1, [], []⟩

/-- What the accepted lap packets of lap 4 report. -/
def fourthReports : WholeLap 4 31000 30500 where
  inFirst := [⟨⟨lapEntries 0 4 0 0 90000⟩, 0, 4, 90000⟩]
  entersSecond := ⟨⟨lapEntries 1 4 31000 0 90000⟩, 1, 4, 90000⟩
  inSecond := [⟨⟨lapEntries 1 4 31001 0 90000⟩, 1, 4, 90000⟩]
  entersThird := ⟨⟨lapEntries 2 4 31000 30500 90000⟩, 2, 4, 90000⟩
  inThird := []
  leaves := ⟨⟨lapEntries 0 5 31000 30500 93250⟩, 0, 5, 93250⟩
  inFirst_at := by simp
  inSecond_at := by simp
  inThird_at := by simp
  leaves_at := by simp
  first_time := rfl
  second_time := rfl
  first_fits := by decide
  second_fits := by decide

/-- The time of the third sector is what the first two leave of 93.250 seconds. -/
theorem run_wholeLap_fourth :
    beforeFourth.timings .memory (fun _ => "S2") fourthLap =
        [.lap "S1" 4 ⟨[("sector_1_ms", .natural 31000), ("sector_2_ms", .natural 30500),
          ("sector_3_ms", .natural 31750), ("total_time_ms", .natural 93250)]⟩] ∧
      ∃ after, (beforeFourth.run .memory (fun _ => "S2") fourthLap).state = some after ∧
        after.lap = 5 ∧ after.sector = 0 ∧ after.times = .unknown := by
  have steady : ∀ packet ∈ fourthLap, packet.kind = .session → packet.header.sessionUid = 7 := by
    simp [fourthLap, packetOf]
  have reports : beforeFourth.reports .memory (fun _ => "S2") fourthLap = fourthReports.reports :=
    rfl
  have whole := run_wholeLap .memory (fun _ => "S2") beforeFourth fourthLap
    ⟨7, "S1", 4, 0, .unknown, none, none⟩ 31000 30500 fourthReports rfl (by decide) rfl rfl steady
    reports
  have lapTime : fourthReports.leaves.lapTime = 93250 := rfl
  rw [lapTime, if_pos (by decide)] at whole
  exact whole

end Tracker

end LapTelemetry.Session
