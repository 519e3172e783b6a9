import LapTelemetry.Proofs.Session.LapPackets

/-! # A lap packet delivered again

Datagrams may arrive twice. A session that stands where a report says, in its sector and
on its lap, learns nothing from it (`lapReaction_of_standsAt`), and a report of the same
lap or of the first sector leaves the session there (`standsAt_report`).

Another report does not. A new lap starts in its first sector, whatever sector the report
that began it has, so the report delivered again enters that sector, with the time that it
has for it. This is all it does: the tyre went with the lap before, and nothing is written
(`lapReaction_report`). Then the session stands where the report says, and every further
delivery finds it there (`handle_redelivered`). -/

namespace LapTelemetry.Session

open LapTelemetry.Datagram LapTelemetry.Point LapTelemetry.Wire

set_option autoImplicit false

/-! ## Reports -/

/-- The session is in the sector and on the lap of a report. -/
structure State.StandsAt (state : State) (report : LapReport) : Prop where
  sector : report.sector = state.sector
  lap : report.lap = state.lap

section Report

variable {state : State} {report : LapReport}

theorem report_of_standsAt (stands : state.StandsAt report) : state.report report = state := by
  rw [report_eq, if_pos stands.lap]
  simp only [SectorTimes.behind, noted?_of_same stands.sector, Option.getD_none]
  rw [stands.sector]

/-- Where the session stands already, the report does nothing. -/
theorem lapReaction_of_standsAt (stands : state.StandsAt report) :
    state.lapReaction report = .quiet state := by
  have writes : (state.lapReaction report).writes = [] := by
    rw [lapReaction_writes, if_pos stands.sector, if_pos stands.lap, List.append_nil]
  have completed : (state.lapReaction report).completed = none := by
    rw [lapReaction_completed]
    exact if_neg fun ended => ended.1 stands.lap
  calc state.lapReaction report
      = ⟨some (state.report report), (state.lapReaction report).writes, false,
          (state.lapReaction report).completed⟩ := rfl
    _ = .quiet state := by rw [writes, completed, report_of_standsAt stands]; rfl

theorem report_lap (state : State) (report : LapReport) :
    (state.report report).lap = report.lap := by
  obtain ⟨sector, times, tyre, reported⟩ := State.exists_report_eq state report
  rw [reported]

theorem standsAt_report (known : report.lap = state.lap ∨ report.sector = 0) :
    (state.report report).StandsAt report := by
  refine ⟨?_, (report_lap state report).symm⟩
  rw [report_eq]
  by_cases same : report.lap = state.lap
  · rw [if_pos same]
  · rw [if_neg same]
    exact known.resolve_left same

/-- The report of the lap that the session is on changes the sector and the times alone. -/
theorem exists_report_report_eq (state : State) (report : LapReport) :
    ∃ sector times, (state.report report).report report =
      { state.report report with sector, times } := by
  rw [report_eq (state.report report), if_pos (report_lap state report).symm]
  exact ⟨_, _, rfl⟩

/-- After two deliveries the session stands where the report says, since the second is of the lap
that the first has begun. -/
theorem standsAt_report_report (state : State) (report : LapReport) :
    ((state.report report).report report).StandsAt report :=
  standsAt_report (.inl (report_lap state report).symm)

/-- The second delivery changes the session alone, and there the sector and the times. -/
theorem lapReaction_report (state : State) (report : LapReport) :
    (state.report report).lapReaction report =
      .quiet ((state.report report).report report) := by
  by_cases known : report.lap = state.lap ∨ report.sector = 0
  · have stands := standsAt_report known
    rw [report_of_standsAt stands, lapReaction_of_standsAt stands]
  · have begun : state.report report = state.onLap report.lap := by
      rw [report_eq, if_neg fun same => known (.inl same)]
    have writes : ((state.report report).lapReaction report).writes = [] := by
      rw [lapReaction_writes, if_pos (report_lap state report).symm, begun, List.append_nil]
      exact ite_self _
    have completed : ((state.report report).lapReaction report).completed = none := by
      rw [lapReaction_completed]
      exact if_neg fun ended => ended.1 (report_lap state report).symm
    calc (state.report report).lapReaction report
        = ⟨some ((state.report report).report report),
            ((state.report report).lapReaction report).writes, false,
            ((state.report report).lapReaction report).completed⟩ := rfl
      _ = .quiet ((state.report report).report report) := by rw [writes, completed]; rfl

end Report

/-! ## Deliveries -/

namespace Tracker

variable {σ : Type} {into : Sink σ} {labeler : Nat → String} {tracker : Tracker σ}
  {packet : Packet}

theorem handle_of_quiet {state : State}
    (decided : react tracker.state (labeler tracker.labelsGiven) packet = .ok (.quiet state)) :
    tracker.handle into labeler packet = (.ok (), { tracker with state := some state }) := by
  rw [handle_of_advance decided]
  simp only [advance, Option.toList_none, List.append_nil, List.foldl_nil]

/-- A packet that leaves the tracker as it is does so however often it is delivered. -/
theorem run_replicate (unchanged : tracker.handle into labeler packet = (.ok (), tracker))
    (silent : tracker.attempted into labeler packet = []) (count : Nat) :
    tracker.run into labeler (List.replicate count packet) = tracker ∧
      tracker.attempts into labeler (List.replicate count packet) = [] := by
  induction count with
  | zero => exact ⟨rfl, rfl⟩
  | succ count ih =>
    obtain ⟨same, none⟩ := ih
    rw [List.replicate_succ, run, List.foldl_cons, attempts, silent, unchanged]
    exact ⟨same, none⟩

/-- A lap packet leaves a tracker as it is whose session stands where its report says. -/
theorem handle_of_standsAt {state : State} {report : LapReport}
    (followed : tracker.state = some state) (kind : packet.kind = .lapData)
    (read : lapReport packet = .ok report) (stands : state.StandsAt report) :
    tracker.handle into labeler packet = (.ok (), tracker) ∧
      tracker.attempted into labeler packet = [] := by
  have decided : react tracker.state (labeler tracker.labelsGiven) packet = .ok (.quiet state) := by
    rw [followed, react_lapPacket _ kind read, lapReaction_of_standsAt stands]
  refine ⟨?_, attempted_of_reaction decided⟩
  rw [handle_of_quiet decided, ← followed]

/-- Two deliveries of a lap packet; the second changes the session alone. -/
theorem handle_twice {state : State} {report : LapReport} (followed : tracker.state = some state)
    (kind : packet.kind = .lapData) (read : lapReport packet = .ok report) :
    let once := (tracker.handle into labeler packet).2
    once.state = some (state.report report) ∧
      once.handle into labeler packet =
        (.ok (), { once with state := some ((state.report report).report report) }) ∧
      once.attempted into labeler packet = [] := by
  intro once
  have decided : react tracker.state (labeler tracker.labelsGiven) packet =
      .ok (state.lapReaction report) := by
    rw [followed, react_lapPacket _ kind read]
  have reached : once.state = some (state.report report) := handle_state decided
  have decidedAgain : react once.state (labeler once.labelsGiven) packet =
      .ok (.quiet ((state.report report).report report)) := by
    rw [reached, react_lapPacket _ kind read, lapReaction_report]
  exact ⟨reached, handle_of_quiet decidedAgain, attempted_of_reaction decidedAgain⟩

/-- **A lap packet may be delivered again.** The second delivery is accepted, writes nothing and
changes at most the sector and the times of the session; it changes nothing at all if the packet is
of the lap that the session was on before the first, or of the first sector. From the third delivery
on nothing changes and nothing is written. -/
theorem handle_redelivered (into : Sink σ) (labeler : Nat → String) (tracker : Tracker σ)
    (packet : Packet) (kind : packet.kind = .lapData)
    (accepted : (tracker.handle into labeler packet).1 = .ok ()) :
    let once := (tracker.handle into labeler packet).2
    let twice := (once.handle into labeler packet).2
    once.handle into labeler packet = (.ok (), twice) ∧
      once.attempted into labeler packet = [] ∧
      (∀ state, once.state = some state →
        ∃ sector times, twice = { once with state := some { state with sector, times } }) ∧
      ((∀ state record, tracker.state = some state → player packet = .ok record →
          record.natural? "current_lap_num" = some state.lap ∨
            record.natural? "sector" = some 0) →
        twice = once) ∧
      twice.handle into labeler packet = (.ok (), twice) ∧
      ∀ count, twice.run into labeler (List.replicate count packet) = twice ∧
        twice.attempts into labeler (List.replicate count packet) = [] := by
  intro once twice
  cases followed : tracker.state with
  | none =>
    -- Without a session every delivery is let pass.
    have other : packet.kind ≠ .session := by rw [kind]; decide
    have ignored : react tracker.state (labeler tracker.labelsGiven) packet =
        .ok ⟨none, [], false, none⟩ := followed ▸ react_of_idle _ other
    have unchanged : tracker.handle into labeler packet = (.ok (), tracker) :=
      handle_of_idle followed other
    have silent : tracker.attempted into labeler packet = [] := attempted_of_reaction ignored
    have first : once = tracker := congrArg Prod.snd unchanged
    have second : twice = tracker := by
      unfold twice
      rw [first, unchanged]
    rw [second, first]
    refine ⟨unchanged, silent, fun state reached => ?_, fun _ => rfl, unchanged,
      run_replicate unchanged silent⟩
    rw [followed] at reached
    cases reached
  | some state =>
    cases decided : react tracker.state (labeler tracker.labelsGiven) packet with
    | error fault =>
      rw [handle_of_refusal decided] at accepted
      cases accepted
    | ok reaction =>
      rw [followed] at decided
      obtain ⟨report, reported, rfl⟩ := react_lapData decided kind
      obtain ⟨-, read⟩ := lapReport_of_lapReport? reported
      obtain ⟨reached, again, silent⟩ := handle_twice followed kind read
      have second : twice = { once with state := some ((state.report report).report report) } :=
        congrArg Prod.snd again
      obtain ⟨unchanged, silentThen⟩ := handle_of_standsAt (congrArg Tracker.state second) kind read
        (standsAt_report_report state report)
      refine ⟨second ▸ again, silent, ?_, ?_, unchanged, run_replicate unchanged silentThen⟩
      · intro before same
        cases reached.symm.trans same
        obtain ⟨sector, times, changed⟩ := exists_report_report_eq state report
        exact ⟨sector, times, changed ▸ second⟩
      · intro known
        obtain ⟨found, sector, lap, -⟩ := lapReport_eq_ok_iff.mp read
        have stands : (state.report report).StandsAt report := by
          refine standsAt_report ((known state report.record rfl found).imp ?_ ?_)
          · exact fun same => Option.some.inj ((required_eq_ok_iff.mp lap).1.symm.trans same)
          · exact fun first => Option.some.inj ((required_eq_ok_iff.mp sector).1.symm.trans first)
        have unchanged : once.handle into labeler packet = (.ok (), once) :=
          (handle_of_standsAt reached kind read stands).1
        show (once.handle into labeler packet).2 = once
        rw [unchanged]

/-- From the second sector of lap 3 to the third of lap 4, twice. The second delivery enters the
third sector, with the time that it has for it. -/
theorem handle_redelivered_waiting :
    let lapEnd := packetOf .lapData [lapEntries 2 4 31000 30500 93250]
    let motion : Record Value := ⟨[("g_force", .natural .uint8 1)]⟩
    let once := (waiting.handle .memory (fun _ => "S2") lapEnd).2
    let twice := (once.handle .memory (fun _ => "S2") lapEnd).2
    once.state = some ⟨7, "S1", 4, 0, .unknown, some motion, none⟩ ∧
      twice = { once with state := some ⟨7, "S1", 4, 2, ⟨0, 30500, 0⟩, some motion, none⟩ } ∧
      once.attempted .memory (fun _ => "S2") lapEnd = [] ∧
      ∀ count, twice.run .memory (fun _ => "S2") (List.replicate count lapEnd) = twice := by
  intro lapEnd motion once twice
  obtain ⟨-, silent, changes, -, -, settled⟩ :=
    handle_redelivered .memory (fun _ => "S2") waiting lapEnd rfl rfl
  have reached : once.state = some ⟨7, "S1", 4, 0, .unknown, some motion, none⟩ := rfl
  obtain ⟨sector, times, second⟩ := changes _ reached
  have seen : twice.snapshot = ⟨some 7, some "S1", 4, 2, ⟨0, 30500, 0⟩, none⟩ := by decide +kernel
  have alike := (congrArg Tracker.snapshot second).symm.trans seen
  obtain rfl : sector = 2 := congrArg Snapshot.sector alike
  obtain rfl : times = ⟨0, 30500, 0⟩ := congrArg Snapshot.times alike
  exact ⟨reached, second, silent, fun count => (settled count).1⟩

end Tracker

end LapTelemetry.Session
