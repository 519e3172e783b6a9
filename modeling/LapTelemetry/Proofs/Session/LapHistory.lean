import Mathlib.Data.List.DropRight
import LapTelemetry.Proofs.Session.LapPackets
import LapTelemetry.Proofs.Session.Starts

/-! # The lap of a session in its history

What a session holds of a lap hangs on few entries of the history. An entry that starts
the session, or reports another lap, clears it; behind the last of these (`behindLast`),
each part of the lap is as the last entry has left it that says something about that
part (`run_lastTold`). `Handled.GoesOn` lists what an entry can do to the session it has
met: begin another lap, report the same one, or change no more than the motion sample
and the tyre.

For the number of the lap, the sector and the three times this is said in
`run_lapState`, for sectors in any order, with any gaps and beyond the third. -/

namespace LapTelemetry.Session

open LapTelemetry.Datagram LapTelemetry.Number LapTelemetry.Point LapTelemetry.Wire

set_option autoImplicit false

/-- The tyre in a record, if it has an age and a compound that is known. -/
def tyreIn? (record : Record Value) : Option TyreReport :=
  ((record.natural? "visual_tyre_compound").bind TyreCompound.ofCode?).bind fun compound =>
    (record.natural? "tyres_age_laps").map fun age => ⟨compound, age⟩

/-- A status packet puts the tyre that it tells in the place of the one before. -/
theorem eq_of_onStatus {state : State} {packet : Packet} {reaction : Reaction}
    (decided : onStatus state packet = .ok reaction) :
    ∃ record, player packet = .ok record ∧
      reaction = .quiet { state with tyre := (tyreIn? record).or state.tyre } := by
  obtain ⟨record, found, decided⟩ := bind_eq_ok.mp decided
  obtain ⟨code, codeRead, decided⟩ := bind_eq_ok.mp decided
  obtain ⟨age, ageRead, decided⟩ := bind_eq_ok.mp decided
  refine ⟨record, found, ?_⟩
  simp only [tyreIn?, (required_eq_ok_iff.mp codeRead).1, (required_eq_ok_iff.mp ageRead).1]
  cases known : TyreCompound.ofCode? code with
  | none =>
    rw [known] at decided
    cases decided
    simp [known]
  | some compound =>
    rw [known] at decided
    cases decided
    simp [known]

namespace Handled

instance (handled : Handled) (kind : Kind) : Decidable (handled.Accepted kind) :=
  decidable_of_iff (handled.packet.kind = kind ∧ handled.before.isSome ∧ handled.outcome.isOk) <| by
    unfold Accepted
    cases handled.outcome with
    | error fault => simp [Except.isOk, Except.toBool]
    | ok done => simp [Except.isOk, Except.toBool]

/-! ## What an entry says -/

/-- The report of a lap packet that has been accepted in a session. -/
def report? (handled : Handled) : Option LapReport :=
  if handled.Accepted .lapData then lapReport? handled.packet else none

/-- The time that an entry notes for a sector. -/
def noted? (handled : Handled) (number : Nat) : Option Nat :=
  handled.report?.bind fun report =>
    handled.before.bind fun state => report.noted? state.sector number

/-- The tyre in a status packet that has been accepted in a session, if its compound is known. -/
def tyre? (handled : Handled) : Option TyreReport :=
  if handled.Accepted .carStatus then (player handled.packet).toOption.bind tyreIn? else none

/-- A lap packet that has been accepted and has led to another lap. -/
def ChangesLap (handled : Handled) : Prop :=
  handled.Accepted .lapData ∧ handled.after.map (·.lap) ≠ handled.before.map (·.lap)

instance (handled : Handled) : Decidable handled.ChangesLap :=
  inferInstanceAs (Decidable (handled.Accepted .lapData ∧
    handled.after.map (·.lap) ≠ handled.before.map (·.lap)))

/-- The entry begins a lap: the first lap of a session, or another one. -/
def BeginsLap (handled : Handled) : Prop := handled.Starts ∨ handled.ChangesLap

instance (handled : Handled) : Decidable handled.BeginsLap :=
  inferInstanceAs (Decidable (handled.Starts ∨ handled.ChangesLap))

/-- The entries behind the last one of a sort. -/
def behindLast (boundary : Handled → Prop) [DecidablePred boundary] (log : List Handled) :
    List Handled :=
  log.rtakeWhile fun handled => !decide (boundary handled)

theorem behindLast_concat (boundary : Handled → Prop) [DecidablePred boundary]
    (log : List Handled) (handled : Handled) :
    behindLast boundary (log ++ [handled]) =
      if boundary handled then [] else behindLast boundary log ++ [handled] := by
  unfold behindLast
  rw [List.rtakeWhile_concat]
  by_cases cut : boundary handled
  · rw [if_pos cut, if_neg (by simp [cut])]
  · rw [if_neg cut, if_pos (by simp [cut])]

/-! ## What an entry does -/

/-- How an entry that starts no session goes on with the one it has met. -/
inductive GoesOn (state : State) (handled : Handled) : State → Prop where
  | nextLap {report : LapReport} (reported : handled.report? = some report)
      (other : report.lap ≠ state.lap) : GoesOn state handled (state.onLap report.lap)
  | sameLap {report : LapReport} (reported : handled.report? = some report)
      (silent : handled.tyre? = none) (same : report.lap = state.lap) :
      GoesOn state handled
        { state with sector := report.sector, times := state.times.behind report state.sector }
  | aside (unreported : handled.report? = none) (sample : Option (Record Value)) :
      GoesOn state handled
        { state with pendingMotion := sample, tyre := handled.tyre?.or state.tyre }

section Decided

variable {before : Option State} {state : State} {label : String} {packet : Packet}

theorem accepted_decided_iff {kind : Kind} : (decided before label packet).Accepted kind ↔
    packet.kind = kind ∧ before.isSome ∧ (decided before label packet).outcome = .ok () := by
  simp only [Accepted, decided_packet, decided_before]

theorem report?_of_accepted (accepted : (decided (some state) label packet).outcome = .ok ()) :
    (decided (some state) label packet).report? = lapReport? packet := by
  unfold report?
  rw [decided_packet]
  by_cases kind : packet.kind = .lapData
  · exact if_pos (accepted_decided_iff.mpr ⟨kind, rfl, accepted⟩)
  · rw [if_neg fun taken => kind (accepted_decided_iff.mp taken).1, lapReport?, if_neg kind]

/-- An accepted status packet changes the tyre alone, if it tells one. -/
theorem after_of_status (accepted : (decided (some state) label packet).outcome = .ok ())
    (kind : packet.kind = .carStatus) :
    (decided (some state) label packet).after =
      some { state with tyre := (decided (some state) label packet).tyre?.or state.tyre } := by
  have taken := accepted_decided_iff.mpr ⟨kind, rfl, accepted⟩
  cases decision : react (some state) label packet with
  | error fault => rw [decided_of_refusal decision] at accepted; cases accepted
  | ok reaction =>
    rw [tyre?, if_pos taken, decided_packet, decided_of_reaction decision]
    simp only [react, kind] at decision
    obtain ⟨record, found, rfl⟩ := eq_of_onStatus decision
    rw [found]
    rfl

theorem tyre?_of_kind_ne (other : packet.kind ≠ .carStatus) :
    (decided before label packet).tyre? = none :=
  if_neg fun taken => other (accepted_decided_iff.mp taken).1

theorem silent_of_refused (refused : (decided before label packet).outcome ≠ .ok ()) :
    (decided before label packet).report? = none ∧ (decided before label packet).tyre? = none :=
  ⟨if_neg fun taken => refused taken.2.2, if_neg fun taken => refused taken.2.2⟩

/-- A packet that tells neither a report nor a tyre leaves all but the motion sample. -/
theorem goesOn_of_silent (unreported : (decided (some state) label packet).report? = none)
    (untold : (decided (some state) label packet).tyre? = none) (sample : Option (Record Value)) :
    GoesOn state (decided (some state) label packet) { state with pendingMotion := sample } := by
  have aside : GoesOn state _ _ := .aside unreported sample
  rwa [untold] at aside

/-- An entry that starts no session is one of these. -/
theorem goesOn_of_decided (steady : ¬ (decided (some state) label packet).Starts) :
    ∃ after, (decided (some state) label packet).after = some after ∧
      GoesOn state (decided (some state) label packet) after := by
  by_cases accepted : (decided (some state) label packet).outcome = .ok ()
  · obtain ⟨reaction, decision, entry, same⟩ := exists_reaction accepted steady
    obtain ⟨after, reached, next⟩ := next_of_react decision same
    have leads : (decided (some state) label packet).after = some after := by rw [entry, reached]
    refine ⟨after, leads, ?_⟩
    have reports := report?_of_accepted accepted
    have aside (sample : Option (Record Value)) (other : packet.kind ≠ .lapData)
        (untold : packet.kind ≠ .carStatus) :=
      goesOn_of_silent (reports.trans (if_neg other)) (tyre?_of_kind_ne untold) sample
    cases next with
    | @lapData report kind reported =>
      rw [report_eq]
      split
      · next sameLap =>
        exact .sameLap (reports.trans reported) (tyre?_of_kind_ne (by simp [kind])) sameLap
      · next other => exact .nextLap (reports.trans reported) other
    | status kind tyre =>
      -- `State.Next` does not say which tyre the packet leaves.
      rw [Option.some.inj (leads.symm.trans (after_of_status accepted kind))]
      exact .aside (reports.trans (if_neg (by simp [kind]))) state.pendingMotion
    | session kind | damage kind =>
      exact aside state.pendingMotion (by simp [kind]) (by simp [kind])
    | motion kind | telemetry kind => exact aside _ (by simp [kind]) (by simp [kind])
  · obtain ⟨unreported, untold⟩ := silent_of_refused accepted
    exact ⟨state, (eq_of_refused accepted).2, goesOn_of_silent unreported untold _⟩

theorem accepted_of_report? {handled : Handled} {report : LapReport}
    (reported : handled.report? = some report) : handled.Accepted .lapData := by
  unfold report? at reported
  split at reported
  · assumption
  · cases reported

theorem steady_of_report? {handled : Handled} {report : LapReport}
    (reported : handled.report? = some report) : ¬ handled.Starts := fun starts => by
  have kind := (accepted_of_report? reported).1
  rw [starts.1] at kind
  cases kind

/-- Of the entries that go on with a session, those that lead to another lap begin one. -/
theorem GoesOn.beginsLap_iff {handled : Handled} {after : State}
    (goesOn : GoesOn state handled after) (steady : ¬ handled.Starts)
    (met : handled.before = some state) (reached : handled.after = some after) :
    handled.BeginsLap ↔ after.lap ≠ state.lap := by
  simp only [BeginsLap, ChangesLap, steady, false_or, met, reached, Option.map_some, ne_eq,
    Option.some.injEq]
  cases goesOn with
  | nextLap reported other =>
    exact ⟨fun both => both.2, fun leads => ⟨accepted_of_report? reported, leads⟩⟩
  | sameLap reported silent same => simp
  | aside unreported sample => simp

end Decided

/-! ## What has been said last -/

/-- What the last entry has told, of those that tell anything. -/
def lastTold {β : Type} (tells : Handled → Option β) (log : List Handled) : Option β :=
  (log.filterMap tells).getLast?

theorem lastTold_concat {β : Type} (tells : Handled → Option β) (log : List Handled)
    (handled : Handled) :
    lastTold tells (log ++ [handled]) = (tells handled).or (lastTold tells log) := by
  unfold lastTold
  rw [List.filterMap_append, List.getLast?_append]
  cases told : tells handled with
  | none => simp [told]
  | some value => simp [told]

end Handled

namespace Tracker

variable {σ : Type} (into : Sink σ) (labeler : Nat → String)

open Handled in
/-- A part of the session that a sort of entries resets, starts among them, and that any other entry
sets if it tells something, is as it was told last behind the last reset. -/
theorem run_lastTold {β : Type} (view : State → β) (initial : β) (resets : Handled → Prop)
    [DecidablePred resets] (tells : Handled → Option β) (sink : σ) (packets : List Packet)
    (start : ∀ uid label, view (.start uid label) = initial)
    (starts : ∀ handled, handled.Starts → resets handled)
    (goesOn : ∀ state handled after, GoesOn state handled after → ¬ handled.Starts →
      handled.before = some state → handled.after = some after →
        view after = if resets handled then initial else (tells handled).getD (view state)) :
    ∀ state, ((Tracker.start sink).run into labeler packets).state = some state →
      view state = (lastTold tells
        (behindLast resets ((Tracker.start sink).history into labeler packets))).getD initial := by
  refine history_induction into labeler (Tracker.start sink) packets
    (fun log reached => ∀ state, reached = some state →
      view state = (lastTold tells (behindLast resets log)).getD initial) ?_ ?_
  · intro state followed
    cases followed
  · intro log before label packet _ held after reached
    rw [behindLast_concat]
    by_cases begun : (decided before label packet).Starts
    · rw [if_pos (starts _ begun)]
      rw [(decided_of_starts begun).2] at reached
      cases reached
      exact start _ _
    cases before with
    | none =>
      rw [decided_of_idle (kind_of_steady begun)] at reached
      cases reached
    | some state =>
      obtain ⟨next, leads, goes⟩ := goesOn_of_decided begun
      obtain rfl : next = after := Option.some.inj (leads.symm.trans reached)
      rw [goesOn state _ next goes begun decided_before leads, held state rfl]
      split
      · rfl
      · rw [lastTold_concat]
        cases tells (decided (some state) label packet) with
        | none => rfl
        | some value => rfl

open Handled in
/-- A part of the lap: none of it is left on the next lap, and on the same lap it is set by those
entries that tell something of it. -/
theorem run_lastTold_lap {β : Type} (view : State → β) (initial : β) (tells : Handled → Option β)
    (sink : σ) (packets : List Packet) (start : ∀ uid label, view (.start uid label) = initial)
    (nextLap : ∀ state lap, view (State.onLap state lap) = initial)
    (sameLap : ∀ state handled report, handled.before = some state →
      handled.report? = some report → handled.tyre? = none →
        view { state with
            sector := report.sector, times := state.times.behind report state.sector } =
          (tells handled).getD (view state))
    (aside : ∀ state handled sample, handled.report? = none →
      view { state with pendingMotion := sample, tyre := handled.tyre?.or state.tyre } =
        (tells handled).getD (view state)) :
    ∀ state, ((Tracker.start sink).run into labeler packets).state = some state →
      view state = (lastTold tells (behindLast BeginsLap
        ((Tracker.start sink).history into labeler packets))).getD initial := by
  refine run_lastTold into labeler view initial BeginsLap tells sink packets start
    (fun _ begun => .inl begun) ?_
  intro state handled after goes steady met reached
  have begins := goes.beginsLap_iff steady met reached
  cases goes with
  | nextLap reported other =>
    rw [if_pos (begins.mpr other)]
    exact nextLap state _
  | sameLap reported silent same =>
    rw [if_neg fun begun => begins.mp begun rfl]
    exact sameLap state handled _ met reported silent
  | aside unreported sample =>
    rw [if_neg fun begun => begins.mp begun rfl]
    exact aside state handled sample unreported

section LapState

variable (sink : σ) (packets : List Packet) {state : State}

open Handled

/-- An entry of a history that starts no session goes on with the one that it has met. -/
theorem goesOn_of_mem_history {tracker : Tracker σ} {handled : Handled}
    (entered : handled ∈ tracker.history into labeler packets) (steady : ¬ handled.Starts)
    (met : handled.before = some state) :
    ∃ after, handled.after = some after ∧ GoesOn state handled after := by
  obtain ⟨before, label, entry⟩ := exists_decided_of_mem_history into labeler entered
  obtain rfl : before = some state := by
    rw [← met, entry, decided_before]
  rw [entry] at steady ⊢
  exact goesOn_of_decided steady

theorem run_lap (followed : ((Tracker.start sink).run into labeler packets).state = some state) :
    state.lap = (lastTold (fun handled => handled.report?.map (·.lap))
      (behindLast Starts ((Tracker.start sink).history into labeler packets))).getD 0 := by
  refine run_lastTold into labeler (·.lap) 0 Starts _ sink packets (fun _ _ => rfl)
    (fun _ begun => begun) ?_ state followed
  intro state handled after goes steady met reached
  rw [if_neg steady]
  cases goes with
  | nextLap reported other => rw [reported]; rfl
  | sameLap reported silent same => rw [reported]; exact same.symm
  | aside unreported sample => rw [unreported]; rfl

theorem run_sector (followed : ((Tracker.start sink).run into labeler packets).state = some state) :
    state.sector = (lastTold (fun handled => handled.report?.map (·.sector))
      (behindLast BeginsLap ((Tracker.start sink).history into labeler packets))).getD 0 := by
  refine run_lastTold_lap into labeler (·.sector) 0 _ sink packets (fun _ _ => rfl)
    (fun _ _ => rfl) ?_ ?_ state followed
  · intro state handled report met reported silent
    rw [reported]
    rfl
  · intro state handled sample unreported
    rw [unreported]
    rfl

/-- Each slot has the time that was noted last for its sector. -/
theorem run_slots (followed : ((Tracker.start sink).run into labeler packets).state = some state) :
    state.times.toList = [1, 2, 3].map fun number => (lastTold (·.noted? number)
      (behindLast BeginsLap ((Tracker.start sink).history into labeler packets))).getD 0 := by
  have slot (number : Nat) (view : SectorTimes → Nat) (unknown : view .unknown = 0)
      (behind : ∀ times report current, view (SectorTimes.behind times report current) =
        (report.noted? current number).getD (view times)) :
      view state.times = (lastTold (·.noted? number)
        (behindLast BeginsLap ((Tracker.start sink).history into labeler packets))).getD 0 := by
    refine run_lastTold_lap into labeler (fun state => view state.times) 0 _ sink packets
      (fun _ _ => unknown) (fun _ _ => unknown) ?_ ?_ state followed
    · intro state handled report met reported silent
      rw [noted?, reported, met]
      exact behind state.times report state.sector
    · intro state handled sample unreported
      rw [noted?, unreported]
      rfl
  rw [SectorTimes.toList, slot 1 (·.first) rfl fun _ _ _ => rfl,
    slot 2 (·.second) rfl fun _ _ _ => rfl, slot 3 (·.third) rfl fun _ _ _ => rfl]
  rfl

/-- A report of a sector beyond the third. -/
theorem beyond_of_mem_history {tracker : Tracker σ} {handled : Handled} {report : LapReport}
    (entered : handled ∈ tracker.history into labeler packets)
    (reported : handled.report? = some report) (beyond : 3 < report.sector) :
    ∃ before, handled.before = some before ∧
      before.enterSector report.record report.sector = { before with sector := report.sector } ∧
      (report.lap = before.lap → handled.after = some { before with sector := report.sector }) := by
  obtain ⟨before, met⟩ := Option.isSome_iff_exists.mp (accepted_of_report? reported).2.1
  refine ⟨before, met, ?_, fun same => ?_⟩
  · rw [enterSector_eq, behind_of_beyond before.times before.sector beyond]
  · obtain ⟨after, reached, goes⟩ :=
      goesOn_of_mem_history into labeler packets entered (steady_of_report? reported) met
    rw [reached]
    cases goes with
    | nextLap again other => cases again.symm.trans reported; exact absurd same other
    | sameLap again =>
      cases again.symm.trans reported
      rw [behind_of_beyond before.times before.sector beyond]
    | aside unreported => cases unreported.symm.trans reported

end LapState

/-- In every reachable session the lap is the one that was reported last since the session started,
and the sector the one reported last since the lap began. Each slot has the time that was noted last
for its sector since then: by a report of that number coming from another sector, with a time that
is positive and fits. What has not been reported or noted is zero. Beyond the third sector a report
changes the sector and no slot. -/
theorem run_lapState (state : State) (sink : σ) (packets : List Packet)
    (followed : ((Tracker.start sink).run into labeler packets).state = some state) :
    let log := (Tracker.start sink).history into labeler packets
    let session := Handled.behindLast Handled.Starts log
    let lap := Handled.behindLast Handled.BeginsLap log
    state.lap = (Handled.lastTold (fun handled => handled.report?.map (·.lap)) session).getD 0 ∧
      state.sector = (Handled.lastTold (fun handled => handled.report?.map (·.sector)) lap).getD 0 ∧
      state.times.toList =
        [1, 2, 3].map (fun number => (Handled.lastTold (·.noted? number) lap).getD 0) ∧
      ∀ handled ∈ log, ∀ report, handled.report? = some report → 3 < report.sector →
        ∃ before, handled.before = some before ∧
          before.enterSector report.record report.sector = { before with sector := report.sector } ∧
          (report.lap = before.lap →
            handled.after = some { before with sector := report.sector }) :=
  ⟨run_lap into labeler sink packets followed, run_sector into labeler sink packets followed,
    run_slots into labeler sink packets followed,
    fun _ entered _ reported beyond =>
      beyond_of_mem_history into labeler packets entered reported beyond⟩

/-- Session 7 on lap 3, which the packets of `strayLaps` begin in the third sector and go on with
backwards and beyond it. The second sector is noted twice. -/
theorem run_lapState_strayLaps :
    let packets := strayLaps.take 6
    let lap := Handled.behindLast Handled.BeginsLap
      ((Tracker.start []).history .memory (fun _ => "S1") packets)
    lap.map (·.report?.map (·.sector)) = [some 2, some 7, some 2, some 1] ∧
      [1, 2, 3].map (fun number => lap.filterMap (·.noted? number)) =
        [[31000], [30500, 30500], []] ∧
      ∃ state, ((Tracker.start []).run .memory (fun _ => "S1") packets).state = some state ∧
        state.lap = 3 ∧ state.sector = 1 ∧ state.times.toList = [31000, 30500, 0] := by
  intro packets lap
  obtain ⟨number, sector, times, -⟩ := run_lapState .memory (fun _ => "S1") _ [] packets rfl
  exact ⟨by decide +kernel, by decide +kernel, _, rfl, number.trans (by decide +kernel),
    sector.trans (by decide +kernel), times.trans (by decide +kernel)⟩

end Tracker

end LapTelemetry.Session
