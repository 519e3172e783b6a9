import LapTelemetry.Proofs.Session.LapHistory
import LapTelemetry.Proofs.Session.Pairing
import LapTelemetry.Proofs.Session.Writes

/-! # The tyre and the points that report it

The tyre that a session keeps is set by status packets, read by lap packets at two
places, and cleared when a lap begins or the session is replaced. In the terms of the
history it is the tyre told last since the lap began.

A point that tells a compound is always such a report: no scalar of a record is a text,
so telemetry never looks like one (`text_notMem_scalarFields`), and of the packets only
those that enter a sector or begin a lap ask for one (`exists_report_of_tellsTyre`).
`run_tyre` ties every such point of a run to the status packet it comes from. -/

namespace LapTelemetry.Point

open LapTelemetry.Wire

set_option autoImplicit false

/-- The write goes to a lap and tells a compound. -/
def Write.TellsTyre : Write → Prop
  | .lap _ _ fields => ∃ compound, ("tyre_compound", FieldValue.text compound) ∈ fields.entries
  | .live _ => False

/-- Scalars are numbers. -/
theorem text_notMem_scalarFields (record : Record Value) (name text : String) :
    (name, FieldValue.text text) ∉ (scalarFields record).entries := by
  intro among
  obtain ⟨⟨own, value⟩, -, told⟩ := List.mem_filterMap.mp among
  simp only [FieldValue.ofValue?, Option.map_map, Option.map_eq_some_iff, Function.comp_apply,
    Prod.mk.injEq] at told
  obtain ⟨scalar, -, -, same⟩ := told
  unfold FieldValue.ofScalar at same
  split at same
  all_goals cases same

end LapTelemetry.Point

namespace LapTelemetry.Session

open LapTelemetry.Datagram LapTelemetry.Point LapTelemetry.Wire

set_option autoImplicit false

/-! ## Who reports the tyre -/

section Packet

variable {state : State} {write : Write}

theorem not_tellsTyre_of_timing {times : SectorTimes} {lapTime : Nat}
    (asked : write ∈ state.lapWrites (timingFields times lapTime)) : ¬ write.TellsTyre := by
  obtain ⟨-, rfl⟩ := mem_lapWrites_iff.mp asked
  rintro ⟨compound, among⟩
  simp [timingFields] at among

theorem mem_tyreWrites_iff : write ∈ state.tyreWrites ↔
    1 ≤ state.lap ∧ ∃ tyre, state.tyre = some tyre ∧ write = state.tyrePoint tyre := by
  rw [tyreWrites_eq, State.tyrePoints]
  by_cases before : state.lap = 0
  · simp [before]
  · have driving : 1 ≤ state.lap := Nat.one_le_iff_ne_zero.mpr before
    simp only [if_neg before, driving, true_and, List.mem_map, Option.mem_toList,
      eq_comm (a := write)]

/-- Of what a report asks for, the tyre is reported where the sector or the lap is another. -/
theorem mem_lapReaction_of_tellsTyre {report : LapReport}
    (asked : write ∈ (state.lapReaction report).writes) (tells : write.TellsTyre) :
    (report.sector ≠ state.sector ∨ report.lap ≠ state.lap) ∧ write ∈ state.tyreWrites := by
  rw [lapReaction_writes] at asked
  rcases List.mem_append.mp asked with sector | lap
  · split at sector
    · cases sector
    · next other => exact ⟨.inl other, sector⟩
  · split at lap
    · cases lap
    · next other =>
      rcases List.mem_append.mp lap with timing | tyre
      · exact absurd tells (not_tellsTyre_of_timing timing)
      · exact ⟨.inr other, tyre⟩

end Packet

namespace Handled

variable {before : Option State} {label : String} {packet : Packet} {write : Write}

/-- Only a lap packet asks for a point that tells a compound. -/
theorem lapData_of_tellsTyre (asked : write ∈ (decided before label packet).writes)
    (tells : write.TellsTyre) : packet.kind = .lapData ∧ ∃ state, before = some state := by
  have listed := asked_of_decided asked
  generalize (decided before label packet).after = after at listed
  cases listed with
  | weather kind fields => exact tells.elim
  | damage kind fields => exact tells.elim
  | lapData kind => exact ⟨kind, _, rfl⟩
  | @telemetry state after kind =>
    exfalso
    rw [decided_telemetry state kind] at asked
    split at asked
    · cases asked
    · cases asked
    · obtain ⟨-, same⟩ := mem_lapWrites_iff.mp asked
      rw [same] at tells
      obtain ⟨compound, among⟩ := tells
      exact text_notMem_scalarFields _ _ _ among

/-- Where such a point comes from. -/
theorem exists_report_of_tellsTyre (asked : write ∈ (decided before label packet).writes)
    (tells : write.TellsTyre) :
    ∃ state report tyre, before = some state ∧
      (decided before label packet).report? = some report ∧
      (report.sector ≠ state.sector ∨ report.lap ≠ state.lap) ∧
      state.tyre = some tyre ∧ 1 ≤ state.lap ∧ write = state.tyrePoint tyre := by
  obtain ⟨kind, state, rfl⟩ := lapData_of_tellsTyre asked tells
  cases decision : react (some state) label packet with
  | error fault => rw [decided_of_refusal decision] at asked; cases asked
  | ok reaction =>
    obtain ⟨report, reported, rfl⟩ := react_lapData decision kind
    have accepted : (decided (some state) label packet).outcome = .ok () := by
      rw [decided_of_reaction decision]
    rw [decided_of_reaction decision] at asked
    obtain ⟨changes, among⟩ := mem_lapReaction_of_tellsTyre asked tells
    obtain ⟨driving, tyre, known, same⟩ := mem_tyreWrites_iff.mp among
    exact ⟨state, report, tyre, rfl, (report?_of_accepted accepted).trans reported, changes, known,
      driving, same⟩

/-- What has been told is told also where it is put in other terms. -/
theorem lastTold_map {α β : Type} (f : α → β) (tells : Handled → Option α) (log : List Handled) :
    lastTold (fun handled => (tells handled).map f) log = (lastTold tells log).map f := by
  unfold lastTold
  rw [← List.map_filterMap, List.getLast?_map]

theorem lastTold_isSome_iff {β : Type} {tells : Handled → Option β} {log : List Handled} :
    (lastTold tells log).isSome ↔ ∃ handled ∈ log, (tells handled).isSome := by
  unfold lastTold
  rw [List.getLast?_isSome, ne_eq, List.filterMap_eq_nil_iff]
  simp only [Option.isSome_iff_ne_none, not_forall, exists_prop]

end Handled

/-! ## Every run -/

namespace Tracker

variable {σ : Type} (into : Sink σ) (labeler : Nat → String)

open Handled

/-- The session keeps the tyre that was told last since the lap began. -/
theorem run_tyre (sink : σ) (packets : List Packet) {state : State}
    (followed : ((Tracker.start sink).run into labeler packets).state = some state) :
    state.tyre = lastTold tyre?
      (behindLast BeginsLap ((Tracker.start sink).history into labeler packets)) := by
  have told := run_lastTold_lap into labeler (·.tyre) none (fun handled => handled.tyre?.map some)
    sink packets (fun _ _ => rfl) (fun _ _ => rfl) ?_ ?_ state followed
  · rw [told, lastTold_map]
    cases lastTold tyre? _ with
    | none => rfl
    | some tyre => rfl
  · intro state handled report _ _ silent
    rw [silent]
    rfl
  · intro state handled sample _
    cases handled.tyre? with
    | none => rfl
    | some tyre => rfl

/-- A status packet that tells no tyre changes nothing. -/
theorem after_of_untold {tracker : Tracker σ} {packets : List Packet} {handled : Handled}
    (entered : handled ∈ tracker.history into labeler packets)
    (accepted : handled.Accepted .carStatus) (untold : handled.tyre? = none) :
    handled.after = handled.before := by
  obtain ⟨before, label, entry⟩ := exists_decided_of_mem_history into labeler entered
  obtain ⟨kind, met, passed⟩ := accepted
  rw [entry] at met passed untold ⊢
  rw [decided_before] at met ⊢
  obtain ⟨state, rfl⟩ := Option.isSome_iff_exists.mp met
  rw [after_of_status passed kind, untold]
  rfl

/-- Where the points that tell a compound come from, in a whole run. -/
theorem tellsTyre_of_history (sink : σ) (packets : List Packet) {earlier later : List Handled}
    {handled : Handled} {write : Write}
    (split : (Tracker.start sink).history into labeler packets = earlier ++ handled :: later)
    (asked : write ∈ handled.writes) (tells : write.TellsTyre) :
    ∃ state report tyre, handled.before = some state ∧ handled.report? = some report ∧
      (report.sector ≠ state.sector ∨ report.lap ≠ state.lap) ∧ state.tyre = some tyre ∧
      lastTold tyre? (behindLast BeginsLap earlier) = some tyre ∧ 1 ≤ state.lap ∧
      write = state.tyrePoint tyre := by
  obtain ⟨front, rest, label, -, rfl, entry⟩ :=
    exists_of_history_eq into labeler (Tracker.start sink) packets split
  rw [entry] at asked
  obtain ⟨state, report, tyre, followed, reported, changes, known, driving, same⟩ :=
    exists_report_of_tellsTyre asked tells
  refine ⟨state, report, tyre, ?_, ?_, changes, known, ?_, driving, same⟩
  · rw [entry, decided_before, followed]
  · rw [entry, reported]
  · rw [← run_tyre into labeler sink front followed, known]

/-- A session knows a tyre exactly if a status packet that was accepted since the lap began has told
one, and then it is the one told last; other status packets leave it. Every point that tells a
compound is the report of the tyre that is known when it is written. Only a lap packet that has
another sector or another lap asks for one. -/
theorem run_tyreReports (sink : σ) (packets : List Packet) :
    let log := (Tracker.start sink).history into labeler packets
    Effect.history into labeler (.start sink) packets = log ∧
      (∀ state, ((Tracker.start sink).run into labeler packets).state = some state →
        (state.tyre.isSome ↔ ∃ handled ∈ behindLast BeginsLap log, handled.tyre?.isSome) ∧
          state.tyre = lastTold tyre? (behindLast BeginsLap log)) ∧
      (∀ handled ∈ log, handled.Accepted .carStatus → handled.tyre? = none →
        handled.after = handled.before) ∧
      ∀ earlier handled later, log = earlier ++ handled :: later → ∀ write ∈ handled.writes,
        write.TellsTyre → ∃ state report tyre, handled.before = some state ∧
          handled.report? = some report ∧
          (report.sector ≠ state.sector ∨ report.lap ≠ state.lap) ∧ state.tyre = some tyre ∧
          lastTold tyre? (behindLast BeginsLap earlier) = some tyre ∧ 1 ≤ state.lap ∧
          write = .lap state.label state.lap
            ⟨[("tyre_compound", .text tyre.compound.label), ("tyre_age", .natural tyre.age)]⟩ := by
  intro log
  refine ⟨Effect.history_eq into labeler _ packets, fun state followed => ?_,
    fun handled entered => after_of_untold into labeler entered,
    fun earlier handled later split write asked tells =>
      tellsTyre_of_history into labeler sink packets split asked tells⟩
  have told := run_tyre into labeler sink packets followed
  exact ⟨told ▸ lastTold_isSome_iff, told⟩

/-! ## A tyre that is changed in the pits -/

/-- The numbers of a status packet. -/
def statusEntries (code age : Nat) : List (String × Value) :=
  [("visual_tyre_compound", .natural .uint8 code), ("tyres_age_laps", .natural .uint8 age)]

/-- Session 7. The first tyre goes with lap 0, and of the last status the compound is not known. -/
def pitStop : List Packet :=
  [packetOf .session [], packetOf .carStatus [statusEntries 16 2],
    packetOf .lapData [lapEntries 0 4 0 0 90000], packetOf .carStatus [statusEntries 17 0],
    packetOf .carStatus [statusEntries 99 1]]

/-- The second sector of lap 4 begins with a report of the second tyre. -/
theorem run_tyreReports_pitStop :
    let enters := packetOf .lapData [lapEntries 1 4 31000 0 90000]
    let log := (Tracker.start []).history .memory (fun _ => "S1") pitStop
    let last := Handled.decided ((Tracker.start []).run .memory (fun _ => "S1") pitStop).state "S1"
      enters
    let point : Write :=
      .lap "S1" 4 ⟨[("tyre_compound", .text "Medium"), ("tyre_age", .natural 0)]⟩
    last.writes = [point] ∧ point.TellsTyre ∧
      ∃ state, last.before = some state ∧ state.tyre = some ⟨.medium, 0⟩ ∧
        lastTold tyre? (behindLast BeginsLap log) = some ⟨.medium, 0⟩ := by
  intro enters log last point
  have split := history_append .memory (fun _ => "S1") (Tracker.start []) pitStop [enters]
  rw [history_cons] at split
  have writes : last.writes = [point] := rfl
  have tells : point.TellsTyre := ⟨"Medium", List.mem_cons_self⟩
  obtain ⟨-, -, -, reports⟩ := run_tyreReports .memory (fun _ => "S1") [] (pitStop ++ [enters])
  obtain ⟨state, report, tyre, met, -, -, known, told, -⟩ :=
    reports _ _ _ split point (writes ▸ List.mem_singleton_self _) tells
  have second : lastTold tyre? (behindLast BeginsLap log) = some ⟨.medium, 0⟩ := by decide +kernel
  obtain rfl : tyre = ⟨.medium, 0⟩ := Option.some.inj (told.symm.trans second)
  exact ⟨writes, tells, state, met, known, told⟩

end Tracker

end LapTelemetry.Session
