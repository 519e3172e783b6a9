import Mathlib.Data.List.Basic
import LapTelemetry.Proofs.Session.Pairing
import LapTelemetry.Proofs.Wire.DistinctNames

/-! # An entry for each tyre

A record may hold an array of four numbers, one for each tyre. `spread` writes such an
entry as four, named after it and the tyre and in the order of the wire, and any other
entry as it is. Flattening a record collects what its entries are spread to
(`flattenTyres_eq_ofList`), and this says all about it: no name occurs twice, no array of
four numbers is left, and where no two names meet, the entries are those that were spread
and nothing else, in their order (`flattenTyres_spread`).

Telemetry and damage are flattened before they are written, and leaving out what is no
number keeps names distinct, so the same holds of their points in every run. -/

namespace LapTelemetry.Session

open LapTelemetry.Datagram LapTelemetry.Point LapTelemetry.Wire

set_option autoImplicit false

/-! ## Arrays of four numbers -/

/-- An array with one number for each tyre. -/
def IsTyreArray (value : Value) : Prop :=
  ∃ frontLeft frontRight rearLeft rearRight : Scalar, value =
    .array [.scalar frontLeft, .scalar frontRight, .scalar rearLeft, .scalar rearRight]

/-- An array with one number for each tyre as four entries, and any other entry as it is. -/
def spread : String × Value → List (String × Value)
  | (name, .array [.scalar frontLeft, .scalar frontRight, .scalar rearLeft, .scalar rearRight]) =>
    [(name ++ "_front_left", .scalar frontLeft), (name ++ "_front_right", .scalar frontRight),
      (name ++ "_rear_left", .scalar rearLeft), (name ++ "_rear_right", .scalar rearRight)]
  | entry => [entry]

theorem spread_of_other {entry : String × Value} (other : ¬ IsTyreArray entry.2) :
    spread entry = [entry] := by
  unfold spread
  split
  · exact absurd ⟨_, _, _, _, rfl⟩ other
  · rfl

/-- What entries are spread to holds no array of four numbers. -/
theorem not_isTyreArray_of_mem_spread {entry part : String × Value} (member : part ∈ spread entry) :
    ¬ IsTyreArray part.2 := by
  by_cases tyres : IsTyreArray entry.2
  · obtain ⟨name, value⟩ := entry
    obtain ⟨frontLeft, frontRight, rearLeft, rearRight, rfl⟩ := tyres
    rintro ⟨_, _, _, _, isArray⟩
    have number : part.2.isScalar = true := by
      simp only [spread, List.mem_cons, List.not_mem_nil, or_false] at member
      rcases member with rfl | rfl | rfl | rfl
      all_goals rfl
    rw [isArray] at number
    cases number
  · rw [spread_of_other tyres, List.mem_singleton] at member
    rwa [member]

theorem exists_scalar_of_isScalar {value : Value} (number : value.isScalar = true) :
    ∃ s, value = .scalar s := by
  cases value with
  | scalar s => exact ⟨s, rfl⟩
  | array items => cases number
  | record fields => cases number

theorem tyreNumbers?_of_other {value : Value} (other : ¬ IsTyreArray value) :
    tyreNumbers? value = none := by
  unfold tyreNumbers?
  split
  · next items =>
    refine if_neg fun numbers => other ?_
    obtain ⟨four, numbers⟩ := Bool.and_eq_true_iff.mp numbers
    match items, of_decide_eq_true four with
    | [a, b, c, d], _ =>
      simp only [List.all_cons, List.all_nil, Bool.and_true, Bool.and_eq_true] at numbers
      obtain ⟨first, second, third, fourth⟩ := numbers
      obtain ⟨frontLeft, rfl⟩ := exists_scalar_of_isScalar first
      obtain ⟨frontRight, rfl⟩ := exists_scalar_of_isScalar second
      obtain ⟨rearLeft, rfl⟩ := exists_scalar_of_isScalar third
      obtain ⟨rearRight, rfl⟩ := exists_scalar_of_isScalar fourth
      exact ⟨frontLeft, frontRight, rearLeft, rearRight, rfl⟩
  · rfl

theorem expandTyres_eq_spread (entry : String × Value) : expandTyres entry = spread entry := by
  by_cases tyres : IsTyreArray entry.2
  · obtain ⟨name, value⟩ := entry
    obtain ⟨frontLeft, frontRight, rearLeft, rearRight, rfl⟩ := tyres
    simp [expandTyres, tyreNumbers?, spread, TyrePosition.all, TyrePosition.suffix, Value.isScalar,
      Value.scalar?, String.append_assoc]
  · rw [spread_of_other tyres, expandTyres, tyreNumbers?_of_other tyres]

/-! ## Flattening -/

/-- The entries of a record with every array of four numbers as four entries. -/
def spreadEntries (record : Record Value) : List (String × Value) :=
  record.entries.flatMap spread

/-- Flattening collects the entries that a record is spread to. -/
theorem flattenTyres_eq_ofList (record : Record Value) :
    flattenTyres record = .ofList (spreadEntries record) := by
  have collected (entries : List (String × Value)) (flat : Record Value) :
      entries.foldl (fun flat entry => flat.insertAll (expandTyres entry)) flat =
        flat.insertAll (entries.flatMap spread) := by
    induction entries generalizing flat with
    | nil => rfl
    | cons entry rest ih =>
      rw [List.foldl_cons, ih, List.flatMap_cons, Record.insertAll_append, expandTyres_eq_spread]
  exact collected record.entries .empty

theorem distinct_flattenTyres (record : Record Value) : (flattenTyres record).Distinct := by
  rw [flattenTyres_eq_ofList]
  exact Record.distinct_ofList _

theorem not_isTyreArray_of_mem_flattenTyres {record : Record Value} {entry : String × Value}
    (member : entry ∈ (flattenTyres record).entries) : ¬ IsTyreArray entry.2 := by
  rw [flattenTyres_eq_ofList] at member
  obtain ⟨source, -, among⟩ := List.mem_flatMap.mp (Record.mem_ofList member)
  exact not_isTyreArray_of_mem_spread among

/-- Without an array of four numbers a record is spread to what it holds. -/
theorem spreadEntries_of_others {record : Record Value}
    (others : ∀ entry ∈ record.entries, ¬ IsTyreArray entry.2) :
    spreadEntries record = record.entries := by
  calc record.entries.flatMap spread
    _ = record.entries.flatMap ([·]) :=
      List.flatMap_congr fun entry member => spread_of_other (others entry member)
    _ = record.entries := List.flatMap_singleton' _

theorem flattenTyres_flattenTyres (record : Record Value) :
    flattenTyres (flattenTyres record) = flattenTyres record := by
  rw [flattenTyres_eq_ofList (flattenTyres record),
    spreadEntries_of_others fun _ => not_isTyreArray_of_mem_flattenTyres]
  exact Record.ofList_of_distinct (distinct_flattenTyres record)

/-! ## Telemetry and damage -/

/-- A packet whose record is flattened before it is written. -/
def Flattened (kind : Kind) : Prop := kind = .carTelemetry ∨ kind = .carDamage

theorem distinct_scalarFields_flattenTyres (record : Record Value) :
    (scalarFields (flattenTyres record)).Distinct :=
  (distinct_flattenTyres record).filterMap _

/-- Telemetry and damage write the numbers of a flattened record. -/
theorem exists_flattened_of_decided {before : Option State} {label : String} {packet : Packet}
    (flattened : Flattened packet.kind) {write : Write}
    (asked : write ∈ (Handled.decided before label packet).writes) :
    ∃ record, write.fields = scalarFields (flattenTyres record) := by
  cases before with
  | none =>
    have other : packet.kind ≠ .session := by
      rcases flattened with kind | kind <;> simp [kind]
    rw [Handled.decided_of_idle other] at asked
    cases asked
  | some state =>
    rcases flattened with kind | kind
    · rw [Handled.decided_telemetry state kind] at asked
      split at asked
      · cases asked
      · cases asked
      · next sample telemetry _ _ =>
        unfold State.lapWrites at asked
        split at asked
        · cases asked
        · exact ⟨telemetry.merge sample, by rw [List.mem_singleton.mp asked]; rfl⟩
    · cases found : player packet with
      | error fault =>
        have refused : react (some state) label packet = .error fault := by
          simp only [react, kind, onDamage, found]
          rfl
        rw [Handled.decided_of_refusal refused] at asked
        cases asked
      | ok damage =>
        have accepted : react (some state) label packet =
            .ok ⟨some state, [.live (scalarFields (flattenTyres damage))], false, none⟩ := by
          simp only [react, kind, onDamage, found]
          rfl
        rw [Handled.decided_of_reaction accepted] at asked
        exact ⟨damage, by rw [List.mem_singleton.mp asked]; rfl⟩

/-- Flattening collects what a record is spread to, so it leaves no array of four numbers and no
name twice, and flattening again changes nothing. Where no two names meet, the entries are those
that the record was spread to, in their order. No point of telemetry or damage has a field twice,
in any run. -/
theorem flattenTyres_spread (record : Record Value) :
    flattenTyres record = .ofList (spreadEntries record) ∧
      (flattenTyres record).names.Nodup ∧
      (∀ entry ∈ (flattenTyres record).entries, ¬ IsTyreArray entry.2) ∧
      flattenTyres (flattenTyres record) = flattenTyres record ∧
      (((spreadEntries record).map (·.1)).Nodup →
        (flattenTyres record).entries = spreadEntries record) ∧
      ∀ (σ : Type) (into : Sink σ) (labeler : Nat → String) (tracker : Tracker σ)
        (packets : List Packet), ∀ handled ∈ tracker.history into labeler packets,
          Flattened handled.packet.kind → ∀ write ∈ handled.writes, ∀ timestamp,
            (write.pointAt timestamp).fields.names.Nodup := by
  refine ⟨flattenTyres_eq_ofList record, distinct_flattenTyres record,
    fun entry => not_isTyreArray_of_mem_flattenTyres, flattenTyres_flattenTyres record, ?_, ?_⟩
  · intro apart
    rw [flattenTyres_eq_ofList]
    exact Record.entries_ofList apart
  · intro σ into labeler tracker packets handled entered flattened write asked timestamp
    obtain ⟨before, label, entry⟩ := Tracker.exists_decided_of_mem_history into labeler entered
    rw [entry] at asked
    obtain ⟨flat, fields⟩ := exists_flattened_of_decided flattened asked
    show write.fields.names.Nodup
    rw [fields]
    exact distinct_scalarFields_flattenTyres flat

-- The array meets an entry with the name of one of its tyres, which keeps its place.
example : scalarFields (flattenTyres ⟨[("wear_rear_left", .natural .uint8 9), ("wear",
      .array [.natural .uint8 1, .natural .uint8 2, .natural .uint8 3, .natural .uint8 4])]⟩) =
    ⟨[("wear_rear_left", .natural 3), ("wear_front_left", .natural 1),
      ("wear_front_right", .natural 2), ("wear_rear_right", .natural 4)]⟩ := by
  decide +kernel

end LapTelemetry.Session
