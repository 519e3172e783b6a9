import LapTelemetry.Point.Basic

/-! # Which lap a measurement is of

A measurement of a lap is a label, a dash and a number. A label may hold dashes and
digits of its own, even a whole `-07` at its end, but the number holds no dash: so the
last dash of the measurement is the one in front of the number, and the label is all that
stands before it. `lapOf?` reads a measurement in this way, from the right, and finds what
was written (`lapOf?_measurement`); the name of the live measurement has no dash, and so is
none of a lap.

Two points therefore have one measurement exactly if they belong to one lap of one label, or
both to no lap (`measurement_eq_iff_lap?_eq`). -/

namespace LapTelemetry.Point

open LapTelemetry.Text

set_option autoImplicit false

/-! ## The last dash -/

/-- What stands before and behind the last dash of a text. -/
def splitAtLastDash? : List Char → Option (List Char × List Char)
  | [] => none
  | c :: rest =>
    match splitAtLastDash? rest with
    | some (front, back) => some (c :: front, back)
    | none => if c = '-' then some ([], rest) else none

theorem splitAtLastDash?_of_noDash {text : List Char} (noDash : '-' ∉ text) :
    splitAtLastDash? text = none := by
  induction text with
  | nil => rfl
  | cons c rest ih =>
    obtain ⟨other, later⟩ := not_or.mp fun dash => noDash (List.mem_cons.mpr dash)
    rw [splitAtLastDash?, ih later]
    exact if_neg (Ne.symm other)

theorem splitAtLastDash?_append (front : List Char) {back : List Char} (noDash : '-' ∉ back) :
    splitAtLastDash? (front ++ '-' :: back) = some (front, back) := by
  induction front with
  | nil =>
    rw [List.nil_append, splitAtLastDash?, splitAtLastDash?_of_noDash noDash]
    exact if_pos rfl
  | cons c rest ih => rw [List.cons_append, splitAtLastDash?, ih]

/-! ## Measurements of laps -/

/-- The label and the lap of a measurement, if it is one of a lap. -/
def lapOf? (measurement : String) : Option (String × Nat) := do
  let (label, number) ← splitAtLastDash? measurement.toList
  return (String.ofList label, ← Decimal.value? number)

theorem toList_lapMeasurement (label : String) (lap : Nat) :
    (lapMeasurement label lap).toList = label.toList ++ '-' :: (Decimal.padded 2 lap).toList := by
  rw [lapMeasurement, String.toList_append, String.toList_append, List.append_assoc]
  rfl

theorem dash_not_mem_padded (width lap : Nat) : '-' ∉ (Decimal.padded width lap).toList :=
  fun dash => absurd (Decimal.digit_of_mem_padded dash) (by decide)

theorem lapOf?_lapMeasurement (label : String) (lap : Nat) :
    lapOf? (lapMeasurement label lap) = some (label, lap) := by
  rw [lapOf?, toList_lapMeasurement, splitAtLastDash?_append _ (dash_not_mem_padded 2 lap)]
  simp only [Option.bind_eq_bind, Option.bind_some, Decimal.value?_padded, String.ofList_toList]
  rfl

theorem lapOf?_liveMeasurement : lapOf? liveMeasurement = none := by
  rw [lapOf?, splitAtLastDash?_of_noDash (by decide)]
  rfl

/-! ## Measurements of writes -/

namespace Write

/-- The label and the lap that a write goes to, if it goes to a lap. -/
def lap? : Write → Option (String × Nat)
  | .lap label number _ => some (label, number)
  | .live _ => none

/-- A measurement tells the lap of its write. -/
theorem lapOf?_measurement (write : Write) : lapOf? write.measurement = write.lap? := by
  cases write with
  | lap label number fields => exact lapOf?_lapMeasurement label number
  | live fields => exact lapOf?_liveMeasurement

theorem measurement_eq (write : Write) : write.measurement =
    (write.lap?.map fun (label, number) => lapMeasurement label number).getD liveMeasurement := by
  cases write <;> rfl

end Write

/-- Every measurement tells the label and the lap of the points in it, so one measurement is never
of two labels or two laps, and the live measurement is of none. Points have one measurement exactly
if they belong to one lap of one label or both to none, at whatever times. -/
theorem lapMeasurement_unique :
    (∀ (a b : String) (m n : Nat), lapMeasurement a m = lapMeasurement b n ↔ a = b ∧ m = n) ∧
      (∀ (label : String) (lap : Nat), lapMeasurement label lap ≠ liveMeasurement) ∧
      (∀ write : Write, lapOf? write.measurement = write.lap?) ∧
      ∀ (write other : Write) (time otherTime : Int),
        (write.pointAt time).measurement = (other.pointAt otherTime).measurement ↔
          write.lap? = other.lap? := by
  refine ⟨fun a b m n => ⟨fun same => ?_, ?_⟩, fun label lap same => ?_, Write.lapOf?_measurement,
    fun write other time otherTime => ⟨fun same => ?_, fun same => ?_⟩⟩
  · have read := congrArg lapOf? same
    rw [lapOf?_lapMeasurement, lapOf?_lapMeasurement] at read
    exact Prod.mk.inj (Option.some.inj read)
  · rintro ⟨rfl, rfl⟩
    rfl
  · have read := congrArg lapOf? same
    rw [lapOf?_lapMeasurement, lapOf?_liveMeasurement] at read
    cases read
  · rw [← write.lapOf?_measurement, ← other.lapOf?_measurement]
    exact congrArg lapOf? same
  · show write.measurement = other.measurement
    rw [write.measurement_eq, other.measurement_eq, same]

-- The label ends like a measurement itself.
example : lapOf? (lapMeasurement "2021-07-18@14:05-07" 123) =
    some ("2021-07-18@14:05-07", 123) := by
  decide +kernel

end LapTelemetry.Point
