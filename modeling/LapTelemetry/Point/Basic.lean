import LapTelemetry.Text.Decimal
import LapTelemetry.Wire.Value

/-! # Points

A point is a measurement with named fields at a time. Points that belong to a lap
are measured under the label of their session and the number of the lap, with at
least two digits; all others are measured as `live`. A scalar keeps its kind when
it becomes a field, and arrays and records have no field form. -/

namespace LapTelemetry.Point

open LapTelemetry.Text LapTelemetry.Wire

set_option autoImplicit false

/-- The value of a field. A real number is a bit pattern of eight bytes. -/
inductive FieldValue where
  | integer (i : Int)
  | natural (n : Nat)
  | real (pattern : BitVec 64)
  | text (s : String)
  deriving DecidableEq, Repr

/-- The fields of a point in order. -/
abbrev Fields := Record FieldValue

namespace FieldValue

/-- A scalar as a field. -/
def ofScalar (s : Scalar) : FieldValue :=
  match s.type.reading with
  | .unsigned => .natural s.bits.toNat
  | .signed => .integer s.bits.toInt
  | .floating => .real s.real

/-- A value as a field, if it is a scalar. -/
def ofValue? (v : Value) : Option FieldValue := v.scalar?.map ofScalar

end FieldValue

/-- The scalars of a record as fields, in order. -/
def scalarFields (record : Record Value) : Fields := record.filterMap FieldValue.ofValue?

/-- Where fields go: to a lap of a session, or to the live measurement. -/
inductive Write where
  | lap (label : String) (number : Nat) (fields : Fields)
  | live (fields : Fields)
  deriving DecidableEq, Repr

/-- The measurement of points that belong to no lap. -/
def liveMeasurement : String := "live"

/-- The measurement of points that belong to a lap. -/
def lapMeasurement (label : String) (lap : Nat) : String := label ++ "-" ++ Decimal.padded 2 lap

end LapTelemetry.Point

namespace LapTelemetry

/-- A measurement with its fields and a time in milliseconds. -/
structure Point where
  measurement : String
  fields : Point.Fields
  timestamp : Int
  deriving DecidableEq, Repr

end LapTelemetry

namespace LapTelemetry.Point

namespace Write

/-- The measurement a write goes to. -/
def measurement : Write → String
  | .lap label number _ => lapMeasurement label number
  | .live _ => liveMeasurement

def fields : Write → Fields
  | .lap _ _ fields => fields
  | .live fields => fields

/-- The point of a write at a time. -/
def pointAt (write : Write) (timestamp : Int) : Point := ⟨write.measurement, write.fields, timestamp⟩

end Write

end LapTelemetry.Point
