import LapTelemetry.Fault
import LapTelemetry.Wire.Value

/-! # Kinds of datagrams

A datagram announces in its header the format it is in, the version of its type
and the number of its type. The kinds that the library follows stand in one
table. Most bodies hold one record per car; `carRecord` takes the record of one
car out of such a body. -/

namespace LapTelemetry.Datagram

open LapTelemetry.Wire

set_option autoImplicit false

/-- What a datagram is about. -/
inductive Kind where
  | motion
  | session
  | lapData
  | carTelemetry
  | carStatus
  | carDamage
  deriving DecidableEq, Repr

/-- What a header says about the type of its datagram. -/
structure Key where
  format : Nat
  version : Nat
  id : Nat
  deriving DecidableEq, Repr

namespace Kind

/-- Every kind. -/
def all : List Kind := [.motion, .session, .lapData, .carTelemetry, .carStatus, .carDamage]

/-- The name of a kind. -/
def name : Kind → String
  | .motion => "Motion"
  | .session => "Session"
  | .lapData => "LapData"
  | .carTelemetry => "CarTelemetry"
  | .carStatus => "CarStatus"
  | .carDamage => "CarDamage"

/-- The name of the body's layout. -/
def layoutName : Kind → String
  | .motion => "PacketMotionData"
  | .session => "PacketSessionData"
  | .lapData => "PacketLapData"
  | .carTelemetry => "PacketCarTelemetryData"
  | .carStatus => "PacketCarStatusData"
  | .carDamage => "PacketCarDamageData"

/-- The field of the body that holds one record per car. -/
def perCarField? : Kind → Option String
  | .motion => some "car_motion_data"
  | .session => none
  | .lapData => some "lap_data"
  | .carTelemetry => some "car_telemetry_data"
  | .carStatus => some "car_status_data"
  | .carDamage => some "car_damage_data"

/-- The kinds by key. -/
def table : List (Key × Kind) :=
  [(⟨2021, 1, 0⟩, .motion), (⟨2021, 1, 1⟩, .session), (⟨2021, 1, 2⟩, .lapData),
    (⟨2021, 1, 6⟩, .carTelemetry), (⟨2021, 1, 7⟩, .carStatus), (⟨2021, 1, 10⟩, .carDamage)]

/-- The kind of a key. -/
def ofKey? (key : Key) : Option Kind := table.lookup key

/-- The key of a kind in a format. -/
def key? (kind : Kind) (format : Nat) : Option Key :=
  (table.find? fun (key, other) => other == kind && key.format == format).map (·.1)

end Kind

/-- The record at an index of the field that holds one record per car. -/
def carRecord (body : Record Value) (field : String) (index : Nat) : Except Fault (Record Value) :=
  match body.array? field with
  | none => .error (.fieldNotFound field "packet body")
  | some cars =>
    match cars[index]? with
    | none => .error (.indexOutOfRange index cars.length)
    | some (.record car) => .ok car
    | some _ => .error (.fieldNotFound field "packet body")

end LapTelemetry.Datagram
