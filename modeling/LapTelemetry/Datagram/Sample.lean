import LapTelemetry.Datagram.Header
import LapTelemetry.Spec.Registry
import LapTelemetry.Wire.Layout.Pack

/-! # Sample datagrams

Datagrams of the 2021 format that tell a little and are zero elsewhere, to try a
collector without the game. A sample is a list of edits to the record of zeros:
each sets numbers in the body, in an element of an array, or in the record of the
player's car. A number is set as the nearest value of the field's type.

A player index beyond the cars stands in the header as it is, and the numbers go to
the last car. -/

namespace LapTelemetry.Datagram

open LapTelemetry.Number LapTelemetry.Spec LapTelemetry.Wire

set_option autoImplicit false

/-- What a sample datagram tells. Real numbers are bit patterns of four bytes. -/
inductive Sample where
  | motion (worldPositionX : BitVec 32)
  /-- The forecast has a weather code and a chance of rain for each sample. -/
  | session (weather : Nat) (forecast : List (Nat × Nat))
  | lapData (sector lap firstTime secondTime lastLapTime : Nat)
  | carTelemetry (speed : Nat)
  | carStatus (compound age : Nat)
  | carDamage (wear : List (BitVec 32))
  deriving Repr

/-- One number or several, as bit patterns of eight bytes. -/
inductive Numbers where
  | one (x : BitVec 64)
  | several (xs : List (BitVec 64))
  deriving Repr

/-- Where numbers are set. -/
inductive EditPlace where
  | body
  | element (array : String) (index : Nat)
  | player
  deriving DecidableEq, Repr

/-- Numbers to be set by name. -/
structure Edit where
  place : EditPlace
  numbers : List (String × Numbers)
  deriving Repr

namespace Numbers

/-- A whole number. -/
def whole (n : Nat) : Numbers := .one (BitVec.ofNat 64 (Binary.double.ofInt n))

/-- A number of four bytes in eight. -/
def widen (x : BitVec 32) : BitVec 64 := BitVec.ofNat 64 (Binary.single.convert .double x.toNat)

/-- The value of a type that is nearest to the numbers. -/
def value (type : Primitive) : Numbers → Value
  | .one x => .scalar (.nearest type x)
  | .several xs => .array (xs.map fun x => .scalar (.nearest type x))

end Numbers

namespace Edit

/-- Set a number of a record. -/
def assign (layout : Layout) (record : Record Value) (entry : String × Numbers) :
    Except Fault (Record Value) :=
  match (layout.field? entry.1).bind LayoutField.primitive? with
  | some type => .ok (record.insert entry.1 (entry.2.value type))
  | none => .error (.fieldNotFound entry.1 layout.name)

/-- Set numbers of a record in order. -/
def assignAll (layout : Layout) (record : Record Value) (numbers : List (String × Numbers)) :
    Except Fault (Record Value) :=
  numbers.foldlM (assign layout) record

/-- Set numbers in an element of an array of records. -/
def assignElement (layout : Layout) (record : Record Value) (array : String) (index : Nat)
    (numbers : List (String × Numbers)) : Except Fault (Record Value) :=
  match layout.field? array with
  | none => .error (.fieldNotFound array layout.name)
  | some field =>
    match field.nested? with
    | none => .error (.fieldNotFound array "record array")
    | some nested => do
      let items := (record.array? array).getD []
      match items[index]? with
      | some (.record element) =>
        let edited ← assignAll nested element numbers
        return record.insert array (.array (items.set index (.record edited)))
      | _ => throw (.indexOutOfRange index items.length)

/-- Carry out an edit on a body of a kind. -/
def apply (kind : Kind) (layout : Layout) (player : Nat) (record : Record Value) (edit : Edit) :
    Except Fault (Record Value) :=
  match edit.place with
  | .body => assignAll layout record edit.numbers
  | .element array index => assignElement layout record array index edit.numbers
  | .player =>
    match kind.perCarField? with
    | none => .error (.fieldNotFound "per-car array" layout.name)
    | some array =>
      let cars := ((layout.field? array).map fun field => field.shape.count).getD 1
      assignElement layout record array (min player (cars - 1)) edit.numbers

end Edit

namespace Sample

/-- Who asks for the layouts of samples. -/
def requester : String := "test datagram"

/-- The format of sample datagrams. -/
def format : Nat := 2021

def kind : Sample → Kind
  | .motion _ => .motion
  | .session _ _ => .session
  | .lapData _ _ _ _ _ => .lapData
  | .carTelemetry _ => .carTelemetry
  | .carStatus _ _ => .carStatus
  | .carDamage _ => .carDamage

/-- The tyre pressures of sample telemetry: 22.5 in front and 21 in the rear. -/
def pressures : List (BitVec 32) := [0x41B40000, 0x41B40000, 0x41A80000, 0x41A80000]

/-- Numbers of four bytes. -/
def singles (xs : List (BitVec 32)) : Numbers := .several (xs.map Numbers.widen)

/-- One sample of a forecast. -/
def forecastEdit (sample : (Nat × Nat) × Nat) : Edit :=
  ⟨.element "weather_forecast_samples" sample.2,
    [("weather", .whole sample.1.1), ("rain_percentage", .whole sample.1.2)]⟩

/-- What a sample sets. -/
def edits : Sample → List Edit
  | .motion x => [⟨.player, [("world_position_x", .one (Numbers.widen x))]⟩]
  | .session weather forecast =>
    ⟨.body, [("weather", .whole weather), ("num_weather_forecast_samples", .whole forecast.length)]⟩ ::
      forecast.zipIdx.map forecastEdit
  | .lapData sector lap firstTime secondTime lastLapTime =>
    [⟨.player, [("sector", .whole sector), ("current_lap_num", .whole lap),
      ("sector1_time_in_ms", .whole firstTime), ("sector2_time_in_ms", .whole secondTime),
      ("last_lap_time_in_ms", .whole lastLapTime)]⟩]
  | .carTelemetry speed =>
    [⟨.player, [("speed", .whole speed), ("gear", .whole 7), ("engine_rpm", .whole 11250),
      ("tyres_pressure", singles pressures)]⟩]
  | .carStatus compound age =>
    [⟨.player, [("visual_tyre_compound", .whole compound), ("tyres_age_laps", .whole age)]⟩]
  | .carDamage wear => [⟨.player, [("tyres_wear", singles wear)]⟩]

/-- The header of a sample. -/
def header (layout : Layout) (id uid player : Nat) : Record Value :=
  layout.zeroRecord.insertAll
    [("packet_format", .natural .uint16 format), ("game_major_version", .natural .uint8 1),
      ("game_minor_version", .natural .uint8 16), ("packet_version", .natural .uint8 1),
      ("packet_id", .natural .uint8 id), ("session_uid", .natural .uint64 uid),
      ("player_car_index", .natural .uint8 player),
      ("secondary_player_car_index", .natural .uint8 255)]

/-- The datagram of a sample, for a session and an index of the player's car. -/
def datagram (registry : Registry) (uid player : Nat) (sample : Sample) :
    Except Fault (List UInt8) := do
  match sample.kind.key? format with
  | none => throw (.config (.noPacketId sample.kind.name))
  | some key =>
    let headerLayout ← registry.require Header.layoutName requester
    let layout ← registry.require sample.kind.layoutName requester
    let blank := layout.zeroRecord.insert "header" (.record (header headerLayout key.id uid player))
    layout.pack (← sample.edits.foldlM (Edit.apply sample.kind layout player) blank)

end Sample

end LapTelemetry.Datagram
