import LapTelemetry.Datagram.Kind

/-! # The header of a datagram

Every datagram starts with the same header. `Header.ofRecord` takes the ten fields
out of a decoded record, in order; a field that is missing, is not a number of the
right sort or does not fit its width is reported by its name, and the first such
field wins. -/

namespace LapTelemetry.Datagram

open LapTelemetry.Number LapTelemetry.Wire

set_option autoImplicit false

/-- The header of a datagram. -/
structure Header where
  format : Nat
  gameMajorVersion : Nat
  gameMinorVersion : Nat
  version : Nat
  id : Nat
  /-- The identity of the session. -/
  sessionUid : Nat
  /-- The time in the session as a bit pattern of four bytes. -/
  sessionTime : BitVec 32
  frame : Nat
  /-- The index of the player's car among the cars. -/
  playerCar : Nat
  /-- The index of a second player's car, or 255. -/
  secondaryPlayerCar : Nat
  deriving DecidableEq, Repr

namespace Header

/-- The layout that describes the header. -/
def layoutName : String := "PacketHeader"

/-- A field that is a natural number below a bound. -/
def whole (record : Record Value) (name : String) (bound : Nat) : Except Fault Nat :=
  match record.natural? name with
  | some n => if n < bound then .ok n else .error (.fieldNotFound name layoutName)
  | none => .error (.fieldNotFound name layoutName)

/-- A field that is a number, rounded to four bytes. -/
def real (record : Record Value) (name : String) : Except Fault (BitVec 32) :=
  match record.real? name with
  | some pattern => .ok (BitVec.ofNat 32 (Binary.double.convert .single pattern.toNat))
  | none => .error (.fieldNotFound name layoutName)

/-- The header that a record holds. -/
def ofRecord (record : Record Value) : Except Fault Header := do
  let format ← whole record "packet_format" (pow2 16)
  let gameMajorVersion ← whole record "game_major_version" (pow2 8)
  let gameMinorVersion ← whole record "game_minor_version" (pow2 8)
  let version ← whole record "packet_version" (pow2 8)
  let id ← whole record "packet_id" (pow2 8)
  let sessionUid ← whole record "session_uid" (pow2 64)
  let sessionTime ← real record "session_time"
  let frame ← whole record "frame_identifier" (pow2 32)
  let playerCar ← whole record "player_car_index" (pow2 8)
  let secondaryPlayerCar ← whole record "secondary_player_car_index" (pow2 8)
  return { format, gameMajorVersion, gameMinorVersion, version, id, sessionUid, sessionTime, frame,
           playerCar, secondaryPlayerCar }

/-- The key that selects the kind of the datagram. -/
def key (header : Header) : Key := ⟨header.format, header.version, header.id⟩

end Header

end LapTelemetry.Datagram
