import LapTelemetry.Datagram.Dispatcher
import LapTelemetry.Session.State
import LapTelemetry.Session.Weather
import LapTelemetry.Number.Power

/-! # How a session reacts to a packet

`react` says what one packet does to the session: the state after it, the writes
it gives rise to, in order, and the lap it completes. It decides this before
anything is written, so a packet is either refused as a whole or takes effect as a
whole, and what becomes of the writes has no influence on the session.

* A session packet starts a session if none is followed or another one is, and
  reports the weather. Until then every other packet is ignored.
* A motion packet is kept until a telemetry packet is paired with it, or another
  motion packet takes its place.
* A telemetry packet without a motion sample is refused. With one, the sample is
  laid over the telemetry and the two are written to the lap.
* A lap packet may change the sector and the lap. A change of the sector notes the
  time of the sector before it and reports the tyre. A change of the lap writes
  the times of the lap and reports the tyre, and the lap starts anew.
* A status packet notes the tyre, if its compound is known.
* A damage packet is written to the live measurement.

Nothing is written to lap 0, the lap before the first one. -/

namespace LapTelemetry.Session

open LapTelemetry.Datagram LapTelemetry.Number LapTelemetry.Point LapTelemetry.Text LapTelemetry.Wire

set_option autoImplicit false

/-- A lap of which the first two sector times are known when it ends. -/
structure CompletedLap where
  lap : Nat
  time : Nat
  sectors : SectorTimes
  deriving DecidableEq, Repr

/-- What a packet does. -/
structure Reaction where
  state : Option State
  /-- The writes in order. -/
  writes : List Write
  /-- Whether the packet starts a session. -/
  started : Bool
  completed : Option CompletedLap
  deriving Repr

namespace Reaction

/-- A change of the state alone. -/
def quiet (state : State) : Reaction := ⟨some state, [], false, none⟩

end Reaction

/-- Who asks for fields of a player's record. -/
def playerRecord : String := "player record"

/-- A natural number of a record below a bound. -/
def required (record : Record Value) (name : String) (bound : Nat) : Except Fault Nat :=
  match record.natural? name with
  | some n => if n < bound then .ok n else .error (.fieldNotFound name playerRecord)
  | none => .error (.fieldNotFound name playerRecord)

/-- The record of the player's car. -/
def player (packet : Packet) : Except Fault (Record Value) :=
  match packet.kind.perCarField? with
  | some field => carRecord packet.body field packet.header.playerCar
  | none => .error (.fieldNotFound "per-car array" packet.kind.layoutName)

/-- A write to a lap of the session; lap 0 gets none. -/
def State.lapWrites (state : State) (fields : Fields) : List Write :=
  if state.lap = 0 then [] else [.lap state.label state.lap fields]

/-- The report of the tyre to the lap, if a tyre is known. -/
def State.tyreWrites (state : State) : List Write :=
  match state.tyre with
  | some tyre =>
    state.lapWrites ⟨[("tyre_compound", .text tyre.compound.label), ("tyre_age", .natural tyre.age)]⟩
  | none => []

/-! ## The packets -/

/-- A session packet. -/
def onSession (state : Option State) (label : String) (packet : Packet) : Reaction :=
  let uid := packet.header.sessionUid
  let fields := weatherFields packet.body
  let writes := if fields.entries.isEmpty then [] else [.live fields]
  match state with
  | some state =>
    if state.uid = uid then ⟨some state, writes, false, none⟩
    else ⟨some (.start uid label), writes, true, none⟩
  | none => ⟨some (.start uid label), writes, true, none⟩

/-- A motion packet. -/
def onMotion (state : State) (packet : Packet) : Except Fault Reaction := do
  let motion ← player packet
  return .quiet { state with pendingMotion := some motion }

/-- A telemetry packet. -/
def onTelemetry (state : State) (packet : Packet) : Except Fault Reaction :=
  match state.pendingMotion with
  | none => .error .unpairedTelemetry
  | some motion => do
    let telemetry ← player packet
    let fields := scalarFields (flattenTyres (telemetry.merge motion))
    return ⟨some { state with pendingMotion := none }, state.lapWrites fields, false, none⟩

/-- The state with the sector of a lap packet. The time of the sector that has
ended is taken from the record, if it is positive and fits its slot. -/
def State.enterSector (state : State) (record : Record Value) (sector : Nat) : State :=
  if sector = state.sector then state
  else
    let time := (record.natural? ("sector" ++ Decimal.ofNat sector ++ "_time_in_ms")).getD 0
    let times := if 0 < time ∧ time < pow2 32 then state.times.set sector time else state.times
    { state with sector, times }

/-- The sector times at the end of a lap. The third is what the first two leave of
the lap time, if both are known and do not exceed it. -/
def SectorTimes.atLapEnd (times : SectorTimes) (lapTime : Nat) : SectorTimes :=
  if 0 < times.first ∧ 0 < times.second ∧ times.first + times.second ≤ lapTime then
    { times with third := lapTime - (times.first + times.second) }
  else times

/-- The fields that a lap ends with. -/
def timingFields (times : SectorTimes) (lapTime : Nat) : Fields :=
  ⟨[("sector_1_ms", .natural times.first), ("sector_2_ms", .natural times.second),
    ("sector_3_ms", .natural times.third), ("total_time_ms", .natural lapTime)]⟩

/-- A lap packet. -/
def onLapData (state : State) (packet : Packet) : Except Fault Reaction := do
  let record ← player packet
  let sector ← required record "sector" (pow2 8)
  let lap ← required record "current_lap_num" (pow2 32)
  let lapTime ← required record "last_lap_time_in_ms" (pow2 32)
  let entered := state.enterSector record sector
  let sectorWrites := if sector = state.sector then [] else entered.tyreWrites
  if lap = entered.lap then return ⟨some entered, sectorWrites, false, none⟩
  else
    let times := entered.times.atLapEnd lapTime
    let completed := if 0 < entered.times.first ∧ 0 < entered.times.second then
      some ⟨entered.lap, lapTime, times⟩ else none
    let writes := sectorWrites ++ entered.lapWrites (timingFields times lapTime) ++ entered.tyreWrites
    return ⟨some (entered.onLap lap), writes, false, completed⟩

/-- A status packet. -/
def onStatus (state : State) (packet : Packet) : Except Fault Reaction := do
  let record ← player packet
  let code ← required record "visual_tyre_compound" (pow2 64)
  let age ← required record "tyres_age_laps" (pow2 64)
  match TyreCompound.ofCode? code with
  | some compound => return .quiet { state with tyre := some ⟨compound, age⟩ }
  | none => return .quiet state

/-- A damage packet. -/
def onDamage (state : State) (packet : Packet) : Except Fault Reaction := do
  let damage ← player packet
  return ⟨some state, [.live (scalarFields (flattenTyres damage))], false, none⟩

/-- What a packet does to the session; the label is for a session that starts. -/
def react (state : Option State) (label : String) (packet : Packet) : Except Fault Reaction :=
  match packet.kind, state with
  | .session, _ => .ok (onSession state label packet)
  | _, none => .ok ⟨none, [], false, none⟩
  | .motion, some state => onMotion state packet
  | .carTelemetry, some state => onTelemetry state packet
  | .lapData, some state => onLapData state packet
  | .carStatus, some state => onStatus state packet
  | .carDamage, some state => onDamage state packet

end LapTelemetry.Session
