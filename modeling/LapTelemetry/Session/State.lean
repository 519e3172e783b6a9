import LapTelemetry.Session.LapTime
import LapTelemetry.Session.Tyre

/-! # The state of a session

A session has an identity and a label. It remembers the lap and the sector that
the player is in, the sector times of the lap, the last motion sample that no
telemetry has been paired with, and the tyre last reported. When another session
starts nothing of this is kept; when a lap ends, the sector, its times and the
tyre go. -/

namespace LapTelemetry.Session

open LapTelemetry.Wire

set_option autoImplicit false

/-- The tyre last reported. -/
structure TyreReport where
  compound : TyreCompound
  /-- The age in laps. -/
  age : Nat
  deriving DecidableEq, Repr

/-- The state of the session that is followed. -/
structure State where
  uid : Nat
  label : String
  lap : Nat
  sector : Nat
  times : SectorTimes
  pendingMotion : Option (Record Value)
  tyre : Option TyreReport
  deriving Repr

/-- What observers see of the session. -/
structure Snapshot where
  uid : Option Nat
  label : Option String
  lap : Nat
  sector : Nat
  times : SectorTimes
  tyre : Option TyreReport
  deriving DecidableEq, Repr

namespace State

/-- A session at its start. -/
def start (uid : Nat) (label : String) : State :=
  { uid, label, lap := 0, sector := 0, times := .unknown, pendingMotion := none, tyre := none }

/-- The session on the first metre of another lap. -/
def onLap (state : State) (lap : Nat) : State :=
  { state with lap, sector := 0, times := .unknown, tyre := none }

def snapshot (state : State) : Snapshot :=
  { uid := some state.uid, label := some state.label, lap := state.lap, sector := state.sector,
    times := state.times, tyre := state.tyre }

end State

namespace Snapshot

/-- What observers see before the first session. -/
def none : Snapshot :=
  { uid := Option.none, label := Option.none, lap := 0, sector := 0, times := .unknown,
    tyre := Option.none }

def hasSession (snapshot : Snapshot) : Bool := snapshot.uid.isSome

def ofState? (state : Option State) : Snapshot := (state.map State.snapshot).getD none

end Snapshot

end LapTelemetry.Session
