import LapTelemetry.Text.Decimal

/-! # Lap times

Times are whole milliseconds. A lap time is written as minutes, seconds with two
digits and milliseconds with three; a sector time as seconds and milliseconds. -/

namespace LapTelemetry.Session

open LapTelemetry.Text

set_option autoImplicit false

/-- The text of a lap time. -/
def lapTimeText (ms : Nat) : String :=
  let seconds := ms / 1000
  Decimal.ofNat (seconds / 60) ++ ":" ++ Decimal.padded 2 (seconds % 60) ++ "." ++
    Decimal.padded 3 (ms % 1000)

/-- The text of a sector time. -/
def sectorTimeText (ms : Nat) : String := Decimal.ofNat (ms / 1000) ++ "." ++ Decimal.padded 3 (ms % 1000)

/-- The times of the three sectors of a lap; zero stands for a time not known. -/
structure SectorTimes where
  first : Nat
  second : Nat
  third : Nat
  deriving DecidableEq, Repr

namespace SectorTimes

def unknown : SectorTimes := ⟨0, 0, 0⟩

def toList (times : SectorTimes) : List Nat := [times.first, times.second, times.third]

/-- Set the time of a sector, counted from 1; there is no fourth. -/
def set (times : SectorTimes) (sector ms : Nat) : SectorTimes :=
  match sector with
  | 1 => { times with first := ms }
  | 2 => { times with second := ms }
  | 3 => { times with third := ms }
  | _ => times

/-- The text of the three times. -/
def text (times : SectorTimes) : String := " / ".intercalate (times.toList.map sectorTimeText)

end SectorTimes

end LapTelemetry.Session
