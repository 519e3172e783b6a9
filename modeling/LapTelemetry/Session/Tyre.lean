import LapTelemetry.Text.Decimal
import LapTelemetry.Wire.Value

/-! # Tyres

Arrays with one number per tyre hold four of them, in the order front left, front
right, rear left, rear right. `flattenTyres` replaces every such array by four
entries that are named after the array and the tyre. Names stay distinct, since
every entry is inserted: where an expanded name meets another, the later value
takes the earlier place. -/

namespace LapTelemetry.Session

open LapTelemetry.Wire

set_option autoImplicit false

/-- Where a tyre is mounted. -/
inductive TyrePosition where
  | frontLeft
  | frontRight
  | rearLeft
  | rearRight
  deriving DecidableEq, Repr

namespace TyrePosition

/-- The positions in the order of the wire. -/
def all : List TyrePosition := [.frontLeft, .frontRight, .rearLeft, .rearRight]

/-- The position in the names of entries. -/
def suffix : TyrePosition → String
  | .frontLeft => "front_left"
  | .frontRight => "front_right"
  | .rearLeft => "rear_left"
  | .rearRight => "rear_right"

end TyrePosition

/-- What a tyre is made of, as its colour shows. -/
inductive TyreCompound where
  | soft
  | medium
  | hard
  | inter
  | wet
  deriving DecidableEq, Repr

namespace TyreCompound

/-- The compound of a code. -/
def ofCode? : Nat → Option TyreCompound
  | 16 => some .soft
  | 17 => some .medium
  | 18 => some .hard
  | 7 => some .inter
  | 8 => some .wet
  | _ => none

def label : TyreCompound → String
  | .soft => "Soft"
  | .medium => "Medium"
  | .hard => "Hard"
  | .inter => "Inter"
  | .wet => "Wet"

end TyreCompound

/-- Whether a value is an array with one number per tyre. -/
def tyreNumbers? : Value → Option (List Value)
  | .array items => if items.length = 4 && items.all Value.isScalar then some items else none
  | _ => none

/-- The entries that stand for one entry of a record. -/
def expandTyres (entry : String × Value) : List (String × Value) :=
  match tyreNumbers? entry.2 with
  | some items => TyrePosition.all.zipWith (fun position item => (entry.1 ++ "_" ++ position.suffix, item)) items
  | none => [entry]

/-- Replace every array with one number per tyre by four entries. -/
def flattenTyres (record : Record Value) : Record Value :=
  record.entries.foldl (fun flat entry => flat.insertAll (expandTyres entry)) .empty

end LapTelemetry.Session
