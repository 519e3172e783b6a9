import LapTelemetry.Wire.Primitive
import LapTelemetry.Wire.LittleEndian
import LapTelemetry.Wire.Record
import LapTelemetry.Number.Binary

/-! # Decoded values

A scalar is a primitive type with the bits that were on the wire, so reading and
writing it lose nothing, not even the payload of a NaN. What a scalar means as a
number is given by three views, each of them partial:

* `natural?`: an integer that is not negative;
* `integer?`: an integer that fits sixty-four bits with a sign;
* `real?`: the nearest number of eight bytes, as a bit pattern.

A value is a scalar, an array of values or a record of values. -/

namespace LapTelemetry.Wire

open LapTelemetry.Number

set_option autoImplicit false

/-- A number of the wire: its type and its bits. -/
structure Scalar where
  type : Primitive
  bits : BitVec type.bitWidth
  deriving DecidableEq, Repr

namespace Scalar

/-- Read a scalar from the first bytes, if there are enough. -/
def read? (type : Primitive) (bytes : List UInt8) : Option Scalar :=
  let own := bytes.take type.size
  if own.length = type.size then some ⟨type, BitVec.ofNat _ (LittleEndian.ofBytes own)⟩ else none

/-- The bytes of a scalar on the wire. -/
def bytes (s : Scalar) : List UInt8 := LittleEndian.toBytes s.type.size s.bits.toNat

/-- The scalar of an unsigned or signed type that holds an integer, modulo the width. -/
def ofInt (type : Primitive) (i : Int) : Scalar := ⟨type, BitVec.ofInt _ i⟩

/-- The integer a scalar stands for, if its type is an integer type. -/
def whole? (s : Scalar) : Option Int :=
  match s.type.reading with
  | .unsigned => some s.bits.toNat
  | .signed => some s.bits.toInt
  | .floating => none

/-- The integer as a natural number, if it is one. -/
def natural? (s : Scalar) : Option Nat := s.whole?.bind fun i => if 0 ≤ i then some i.toNat else none

/-- The integer, if it is below 2 ^ 63. -/
def integer? (s : Scalar) : Option Int := s.whole?.bind fun i => if i < pow2 63 then some i else none

/-- The number as a bit pattern of eight bytes. -/
def real (s : Scalar) : BitVec 64 :=
  match s.type, s.whole? with
  | .float64, _ => BitVec.ofNat 64 s.bits.toNat
  | .float32, _ => BitVec.ofNat 64 (Binary.single.convert .double s.bits.toNat)
  | _, some i => BitVec.ofNat 64 (Binary.double.ofInt i)
  | _, none => 0

/-- The scalar of a type nearest to a number of eight bytes: integers are cut
toward zero and held within the bounds of the type, and a NaN becomes zero. -/
def nearest (type : Primitive) (pattern : BitVec 64) : Scalar :=
  match type.reading, type with
  | .unsigned, _ =>
    ofInt type (Binary.double.truncateWithin 0 (pow2 type.bitWidth - 1) pattern.toNat)
  | .signed, _ =>
    ofInt type (Binary.double.truncateWithin (-pow2 (type.bitWidth - 1)) (pow2 (type.bitWidth - 1) - 1)
      pattern.toNat)
  | .floating, .float32 =>
    ⟨.float32, BitVec.ofNat 32 (Binary.double.convert .single pattern.toNat)⟩
  | .floating, _ => ⟨.float64, pattern⟩

/-- The scalar whose bits are all zero. -/
def zero (type : Primitive) : Scalar := ⟨type, 0⟩

end Scalar

/-- What a layout decodes to. -/
inductive Value where
  | scalar (s : Scalar)
  | array (items : List Value)
  | record (fields : Record Value)
  deriving Repr

namespace Value

/-- Read one scalar from the first bytes. -/
def read? (type : Primitive) (bytes : List UInt8) : Option Value :=
  (Scalar.read? type bytes).map .scalar

def scalar? : Value → Option Scalar
  | .scalar s => some s
  | _ => none

def array? : Value → Option (List Value)
  | .array items => some items
  | _ => none

def record? : Value → Option (Record Value)
  | .record fields => some fields
  | _ => none

/-- Whether a value is a single number. -/
def isScalar (v : Value) : Bool := v.scalar?.isSome

def natural? (v : Value) : Option Nat := v.scalar?.bind Scalar.natural?

def integer? (v : Value) : Option Int := v.scalar?.bind Scalar.integer?

def real? (v : Value) : Option (BitVec 64) := v.scalar?.map Scalar.real

/-- A scalar of an unsigned type. -/
def natural (type : Primitive) (n : Nat) : Value := .scalar (Scalar.ofInt type n)

end Value

namespace Record

/-- The entry of a name as a natural number. -/
def natural? (record : Record Value) (name : String) : Option Nat :=
  (record.get? name).bind Value.natural?

/-- The entry of a name as an integer. -/
def integer? (record : Record Value) (name : String) : Option Int :=
  (record.get? name).bind Value.integer?

/-- The entry of a name as a number of eight bytes. -/
def real? (record : Record Value) (name : String) : Option (BitVec 64) :=
  (record.get? name).bind Value.real?

/-- The entry of a name as an array. -/
def array? (record : Record Value) (name : String) : Option (List Value) :=
  (record.get? name).bind Value.array?

end Record

/-! ## Bytes and bits -/

theorem Scalar.length_bytes (s : Scalar) : s.bytes.length = s.type.size :=
  LittleEndian.length_toBytes _ _

theorem Scalar.read?_eq_none_iff {type : Primitive} {bytes : List UInt8} :
    Scalar.read? type bytes = none ↔ bytes.length < type.size := by
  have fits : min type.size bytes.length = type.size ↔ ¬ bytes.length < type.size := by omega
  simp [Scalar.read?, fits]

/-- A scalar reads back from its own bytes, whatever follows them. -/
theorem Scalar.read?_bytes_append (s : Scalar) (rest : List UInt8) :
    Scalar.read? s.type (s.bytes ++ rest) = some s := by
  have own : (s.bytes ++ rest).take s.type.size = s.bytes := by
    rw [← s.length_bytes, List.take_left']
    rfl
  have small : s.bits.toNat < pow2 (8 * s.type.size) := s.bits.isLt
  obtain ⟨type, bits⟩ := s
  simp only [Scalar.read?, own, Scalar.length_bytes, if_true, Option.some.injEq]
  congr 1
  apply BitVec.eq_of_toNat_eq
  rw [BitVec.toNat_ofNat, Scalar.bytes, LittleEndian.ofBytes_toBytes small]
  exact Nat.mod_eq_of_lt bits.isLt

/-- The bytes a scalar was read from are its own bytes. -/
theorem Scalar.bytes_of_read? {type : Primitive} {bytes : List UInt8} {s : Scalar}
    (read : Scalar.read? type bytes = some s) : s.type = type ∧ s.bytes = bytes.take type.size := by
  simp only [Scalar.read?] at read
  split at read
  · rename_i enough
    obtain rfl := Option.some.inj read
    refine ⟨rfl, ?_⟩
    have small := LittleEndian.ofBytes_lt (bytes.take type.size)
    have back := LittleEndian.toBytes_ofBytes (bytes.take type.size)
    rw [enough] at small back
    have whole : (BitVec.ofNat type.bitWidth (LittleEndian.ofBytes (bytes.take type.size))).toNat =
        LittleEndian.ofBytes (bytes.take type.size) :=
      (BitVec.toNat_ofNat _ _).trans (Nat.mod_eq_of_lt small)
    rw [Scalar.bytes, whole]
    exact back
  · cases read

end LapTelemetry.Wire
