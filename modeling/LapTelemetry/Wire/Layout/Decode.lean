import LapTelemetry.Wire.Layout
import LapTelemetry.Wire.Value

/-! # Decoding by a layout

`Layout.decodeWithin` walks a layout over a byte string from a base position and
returns the record with the number of bytes it took. The walk keeps its own
account of where it is: the fields of a struct are read one after the other, the
members of a union each from the base, and the union takes as many bytes as its
widest member. A field whose recorded offset differs from the place the walk has
arrived at is a fault of the layout, never of the data; the data can only be too
short.

Before the first element of an array is read, room is set aside for all of them,
by the length that the layout declares and whatever the data hold. How much room
there is belongs to the machine, so it is an argument. `Layout.decode` is the same
walk where there is always room. -/

namespace LapTelemetry.Wire

open LapTelemetry.Number

set_option autoImplicit false

/-- How many values a machine can set aside at once. -/
inductive Room where
  | unlimited
  | upTo (most : Nat)
  deriving DecidableEq, Repr

namespace Room

/-- Whether there is room for so many values. -/
def holds : Room → Nat → Bool
  | .unlimited, _ => true
  | .upTo most, length => decide (length ≤ most)

/-- The most room that a machine with addresses of eight bytes can give. A value takes 32 bytes,
and fewer than `2 ^ 63` bytes are set aside at once. -/
def machine : Room := .upTo (pow2 58 - 1)

end Room

/-- Decode a number of elements one after the other. -/
def decodeArray (step : Nat → Except Fault (Value × Nat)) : Nat → Nat → Except Fault (List Value × Nat)
  | 0, _ => .ok ([], 0)
  | count + 1, position => do
    let (item, taken) ← step position
    let (items, total) ← decodeArray step count (position + taken)
    return (item :: items, taken + total)

/-- Set room aside for a number of elements, then decode them. -/
def decodeArrayWithin (room : Room) (step : Nat → Except Fault (Value × Nat))
    (length position : Nat) : Except Fault (List Value × Nat) :=
  if room.holds length then decodeArray step length position else .error (.outOfRoom length)

/-- Decode one scalar. -/
def decodeScalar (data : List UInt8) (type : Primitive) (position : Nat) :
    Except Fault (Value × Nat) :=
  match Value.read? type (data.drop position) with
  | some value => .ok (value, type.size)
  | none => .error (.truncated (position + type.size) data.length)

mutual

/-- Decode a record and count the bytes it takes, with so much room. -/
def Layout.decodeWithin (room : Room) (data : List UInt8) :
    Layout → Nat → Except Fault (Record Value × Nat)
  | ⟨name, arrangement, fields, _⟩, base => do
    let (entries, taken) ← decodeFieldsWithin room data name arrangement base fields 0
    return (⟨entries⟩, taken)

/-- Decode fields that come after an extent of bytes of the same layout, with so much room. -/
def decodeFieldsWithin (room : Room) (data : List UInt8) (layoutName : String)
    (arrangement : Arrangement) (base : Nat) :
    List (LayoutField Layout) → Nat → Except Fault (List (String × Value) × Nat)
  | [], extent => .ok ([], extent)
  | ⟨name, _, element, shape, offset⟩ :: rest, extent => do
    let start := arrangement.offset extent
    if start ≠ offset then throw (.misplacedField layoutName name)
    let (value, taken) ← match shape with
      | .single => decodeElementWithin room data element (base + start)
      | .array length => do
        let (items, total) ← decodeArrayWithin room
          (fun position => decodeElementWithin room data element position) length (base + start)
        pure (Value.array items, total)
    let (entries, total) ← decodeFieldsWithin room data layoutName arrangement base rest
      (arrangement.extend extent taken)
    return ((name, value) :: entries, total)

/-- Decode one element of a field, with so much room. -/
def decodeElementWithin (room : Room) (data : List UInt8) :
    Element Layout → Nat → Except Fault (Value × Nat)
  | .primitive type, position => decodeScalar data type position
  | .nested layout, position => do
    let (fields, taken) ← layout.decodeWithin room data position
    return (.record fields, taken)

end

/-! ## Where there is always room -/

/-- Decode a record and count the bytes it takes. -/
def Layout.decode (data : List UInt8) : Layout → Nat → Except Fault (Record Value × Nat) :=
  Layout.decodeWithin .unlimited data

/-- Decode fields that come after an extent of bytes of the same layout. -/
def decodeFields (data : List UInt8) (layoutName : String) (arrangement : Arrangement) (base : Nat) :
    List (LayoutField Layout) → Nat → Except Fault (List (String × Value) × Nat) :=
  decodeFieldsWithin .unlimited data layoutName arrangement base

/-- Decode one element of a field. -/
def decodeElement (data : List UInt8) : Element Layout → Nat → Except Fault (Value × Nat) :=
  decodeElementWithin .unlimited data

theorem Layout.decode_mk (data : List UInt8) (name : String) (arrangement : Arrangement)
    (fields : List (LayoutField Layout)) (size base : Nat) :
    Layout.decode data ⟨name, arrangement, fields, size⟩ base = do
      let (entries, taken) ← decodeFields data name arrangement base fields 0
      return (⟨entries⟩, taken) := by
  rw [Layout.decode, Layout.decodeWithin]
  rfl

theorem decodeFields_nil (data : List UInt8) (layoutName : String) (arrangement : Arrangement)
    (base extent : Nat) : decodeFields data layoutName arrangement base [] extent = .ok ([], extent) := by
  rw [decodeFields, decodeFieldsWithin]

theorem decodeElement_primitive (data : List UInt8) (type : Primitive) (position : Nat) :
    decodeElement data (.primitive type) position = decodeScalar data type position := by
  rw [decodeElement, decodeElementWithin]

theorem decodeElement_nested (data : List UInt8) (layout : Layout) (position : Nat) :
    decodeElement data (.nested layout) position = do
      let (fields, taken) ← layout.decode data position
      return (.record fields, taken) := by
  rw [decodeElement, decodeElementWithin]
  rfl

end LapTelemetry.Wire
