import LapTelemetry.Wire.Layout
import LapTelemetry.Wire.Value

/-! # Packing by a layout

`Layout.pack` writes a record into the bytes of a layout. Each field is looked up
by its name, so the record may hold more than the layout asks for and in another
order; a field that is missing, or whose value has not the declared form, is a
fault. The members of a union are written over each other in order of
declaration. `Layout.zeroRecord` is the record of zeros that fits a layout. -/

namespace LapTelemetry.Wire

set_option autoImplicit false

/-- Overwrite bytes at a position; they must end within the buffer. -/
def overwrite (buffer : List UInt8) (position : Nat) (bytes : List UInt8) :
    Except Fault (List UInt8) :=
  let stop := position + bytes.length
  if stop ≤ buffer.length then .ok (buffer.take position ++ bytes ++ buffer.drop stop)
  else .error (.truncated stop buffer.length)

/-- Write items one after the other, each at its multiple of the width. -/
def packArray (step : Value → List UInt8 → Nat → Except Fault (List UInt8)) (width : Nat) :
    List Value → List UInt8 → Nat → Except Fault (List UInt8)
  | [], buffer, _ => .ok buffer
  | item :: rest, buffer, position => do
    let written ← step item buffer position
    packArray step width rest written (position + width)

mutual

/-- Write a record into a buffer, starting at a base position. -/
def Layout.packInto : Layout → Record Value → List UInt8 → Nat → Except Fault (List UInt8)
  | ⟨name, arrangement, fields, _⟩, record, buffer, base =>
    packFields name arrangement record base fields buffer 0

/-- Write fields that come after an extent of bytes of the same layout. -/
def packFields (layoutName : String) (arrangement : Arrangement) (record : Record Value) (base : Nat) :
    List (LayoutField Layout) → List UInt8 → Nat → Except Fault (List UInt8)
  | [], buffer, _ => .ok buffer
  | ⟨name, _, element, shape, _⟩ :: rest, buffer, extent => do
    let start := base + arrangement.offset extent
    let written ← match shape, record.get? name with
      | .single, some value => packElement name element value buffer start
      | .array length, some (.array items) =>
        if items.length = length then
          packArray (fun item buffer position => packElement name element item buffer position)
            element.width items buffer start
        else .error (.fieldNotFound name layoutName)
      | _, _ => .error (.fieldNotFound name layoutName)
    packFields layoutName arrangement record base rest written
      (arrangement.extend extent (element.width * shape.count))

/-- Write one element of a field. -/
def packElement (fieldName : String) :
    Element Layout → Value → List UInt8 → Nat → Except Fault (List UInt8)
  | .nested layout, .record fields, buffer, position => layout.packInto fields buffer position
  | .primitive type, .scalar s, buffer, position =>
    if s.type = type then overwrite buffer position s.bytes
    else .error (.fieldNotFound fieldName "mistyped value")
  | _, _, _, _ => .error (.fieldNotFound fieldName "mistyped value")

end

/-- The bytes of a record; what no field writes is zero. -/
def Layout.pack (layout : Layout) (record : Record Value) : Except Fault (List UInt8) :=
  layout.packInto record (List.replicate layout.size 0) 0

mutual

/-- The record of zeros that fits a layout; a name stands in it once. -/
def Layout.zeroRecord : Layout → Record Value
  | ⟨_, _, fields, _⟩ => .ofList (zeroEntries fields)

/-- The zeros of each field. -/
def zeroEntries : List (LayoutField Layout) → List (String × Value)
  | [] => []
  | ⟨name, _, element, shape, _⟩ :: rest =>
    let zero := zeroElement element
    let value := match shape with
      | .single => zero
      | .array length => .array (List.replicate length zero)
    (name, value) :: zeroEntries rest

/-- The zero of one element. -/
def zeroElement : Element Layout → Value
  | .primitive type => .scalar (.zero type)
  | .nested layout => .record layout.zeroRecord

end

end LapTelemetry.Wire
