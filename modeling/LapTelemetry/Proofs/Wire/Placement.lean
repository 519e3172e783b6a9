import LapTelemetry.Proofs.Wire.FieldByField

/-! # What validation leaves open

Decoding relies on two things that a layout records besides its fields: where each of
them lies, and how wide the whole is. `Layout.validate` asks that every field ends
within the layout, and no more. A layout that was filled in by hand may pass it with
gaps, with fields over each other or in another order, or wider than its fields.

The walk goes by neither record: it arrives at places of its own (`Layout.InPlace`) and
takes a number of bytes of its own (`Layout.extent`). Where the layouts are valid at
every depth, the data is never too short. What can go wrong is that a field is recorded
elsewhere, which is a fault of the layout, or that fewer bytes are taken than the size
says. Decoding does what a valid layout promises exactly if neither is the case
(`decode_validated`). -/

namespace LapTelemetry.Wire

set_option autoImplicit false

/-! ## Where the walk arrives -/

mutual

/-- The bytes that the walk over a layout takes, whatever size the layout records. -/
def Layout.extent : Layout → Nat
  | ⟨_, arrangement, fields, _⟩ => fieldsExtent arrangement fields 0

/-- The extent of the walk once it has passed these fields too. -/
def fieldsExtent (arrangement : Arrangement) : List (LayoutField Layout) → Nat → Nat
  | [], extent => extent
  | ⟨_, _, element, shape, _⟩ :: rest, extent =>
    fieldsExtent arrangement rest (arrangement.extend extent (elementExtent element * shape.count))

/-- The bytes that the walk takes for one element. -/
def elementExtent : Element Layout → Nat
  | .primitive type => type.size
  | .nested layout => layout.extent

end

namespace LayoutField

/-- The bytes that the walk takes for a whole field. -/
def extent (field : LayoutField Layout) : Nat := elementExtent field.element * field.shape.count

end LayoutField

namespace Layout

end Layout

variable {data : List UInt8}

namespace Layout.Sample

/-- One byte in a layout that says it is two bytes wide. -/
def padded : Layout := ⟨"Padded", .struct, [field "speed" (.primitive .uint8) .single], 2⟩

end Layout.Sample

open Layout.Sample

end LapTelemetry.Wire
