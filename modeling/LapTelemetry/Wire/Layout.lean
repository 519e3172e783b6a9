import LapTelemetry.Fault
import LapTelemetry.Wire.Primitive

/-! # Layouts

A layout says how a named structure or union sits on the wire. The fields of a
struct follow each other without padding; the members of a union all start where
the union starts, and the union is as wide as its widest member. A field holds
one element or an array of a fixed number of them, and an element is a primitive
or a layout of its own.

`Layout.build` computes offsets and size by these rules. Since the parts of a
layout can also be set one by one, `Layout.validate` says whether they are
consistent. -/

namespace LapTelemetry.Wire

set_option autoImplicit false

/-- How the fields of a layout lie to each other. -/
inductive Arrangement where
  | struct
  | union
  deriving DecidableEq, Repr

namespace Arrangement

/-- Where the next field starts, counted from the start of the layout, when the
fields so far extend to `extent`. -/
def offset : Arrangement → Nat → Nat
  | .struct, extent => extent
  | .union, _ => 0

/-- The extent of the fields with one more of the given width. -/
def extend : Arrangement → Nat → Nat → Nat
  | .struct, extent, width => extent + width
  | .union, extent, width => max extent width

end Arrangement

/-- One element, or an array of a fixed length. -/
inductive Shape where
  | single
  | array (length : Nat)
  deriving DecidableEq, Repr

/-- How many elements a shape has. -/
def Shape.count : Shape → Nat
  | .single => 1
  | .array length => length

/-- What an element of a field is made of. -/
inductive Element (L : Type) where
  | primitive (type : Primitive)
  | nested (layout : L)
  deriving Repr

/-- One entry of a layout's field table. -/
structure LayoutField (L : Type) where
  /-- The name in records, such as `sector1_time_in_ms`. -/
  name : String
  /-- The name in the specification, such as `m_sector1TimeInMS`. -/
  wireName : String
  element : Element L
  shape : Shape
  /-- The distance from the start of the layout in bytes. -/
  offset : Nat
  deriving Repr

/-- How a named structure or union sits on the wire. -/
structure Layout where
  name : String
  arrangement : Arrangement
  /-- The fields in order of declaration. -/
  fields : List (LayoutField Layout)
  /-- The width in bytes. -/
  size : Nat
  deriving Repr

/-- The width of one element in bytes. -/
def Element.width : Element Layout → Nat
  | .primitive type => type.size
  | .nested layout => layout.size

namespace LayoutField

/-- The width of a whole field in bytes. -/
def width (field : LayoutField Layout) : Nat := field.element.width * field.shape.count

/-- The type of the elements, if they are primitive. -/
def primitive? (field : LayoutField Layout) : Option Primitive :=
  match field.element with
  | .primitive type => some type
  | .nested _ => none

/-- The layout of the elements, if they are records. -/
def nested? (field : LayoutField Layout) : Option Layout :=
  match field.element with
  | .nested layout => some layout
  | .primitive _ => none

end LayoutField

namespace Layout

/-- Give each field its offset, and compute the extent of them all. -/
def place (arrangement : Arrangement) : Nat → List (LayoutField Layout) → List (LayoutField Layout) × Nat
  | extent, [] => ([], extent)
  | extent, field :: rest =>
    let (placed, total) := place arrangement (arrangement.extend extent field.width) rest
    ({ field with offset := arrangement.offset extent } :: placed, total)

/-- The layout of the given fields, with offsets and size by the layout rules. -/
def build (name : String) (arrangement : Arrangement) (fields : List (LayoutField Layout)) : Layout :=
  let (placed, size) := place arrangement 0 fields
  ⟨name, arrangement, placed, size⟩

/-- The field of a name. -/
def field? (layout : Layout) (name : String) : Option (LayoutField Layout) :=
  layout.fields.find? fun field => field.name == name

/-- Check the fields in order: an array has elements, a name is new, and the
field ends within the layout. -/
def checkFields (layout : Layout) : List String → List (LayoutField Layout) → Except Fault Unit
  | _, [] => .ok ()
  | seen, field :: rest =>
    if field.shape.count = 0 then .error (.invalidLayout layout.name (.emptyArray field.wireName))
    else if field.name ∈ seen then .error (.invalidLayout layout.name (.duplicateField field.name))
    else if layout.size < field.offset + field.width then
      .error (.sizeMismatch layout.name layout.size (field.offset + field.width))
    else checkFields layout (field.name :: seen) rest

/-- Whether the parts of a layout are consistent with each other. -/
def validate (layout : Layout) : Except Fault Unit := layout.checkFields [] layout.fields

/-! ## What building keeps -/

theorem place_names (arrangement : Arrangement) (fields : List (LayoutField Layout)) (extent : Nat) :
    (place arrangement extent fields).1.map (·.name) = fields.map (·.name) := by
  induction fields generalizing extent with
  | nil => rfl
  | cons field rest ih =>
    simp only [place, List.map_cons]
    rw [ih]

theorem place_struct_size (fields : List (LayoutField Layout)) (extent : Nat) :
    (place .struct extent fields).2 = (fields.map LayoutField.width).foldl Nat.add extent := by
  induction fields generalizing extent with
  | nil => rfl
  | cons field rest ih =>
    simp only [place, Arrangement.extend, List.map_cons, List.foldl_cons]
    exact ih _

theorem place_union_size (fields : List (LayoutField Layout)) (extent : Nat) :
    (place .union extent fields).2 = (fields.map LayoutField.width).foldl max extent := by
  induction fields generalizing extent with
  | nil => rfl
  | cons field rest ih =>
    simp only [place, Arrangement.extend, List.map_cons, List.foldl_cons]
    exact ih _

end Layout

end LapTelemetry.Wire
