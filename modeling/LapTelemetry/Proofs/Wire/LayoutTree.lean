import Mathlib.Algebra.GroupWithZero.Nat
import LapTelemetry.Wire.Layout

/-! # Layouts as trees

The fields of a layout may hold layouts, and those may hold layouts again.
`Layout.Everywhere` says that a property holds of a layout and of all layouts in
it; its induction is the one that theorems about decoding and packing follow.

Two properties matter everywhere. A layout is `Built` when `Layout.build` gave it:
then placing its fields again moves none of them (`place_of_built`), so the walk
over the fields and the recorded offsets and size agree. `validate_eq_ok_iff` says
what `validate` accepts. -/

namespace LapTelemetry.Wire

set_option autoImplicit false

namespace Layout

/-- A property of a layout and of every layout inside it, at any depth. -/
inductive Everywhere (holds : Layout → Prop) : Layout → Prop where
  | intro {layout : Layout} (own : holds layout)
      (inner : ∀ field ∈ layout.fields, ∀ nested, field.element = .nested nested →
        Everywhere holds nested) :
      Everywhere holds layout

namespace Everywhere

variable {holds : Layout → Prop} {layout : Layout}

theorem own (everywhere : layout.Everywhere holds) : holds layout := by
  cases everywhere with
  | intro own inner => exact own

theorem inner (everywhere : layout.Everywhere holds) :
    ∀ field ∈ layout.fields, ∀ nested, field.element = .nested nested →
      nested.Everywhere holds := by
  cases everywhere with
  | intro own inner => exact inner

theorem imp {weaker : Layout → Prop} (everywhere : layout.Everywhere holds)
    (imp : ∀ inner, holds inner → weaker inner) : layout.Everywhere weaker := by
  induction everywhere with
  | intro own inner ih => exact .intro (imp _ own) ih

end Everywhere

/-- A layout that the layout rules gave. -/
def Built (layout : Layout) : Prop :=
  ∃ name arrangement fields, layout = build name arrangement fields

end Layout

namespace LayoutField

variable {field : LayoutField Layout}

theorem element_of_primitive? {type : Primitive} (isPrimitive : field.primitive? = some type) :
    field.element = .primitive type := by
  unfold primitive? at isPrimitive
  split at isPrimitive
  · next element =>
    cases isPrimitive
    exact element
  · cases isPrimitive

theorem element_of_nested? {nested : Layout} (isNested : field.nested? = some nested) :
    field.element = .nested nested := by
  unfold nested? at isNested
  split at isNested
  · next element =>
    cases isNested
    exact element
  · cases isNested

end LayoutField

/-! ## Extents -/

namespace Arrangement

theorem le_extend (arrangement : Arrangement) (extent width : Nat) :
    extent ≤ arrangement.extend extent width := by
  cases arrangement with
  | struct => exact Nat.le_add_right _ _
  | union => exact Nat.le_max_left _ _

/-- A field ends within the extent that it makes. -/
theorem offset_add_le_extend (arrangement : Arrangement) (extent width : Nat) :
    arrangement.offset extent + width ≤ arrangement.extend extent width := by
  cases arrangement with
  | struct => exact Nat.le_refl _
  | union =>
    rw [offset, Nat.zero_add]
    exact Nat.le_max_right _ _

end Arrangement

namespace Layout

variable {arrangement : Arrangement} {extent total : Nat}

/-- Fields that placing leaves alone start where the extent before them says. -/
theorem place_cons_iff {field : LayoutField Layout} {rest : List (LayoutField Layout)} :
    place arrangement extent (field :: rest) = (field :: rest, total) ↔
      field.offset = arrangement.offset extent ∧
        place arrangement (arrangement.extend extent field.width) rest = (rest, total) := by
  obtain ⟨name, wireName, element, shape, offset⟩ := field
  simp only [place, List.cons.injEq, LayoutField.mk.injEq, true_and, Prod.ext_iff,
    and_assoc, eq_comm (a := arrangement.offset extent)]

/-- Placing looks at widths only, so fields that are placed stay where they are. -/
theorem place_place (fields : List (LayoutField Layout)) :
    place arrangement extent (place arrangement extent fields).1 =
      place arrangement extent fields := by
  induction fields generalizing extent with
  | nil => rfl
  | cons field rest ih =>
    have same (offset : Nat) : LayoutField.width { field with offset } = field.width := rfl
    simp only [place, same]
    rw [ih]

theorem place_of_built {layout : Layout} (built : layout.Built) :
    place layout.arrangement 0 layout.fields = (layout.fields, layout.size) := by
  obtain ⟨name, arrangement, fields, rfl⟩ := built
  exact place_place fields

theorem exists_of_mem_place {fields : List (LayoutField Layout)} {field : LayoutField Layout}
    (member : field ∈ (place arrangement extent fields).1) :
    ∃ given ∈ fields, ∃ offset, field = { given with offset } := by
  induction fields generalizing extent with
  | nil => cases member
  | cons first rest ih =>
    rcases List.mem_cons.mp member with rfl | later
    · exact ⟨first, List.mem_cons_self, _, rfl⟩
    · obtain ⟨given, among, offset, rfl⟩ := ih later
      exact ⟨given, List.mem_cons_of_mem _ among, offset, rfl⟩

/-- Building moves fields and leaves the layouts in them alone. -/
theorem everywhere_build {holds : Layout → Prop} {name : String}
    {fields : List (LayoutField Layout)} (own : holds (build name arrangement fields))
    (inner : ∀ field ∈ fields, ∀ nested, field.element = .nested nested →
      nested.Everywhere holds) :
    (build name arrangement fields).Everywhere holds := by
  refine .intro own fun field member nested element => ?_
  obtain ⟨given, among, offset, rfl⟩ := exists_of_mem_place member
  exact inner given among nested element

theorem le_of_place {fields : List (LayoutField Layout)}
    (placed : place arrangement extent fields = (fields, total)) : extent ≤ total := by
  induction fields generalizing extent with
  | nil =>
    cases placed
    exact Nat.le_refl _
  | cons field rest ih =>
    have later := ih (place_cons_iff.mp placed).2
    have first := arrangement.le_extend extent field.width
    omega

theorem place_append (fields later : List (LayoutField Layout)) :
    (place arrangement extent (fields ++ later)).2 =
      (place arrangement (place arrangement extent fields).2 later).2 := by
  induction fields generalizing extent with
  | nil => rfl
  | cons field rest ih => exact ih

theorem offset_of_place {fields before later : List (LayoutField Layout)}
    {field : LayoutField Layout} (placed : place arrangement extent fields = (fields, total))
    (split : fields = before ++ field :: later) :
    field.offset = arrangement.offset (place arrangement extent before).2 := by
  subst split
  induction before generalizing extent with
  | nil => exact (place_cons_iff.mp placed).1
  | cons first rest ih => exact ih (place_cons_iff.mp placed).2

theorem end_le_of_place {fields : List (LayoutField Layout)} {field : LayoutField Layout}
    (placed : place arrangement extent fields = (fields, total)) (member : field ∈ fields) :
    field.offset + field.width ≤ total := by
  induction fields generalizing extent with
  | nil => cases member
  | cons first rest ih =>
    obtain ⟨offset, later⟩ := place_cons_iff.mp placed
    rcases List.mem_cons.mp member with rfl | among
    · rw [offset]
      exact Nat.le_trans (arrangement.offset_add_le_extend extent field.width) (le_of_place later)
    · exact ih later among

/-- The extent of the fields of a struct is the sum of their widths. -/
theorem place_struct_sum (fields : List (LayoutField Layout)) :
    (place .struct 0 fields).2 = (fields.map LayoutField.width).sum := by
  rw [place_struct_size, List.sum_eq_foldl]
  rfl

/-! ## What validation accepts -/

theorem checkFields_eq_ok_iff (layout : Layout) (seen : List String)
    (fields : List (LayoutField Layout)) :
    layout.checkFields seen fields = .ok () ↔
      (∀ field ∈ fields, field.shape.count ≠ 0 ∧ field.name ∉ seen ∧
        field.offset + field.width ≤ layout.size) ∧ (fields.map (·.name)).Nodup := by
  induction fields generalizing seen with
  | nil => simp [checkFields]
  | cons field rest ih =>
    simp only [checkFields, List.forall_mem_cons, List.map_cons, List.nodup_cons]
    by_cases empty : field.shape.count = 0
    · simp [empty]
    by_cases taken : field.name ∈ seen
    · simp [empty, taken]
    by_cases outside : layout.size < field.offset + field.width
    · simp [empty, taken, outside, Nat.not_le.mpr outside]
    rw [if_neg empty, if_neg taken, if_neg outside, ih]
    constructor
    · rintro ⟨later, distinct⟩
      refine ⟨⟨⟨empty, taken, Nat.not_lt.mp outside⟩, fun other member => ?_⟩, ?_, distinct⟩
      · obtain ⟨elements, unseen, within⟩ := later other member
        exact ⟨elements, fun earlier => unseen (List.mem_cons_of_mem _ earlier), within⟩
      · intro again
        obtain ⟨other, member, same⟩ := List.mem_map.mp again
        exact (later other member).2.1 (same ▸ List.mem_cons_self)
    · rintro ⟨⟨-, later⟩, fresh, distinct⟩
      refine ⟨fun other member => ?_, distinct⟩
      obtain ⟨elements, unseen, within⟩ := later other member
      refine ⟨elements, fun known => ?_, within⟩
      rcases List.mem_cons.mp known with same | earlier
      · exact fresh (List.mem_map.mpr ⟨other, member, same⟩)
      · exact unseen earlier

theorem validate_eq_ok_iff (layout : Layout) :
    layout.validate = .ok () ↔
      (∀ field ∈ layout.fields, field.shape.count ≠ 0 ∧
        field.offset + field.width ≤ layout.size) ∧ (layout.fields.map (·.name)).Nodup := by
  rw [validate, checkFields_eq_ok_iff]
  simp

/-! ## Layouts to try statements on -/

namespace Sample

/-- A field with an element and a shape, before it is placed. -/
def field (name : String) (element : Element Layout) (shape : Shape) : LayoutField Layout :=
  ⟨name, "m_" ++ name, element, shape, 0⟩

/-- Two scalars, three bytes. -/
def split : Layout :=
  build "Split" .struct
    [field "sector" (.primitive .uint8) .single, field "ms" (.primitive .uint16) .single]

/-- An array of records and a scalar, seven bytes. -/
def lap : Layout :=
  build "Lap" .struct
    [field "splits" (.nested split) (.array 2), field "delta" (.primitive .int8) .single]

/-- A union whose widest member is not the last. -/
def overlay : Layout :=
  build "Overlay" .union
    [field "word" (.primitive .uint32) .single, field "lap" (.nested lap) .single,
      field "raw" (.primitive .uint8) (.array 3)]

/-- An array of unions and a scalar, sixteen bytes. -/
def frame : Layout :=
  build "Frame" .struct
    [field "overlays" (.nested overlay) (.array 2), field "tail" (.primitive .uint16) .single]

section Everywhere

variable {holds : Layout → Prop}

theorem lap_everywhere (ofSplit : holds split) (ofLap : holds lap) : lap.Everywhere holds := by
  have inner : split.Everywhere holds := everywhere_build ofSplit (by simp [field])
  refine everywhere_build ofLap ?_
  simp [field, inner]

theorem frame_everywhere (ofSplit : holds split) (ofLap : holds lap) (ofOverlay : holds overlay)
    (ofFrame : holds frame) : frame.Everywhere holds := by
  have inner : overlay.Everywhere holds := by
    refine everywhere_build ofOverlay ?_
    simp [field, lap_everywhere ofSplit ofLap]
  refine everywhere_build ofFrame ?_
  simp [field, inner]

end Everywhere

theorem lap_built : lap.Everywhere Built := lap_everywhere ⟨_, _, _, rfl⟩ ⟨_, _, _, rfl⟩

theorem frame_built : frame.Everywhere Built :=
  frame_everywhere ⟨_, _, _, rfl⟩ ⟨_, _, _, rfl⟩ ⟨_, _, _, rfl⟩ ⟨_, _, _, rfl⟩

theorem lap_valid : lap.Everywhere fun inner => inner.validate = .ok () :=
  lap_everywhere rfl rfl

theorem frame_valid : frame.Everywhere fun inner => inner.validate = .ok () :=
  frame_everywhere rfl rfl rfl rfl

end Sample

end Layout

end LapTelemetry.Wire
