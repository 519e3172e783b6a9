import LapTelemetry.Proofs.Wire.LayoutTree
import LapTelemetry.Wire.Value

/-! # Records that go with a layout

`Layout.Fits` says that a record is what the layout describes: exactly the fields
of the layout, in order, each with a value of the declared type and length, and
the same of every record inside. `Layout.SuppliedBy` asks for less: under the name
of each field there is such a value. The record may hold other entries, in any
order, and of a name that occurs twice the first entry counts. `Layout.select`
takes from such a record what the layout asks for, so that the result fits.

Where names are distinct, a record that fits supplies its layout and selecting
changes nothing (`supplied_and_select_of_fits`). -/

namespace LapTelemetry.Wire

set_option autoImplicit false

namespace Shape

/-- A value of a shape whose elements are good. -/
def Holds (good : Value → Prop) : Shape → Value → Prop
  | .single, value => good value
  | .array length, value =>
    ∃ items, value = .array items ∧ items.length = length ∧ ∀ item ∈ items, good item

/-- Change the elements of a value of a shape. -/
def map (change : Value → Value) : Shape → Value → Value
  | .single, value => change value
  | .array _, .array items => .array (items.map change)
  | .array _, value => value

theorem Holds.imp {good better : Value → Prop} {shape : Shape} {value : Value}
    (held : shape.Holds good value) (imp : ∀ item, good item → better item) :
    shape.Holds better value := by
  cases shape with
  | single => exact imp value held
  | array length =>
    obtain ⟨items, rfl, counted, each⟩ := held
    exact ⟨items, rfl, counted, fun item member => imp item (each item member)⟩

theorem map_eq_self {good : Value → Prop} {change : Value → Value} {shape : Shape} {value : Value}
    (held : shape.Holds good value) (same : ∀ item, good item → change item = item) :
    shape.map change value = value := by
  cases shape with
  | single => exact same value held
  | array length =>
    obtain ⟨items, rfl, -, each⟩ := held
    simp only [map, Value.array.injEq]
    calc items.map change
      _ = items.map id := List.map_congr_left fun item member => same item (each item member)
      _ = items := List.map_id items

end Shape

/-! ## Fitting, supplying, selecting -/

mutual

/-- A record of exactly the fields of a layout, in order. -/
def Layout.Fits : Layout → Record Value → Prop
  | ⟨_, _, fields, _⟩, record => EntriesFit fields record.entries

/-- Entries of exactly the given fields, in order. -/
def EntriesFit : List (LayoutField Layout) → List (String × Value) → Prop
  | [], entries => entries = []
  | ⟨name, _, element, shape, _⟩ :: rest, entries =>
    ∃ value others, entries = (name, value) :: others ∧ shape.Holds (ElementFits element) value ∧
      EntriesFit rest others

/-- A value of the type of an element. -/
def ElementFits : Element Layout → Value → Prop
  | .primitive type, value => ∃ s : Scalar, value = .scalar s ∧ s.type = type
  | .nested layout, value => ∃ record, value = .record record ∧ layout.Fits record

end

mutual

/-- A record in which every field of a layout is found with a value of its type. -/
def Layout.SuppliedBy : Layout → Record Value → Prop
  | ⟨_, _, fields, _⟩, record => FieldsSuppliedBy fields record

/-- Each of the given fields is found in a record, with a value of its type. -/
def FieldsSuppliedBy : List (LayoutField Layout) → Record Value → Prop
  | [], _ => True
  | ⟨name, _, element, shape, _⟩ :: rest, record =>
    (∃ value, record.get? name = some value ∧ shape.Holds (ElementSuppliedBy element) value) ∧
      FieldsSuppliedBy rest record

/-- A value that is enough for an element. -/
def ElementSuppliedBy : Element Layout → Value → Prop
  | .primitive type, value => ∃ s : Scalar, value = .scalar s ∧ s.type = type
  | .nested layout, value => ∃ record, value = .record record ∧ layout.SuppliedBy record

end

mutual

/-- The record of exactly the fields of a layout, with the values found in a record. -/
def Layout.select : Layout → Record Value → Record Value
  | ⟨_, _, fields, _⟩, record => ⟨selectEntries fields record⟩

/-- The values found under the names of the given fields. -/
def selectEntries : List (LayoutField Layout) → Record Value → List (String × Value)
  | [], _ => []
  | ⟨name, _, element, shape, _⟩ :: rest, record =>
    match record.get? name with
    | some value => (name, shape.map (selectElement element) value) :: selectEntries rest record
    | none => selectEntries rest record

/-- What an element asks for of a value. -/
def selectElement : Element Layout → Value → Value
  | .nested layout, .record record => .record (layout.select record)
  | _, value => value

end

/-- The value of a field of its declared type and length. -/
def LayoutField.Fits (field : LayoutField Layout) (value : Value) : Prop :=
  field.shape.Holds (ElementFits field.element) value

theorem entriesFit_cons_iff {field : LayoutField Layout} {rest : List (LayoutField Layout)}
    {entries : List (String × Value)} :
    EntriesFit (field :: rest) entries ↔
      ∃ value others, entries = (field.name, value) :: others ∧ field.Fits value ∧
        EntriesFit rest others := by
  obtain ⟨name, wireName, element, shape, offset⟩ := field
  rw [EntriesFit]
  rfl

theorem fieldsSuppliedBy_cons_iff {field : LayoutField Layout} {rest : List (LayoutField Layout)}
    {record : Record Value} :
    FieldsSuppliedBy (field :: rest) record ↔
      (∃ value, record.get? field.name = some value ∧
        field.shape.Holds (ElementSuppliedBy field.element) value) ∧
        FieldsSuppliedBy rest record := by
  obtain ⟨name, wireName, element, shape, offset⟩ := field
  rw [FieldsSuppliedBy]

theorem selectEntries_cons {field : LayoutField Layout} {rest : List (LayoutField Layout)}
    {record : Record Value} {value : Value} (found : record.get? field.name = some value) :
    selectEntries (field :: rest) record =
      (field.name, field.shape.map (selectElement field.element) value) ::
        selectEntries rest record := by
  obtain ⟨name, wireName, element, shape, offset⟩ := field
  simp only [selectEntries, found]

theorem names_of_entriesFit {fields : List (LayoutField Layout)} {entries : List (String × Value)}
    (fit : EntriesFit fields entries) : entries.map (·.1) = fields.map (·.name) := by
  induction fields generalizing entries with
  | nil =>
    rw [EntriesFit] at fit
    rw [fit]
    rfl
  | cons field rest ih =>
    obtain ⟨value, others, rfl, -, later⟩ := entriesFit_cons_iff.mp fit
    rw [List.map_cons, List.map_cons, ih later]

namespace Layout

theorem fits_iff (layout : Layout) (record : Record Value) :
    layout.Fits record ↔ EntriesFit layout.fields record.entries := by
  cases layout
  rw [Fits]

/-- A record that fits has the names of the fields in order of declaration. -/
theorem names_of_fits {layout : Layout} {record : Record Value} (fit : layout.Fits record) :
    record.names = layout.fields.map (·.name) :=
  names_of_entriesFit ((fits_iff layout record).mp fit)

end Layout

/-! ## Records that fit supply their layout -/

/-- Where no name occurs twice, every entry is found under its name. -/
theorem Record.get?_of_mem {α : Type} {record : Record α} (distinct : record.names.Nodup)
    {entry : String × α} (member : entry ∈ record.entries) :
    record.get? entry.1 = some entry.2 := by
  obtain ⟨entries⟩ := record
  simp only [names, get?] at distinct ⊢
  induction entries with
  | nil => cases member
  | cons head rest ih =>
    rw [List.map_cons, List.nodup_cons] at distinct
    rcases List.mem_cons.mp member with rfl | later
    · exact List.lookup_cons_self
    · have other : entry.1 ≠ head.1 := fun same =>
        distinct.1 (same ▸ List.mem_map_of_mem later)
      rw [List.lookup_cons, beq_eq_false_iff_ne.mpr other]
      exact ih distinct.2 later

theorem supplied_and_select_of_entriesFit {fields : List (LayoutField Layout)}
    {entries : List (String × Value)} {record : Record Value} (fit : EntriesFit fields entries)
    (found : ∀ entry ∈ entries, record.get? entry.1 = some entry.2)
    (each : ∀ field ∈ fields, ∀ value, ElementFits field.element value →
      ElementSuppliedBy field.element value ∧ selectElement field.element value = value) :
    FieldsSuppliedBy fields record ∧ selectEntries fields record = entries := by
  induction fields generalizing entries with
  | nil =>
    rw [EntriesFit] at fit
    subst fit
    exact ⟨trivial, rfl⟩
  | cons field rest ih =>
    obtain ⟨value, others, rfl, fits, later⟩ := entriesFit_cons_iff.mp fit
    have here : record.get? field.name = some value := found _ List.mem_cons_self
    have element := each field List.mem_cons_self
    obtain ⟨supplied, selected⟩ := ih later
      (fun entry member => found entry (List.mem_cons_of_mem _ member))
      (fun other member => each other (List.mem_cons_of_mem _ member))
    constructor
    · have held := fits.imp fun item good => (element item good).1
      exact fieldsSuppliedBy_cons_iff.mpr ⟨⟨value, here, held⟩, supplied⟩
    · rw [selectEntries_cons here, selected,
        Shape.map_eq_self fits fun item good => (element item good).2]

/-- A record that fits a layout supplies it, and there is nothing to select. -/
theorem supplied_and_select_of_fits {layout : Layout}
    (valid : layout.Everywhere fun inner => inner.validate = .ok ()) :
    ∀ record, layout.Fits record → layout.SuppliedBy record ∧ layout.select record = record := by
  induction valid with
  | intro own inner ih =>
    rename_i layout
    intro record fit
    have entriesFit := (layout.fits_iff record).mp fit
    have distinct : record.names.Nodup := by
      rw [Layout.names_of_fits fit]
      exact (layout.validate_eq_ok_iff.mp own).2
    have parts := supplied_and_select_of_entriesFit entriesFit
      (fun entry member => Record.get?_of_mem distinct member) (fun field member value good => by
        cases element : field.element with
        | primitive type =>
          rw [element] at good
          exact ⟨good, rfl⟩
        | nested nested =>
          rw [element] at good
          obtain ⟨held, rfl, fits⟩ := good
          obtain ⟨supplied, selected⟩ := ih field member nested element held fits
          exact ⟨⟨held, rfl, supplied⟩, congrArg Value.record selected⟩)
    obtain ⟨name, arrangement, fields, size⟩ := layout
    obtain ⟨entries⟩ := record
    exact ⟨parts.1, congrArg Record.mk parts.2⟩

end LapTelemetry.Wire
