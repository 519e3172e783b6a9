import LapTelemetry.Proofs.Wire.Repacking

/-! # What packing keeps of a record

Packing asks a record for the fields of a layout and leaves the rest of the record
out. Without unions no two writes meet, so each value is read back as it was
written, and decoding what was packed gives the record that `Layout.select` takes
from the original: exactly the fields of the layout, in order.

`Stores` is the specification of a writer together with its reader. A value that
supplies what is asked for becomes bytes (`StoredAs`): they are written wherever
there is room, and read back wherever they stand. Any other value is refused, with
the field that it does not have. -/

namespace LapTelemetry.Wire

set_option autoImplicit false

/-- The bytes that a writer leaves in place of a value, and what is read from them. -/
structure StoredAs {α : Type} (width : Nat) (write : List UInt8 → Nat → Except Fault (List UInt8))
    (read : List UInt8 → Nat → Except Fault (α × Nat)) (normal : α) (bytes : List UInt8) :
    Prop where
  length_eq : bytes.length = width
  writes : ∀ buffer position, position + width ≤ buffer.length →
    write buffer position = .ok (splice buffer position bytes)
  reads : ∀ data position, slice data position width = bytes →
    read data position = .ok (normal, width)

/-- A writer that finds a field missing or of another form, wherever it writes. -/
def Refused (width : Nat) (write : List UInt8 → Nat → Except Fault (List UInt8)) : Prop :=
  ∀ buffer position, position + width ≤ buffer.length →
    ∃ field context, write buffer position = .error (.fieldNotFound field context)

/-- A writer stores the values that supply what is asked for, and refuses the others. -/
structure Stores {α : Type} (width : Nat)
    (write : α → List UInt8 → Nat → Except Fault (List UInt8))
    (read : List UInt8 → Nat → Except Fault (α × Nat)) (supplied : α → Prop) (select : α → α) :
    Prop where
  stored : ∀ value, supplied value → ∃ bytes, StoredAs width (write value) read (select value) bytes
  refused : ∀ value, ¬ supplied value → Refused width (write value)

theorem stores_scalar (name : String) (type : Primitive) :
    Stores type.size (packElement name (.primitive type)) (fun data => decodeScalar data type)
      (ElementSuppliedBy (.primitive type)) (selectElement (.primitive type)) := by
  constructor
  · rintro value ⟨s, rfl, typed⟩
    subst typed
    refine ⟨s.bytes, s.length_bytes, ?_, ?_⟩
    · intro buffer position room
      rw [packElement, if_pos rfl]
      exact overwrite_eq_splice (by rw [s.length_bytes]; exact room)
    · intro data position same
      have split : data.drop position = s.bytes ++ (data.drop position).drop s.type.size := by
        rw [← same, slice, List.take_append_drop]
      rw [decodeScalar, Value.read?, split, Scalar.read?_bytes_append]
      rfl
  · intro value lacking buffer position room
    cases value with
    | scalar s =>
      have other : s.type ≠ type := fun typed => lacking ⟨s, rfl, typed⟩
      exact ⟨name, "mistyped value", by rw [packElement, if_neg other]⟩
    | array items => exact ⟨name, "mistyped value", rfl⟩
    | record fields => exact ⟨name, "mistyped value", rfl⟩

/-! ## Arrays and shapes -/

section Elements

variable {width : Nat} {write : Value → List UInt8 → Nat → Except Fault (List UInt8)}
  {read : List UInt8 → Nat → Except Fault (Value × Nat)} {supplied : Value → Prop}
  {select : Value → Value}

theorem storedAs_array (stores : Stores width write read supplied select) (items : List Value)
    (each : ∀ item ∈ items, supplied item) :
    ∃ bytes, StoredAs (width * items.length) (packArray write width items)
      (fun data => decodeArray (read data) items.length) (items.map select) bytes := by
  induction items with
  | nil =>
    refine ⟨[], rfl, fun buffer position _ => ?_, fun data position _ => rfl⟩
    rw [packArray, splice_nil]
  | cons item rest ih =>
    obtain ⟨front, first⟩ := stores.stored item (each item List.mem_cons_self)
    obtain ⟨back, later⟩ := ih fun other member => each other (List.mem_cons_of_mem _ member)
    have total : width * (item :: rest).length = width + width * rest.length := by
      rw [List.length_cons, Nat.mul_succ, Nat.add_comm]
    have frontLength := first.length_eq
    have backLength := later.length_eq
    rw [total]
    refine ⟨front ++ back, by rw [List.length_append, frontLength, backLength], ?_, ?_⟩
    · intro buffer position room
      have inner : position + front.length ≤ buffer.length := by omega
      rw [packArray, first.writes buffer position (by omega)]
      simp only [bind, Except.bind]
      rw [later.writes _ _ (by rw [length_splice inner]; omega), ← splice_append (by omega),
        frontLength]
    · intro data position same
      obtain ⟨frontRead, backRead⟩ := slice_eq_append_iff frontLength |>.mp same
      simp only [List.length_cons, decodeArray, first.reads data position frontRead, bind,
        Except.bind, later.reads data (position + width) backRead]
      rfl

theorem refused_array (stores : Stores width write read supplied select) (items : List Value)
    (lacking : ¬ ∀ item ∈ items, supplied item) :
    Refused (width * items.length) (packArray write width items) := by
  induction items with
  | nil => exact absurd (fun item member => by cases member) lacking
  | cons item rest ih =>
    intro buffer position room
    rw [List.length_cons, Nat.mul_succ] at room
    rw [packArray]
    by_cases first : supplied item
    · obtain ⟨bytes, stored⟩ := stores.stored item first
      have inner : position + bytes.length ≤ buffer.length := by
        rw [stored.length_eq]
        omega
      obtain ⟨field, context, failed⟩ :=
        ih (fun each => lacking (List.forall_mem_cons.mpr ⟨first, each⟩))
          (splice buffer position bytes) (position + width) (by rw [length_splice inner]; omega)
      refine ⟨field, context, ?_⟩
      rw [stored.writes buffer position (by omega)]
      exact failed
    · obtain ⟨field, context, failed⟩ := stores.refused item first buffer position (by omega)
      refine ⟨field, context, ?_⟩
      rw [failed]
      rfl

theorem storedAs_shape (stores : Stores width write read supplied select) (mismatch : Fault)
    {shape : Shape} {value : Value} (held : shape.Holds supplied value) :
    ∃ bytes, StoredAs (width * shape.count) (packShape write width mismatch shape (some value))
      (fun data => decodeShape (read data) shape) (shape.map select value) bytes := by
  cases shape with
  | single =>
    rw [Shape.count, Nat.mul_one]
    exact stores.stored value held
  | array length =>
    obtain ⟨items, rfl, rfl, each⟩ := held
    obtain ⟨bytes, stored⟩ := storedAs_array stores items each
    refine ⟨bytes, stored.length_eq, ?_, ?_⟩
    · intro buffer position room
      rw [packShape, if_pos rfl]
      exact stored.writes buffer position room
    · intro data position same
      have items := stored.reads data position same
      rw [decodeShape, items]
      rfl

theorem refused_shape (stores : Stores width write read supplied select) (name context : String)
    {shape : Shape} {found : Option Value}
    (lacking : ¬ ∃ value, found = some value ∧ shape.Holds supplied value) :
    Refused (width * shape.count)
      (packShape write width (.fieldNotFound name context) shape found) := by
  intro buffer position room
  cases found with
  | none => exact ⟨name, context, by cases shape <;> rfl⟩
  | some value =>
    cases shape with
    | single =>
      rw [Shape.count, Nat.mul_one] at room
      exact stores.refused value (fun held => lacking ⟨value, rfl, held⟩) buffer position room
    | array length =>
      cases value with
      | array items =>
        rw [packShape]
        by_cases counted : items.length = length
        · subst counted
          rw [if_pos rfl]
          exact refused_array stores items (fun each => lacking ⟨_, rfl, items, rfl, rfl, each⟩)
            buffer position room
        · exact ⟨name, context, by rw [if_neg counted]⟩
      | scalar s => exact ⟨name, context, rfl⟩
      | record fields => exact ⟨name, context, rfl⟩

end Elements

/-! ## Fields -/

theorem stores_nested {layout : Layout} (name : String)
    (stores : Stores layout.size layout.packInto (fun data => layout.decode data) layout.SuppliedBy
      layout.select) :
    Stores layout.size (packElement name (.nested layout))
      (fun data => decodeElement data (.nested layout))
      (ElementSuppliedBy (.nested layout)) (selectElement (.nested layout)) := by
  constructor
  · rintro value ⟨record, rfl, supplied⟩
    obtain ⟨bytes, stored⟩ := stores.stored record supplied
    refine ⟨bytes, stored.length_eq, ?_, ?_⟩
    · intro buffer position room
      rw [packElement]
      exact stored.writes buffer position room
    · intro data position same
      rw [decodeElement_nested, stored.reads data position same]
      rfl
  · intro value lacking buffer position room
    cases value with
    | record fields =>
      have short : ¬ layout.SuppliedBy fields := fun supplied => lacking ⟨fields, rfl, supplied⟩
      exact stores.refused fields short buffer position room
    | scalar s => exact ⟨name, "mistyped value", rfl⟩
    | array items => exact ⟨name, "mistyped value", rfl⟩

/-- A field whose elements are stored or refused. -/
def LayoutField.Stores (field : LayoutField Layout) : Prop :=
  Wire.Stores field.element.width (packElement field.name field.element)
    (fun data => decodeElement data field.element) (ElementSuppliedBy field.element)
    (selectElement field.element)

theorem stores_field {field : LayoutField Layout}
    (inner : ∀ nested, field.element = .nested nested →
      Stores nested.size nested.packInto (fun data => nested.decode data) nested.SuppliedBy
        nested.select) :
    field.Stores := by
  obtain ⟨name, wireName, element, shape, offset⟩ := field
  cases element with
  | primitive type => exact stores_scalar name type
  | nested nested => exact stores_nested name (inner nested rfl)

/-- The fields of a struct are written one behind the other, each into bytes of its
own, and read back from there. -/
theorem storedAs_fields {fields : List (LayoutField Layout)} {extent total : Nat}
    {record : Record Value} (layoutName : String)
    (placed : Layout.place .struct extent fields = (fields, total))
    (stores : ∀ field ∈ fields, field.Stores) (supplied : FieldsSuppliedBy fields record) :
    ∃ bytes, extent + bytes.length = total ∧
      (∀ buffer base, base + total ≤ buffer.length →
        packFields layoutName .struct record base fields buffer extent =
          .ok (splice buffer (base + extent) bytes)) ∧
      ∀ data base, slice data (base + extent) bytes.length = bytes →
        decodeFields data layoutName .struct base fields extent =
          .ok (selectEntries fields record, total) := by
  induction fields generalizing extent with
  | nil =>
    cases placed
    refine ⟨[], rfl, fun buffer base _ => ?_, fun data base _ => ?_⟩
    · rw [packFields, splice_nil]
    · rw [decodeFields_nil, selectEntries]
  | cons field rest ih =>
    obtain ⟨offset, later⟩ := Layout.place_cons_iff.mp placed
    obtain ⟨⟨value, found, held⟩, others⟩ := fieldsSuppliedBy_cons_iff.mp supplied
    obtain ⟨front, first⟩ := storedAs_shape (stores field List.mem_cons_self)
      (.fieldNotFound field.name layoutName) held
    obtain ⟨back, ends, writes, reads⟩ := ih later
      (fun other member => stores other (List.mem_cons_of_mem _ member)) others
    have frontLength : front.length = field.width := first.length_eq
    simp only [Arrangement.extend] at ends writes reads
    refine ⟨front ++ back, by rw [List.length_append]; omega, ?_, ?_⟩
    · intro buffer base room
      have written : field.pack layoutName (some value) buffer (base + extent) =
          .ok (splice buffer (base + extent) front) := first.writes buffer _ (by
        show base + extent + field.width ≤ buffer.length
        omega)
      have inner : base + extent + front.length ≤ buffer.length := by omega
      rw [packFields_cons, found]
      simp only [Arrangement.offset, Arrangement.extend, written, bind, Except.bind]
      rw [writes _ base (by rw [length_splice inner]; exact room), ← splice_append (by omega),
        frontLength, Nat.add_assoc]
    · intro data base same
      rw [List.length_append, frontLength] at same
      obtain ⟨frontRead, backRead⟩ := (slice_eq_append_iff frontLength).mp same
      have decoded : field.decode data (base + extent) = .ok (_, field.width) :=
        first.reads data _ frontRead
      rw [Nat.add_assoc] at backRead
      rw [decodeFields_cons, if_neg (fun other => other offset.symm)]
      simp only [Arrangement.offset, Arrangement.extend, decoded, bind, Except.bind,
        reads data base backRead, selectEntries_cons found]
      rfl

theorem refused_fields {fields : List (LayoutField Layout)} {extent total : Nat}
    {record : Record Value} (layoutName : String)
    (placed : Layout.place .struct extent fields = (fields, total))
    (stores : ∀ field ∈ fields, field.Stores) (lacking : ¬ FieldsSuppliedBy fields record)
    (buffer : List UInt8) (base : Nat) (room : base + total ≤ buffer.length) :
    ∃ field context, packFields layoutName .struct record base fields buffer extent =
      .error (.fieldNotFound field context) := by
  induction fields generalizing extent buffer with
  | nil => exact absurd trivial lacking
  | cons field rest ih =>
    obtain ⟨-, later⟩ := Layout.place_cons_iff.mp placed
    have ends := Layout.le_of_place later
    simp only [Arrangement.extend] at ends later
    rw [packFields_cons]
    simp only [Arrangement.offset, Arrangement.extend]
    by_cases here : ∃ value, record.get? field.name = some value ∧
        field.shape.Holds (ElementSuppliedBy field.element) value
    · obtain ⟨value, found, held⟩ := here
      obtain ⟨bytes, stored⟩ := storedAs_shape (stores field List.mem_cons_self)
        (.fieldNotFound field.name layoutName) held
      have width : bytes.length = field.width := stored.length_eq
      have inner : base + extent + bytes.length ≤ buffer.length := by omega
      have written : field.pack layoutName (some value) buffer (base + extent) =
          .ok (splice buffer (base + extent) bytes) := stored.writes buffer _ (by
        show base + extent + field.width ≤ buffer.length
        omega)
      rw [found]
      simp only [written, bind, Except.bind]
      have short : ¬ FieldsSuppliedBy rest record := fun others =>
        lacking (fieldsSuppliedBy_cons_iff.mpr ⟨⟨value, found, held⟩, others⟩)
      exact ih later (fun other member => stores other (List.mem_cons_of_mem _ member)) short _
        (by rw [length_splice inner]; exact room)
    · obtain ⟨name, context, failed⟩ := refused_shape (stores field List.mem_cons_self) field.name
        layoutName here buffer (base + extent) (by
          show base + extent + field.width ≤ buffer.length
          omega)
      refine ⟨name, context, ?_⟩
      have refused : field.pack layoutName (record.get? field.name) buffer (base + extent) =
          .error (.fieldNotFound name context) := failed
      rw [refused]
      rfl

/-! ## Layouts -/

theorem stores_packInto {layout : Layout} (built : layout.Everywhere Layout.Built) :
    layout.Everywhere (fun inner => inner.arrangement = .struct) →
      Stores layout.size layout.packInto (fun data => layout.decode data) layout.SuppliedBy
        layout.select := by
  induction built with
  | intro own inner ih =>
    rename_i layout
    intro unionFree
    have placed := Layout.place_of_built own
    have stores (field : LayoutField Layout) (member : field ∈ layout.fields) : field.Stores :=
      stores_field fun nested element =>
        ih field member nested element (unionFree.inner field member nested element)
    have struct := unionFree.own
    obtain ⟨name, arrangement, fields, size⟩ := layout
    simp only at struct placed
    subst struct
    constructor
    · intro record supplied
      obtain ⟨bytes, ends, writes, reads⟩ := storedAs_fields name placed stores supplied
      rw [Nat.zero_add] at ends
      refine ⟨bytes, ends, ?_, ?_⟩
      · intro buffer position room
        rw [Layout.packInto]
        exact writes buffer position room
      · intro data position same
        rw [← ends] at same
        rw [Layout.decode_mk, reads data position same]
        rfl
    · intro record lacking buffer position room
      rw [Layout.packInto]
      exact refused_fields name placed stores lacking buffer position room

/-- **What packing keeps.** Without unions, packing succeeds on exactly the records that
supply the layout, and what it writes decodes to the fields of the layout, in order, with
the values that were found. A record of exactly these fields comes back as it was, and a
record that is refused lacks a field or has it in another form. -/
theorem pack_normalForm (layout : Layout) (built : layout.Everywhere Layout.Built)
    (valid : layout.Everywhere fun inner => inner.validate = .ok ())
    (unionFree : layout.Everywhere fun inner => inner.arrangement = .struct)
    (record : Record Value) :
    ((∃ bytes, layout.pack record = .ok bytes) ↔ layout.SuppliedBy record) ∧
      (∀ bytes, layout.pack record = .ok bytes → bytes.length = layout.size ∧
        layout.decode bytes 0 = .ok (layout.select record, layout.size)) ∧
      (layout.Fits record → ∃ bytes, layout.pack record = .ok bytes ∧
        layout.decode bytes 0 = .ok (record, layout.size)) ∧
      (∀ fault, layout.pack record = .error fault →
        ∃ field context, fault = .fieldNotFound field context) := by
  have stores := stores_packInto built unionFree
  have zeros : (List.replicate layout.size (0 : UInt8)).length = layout.size :=
    List.length_replicate
  by_cases supplied : layout.SuppliedBy record
  · obtain ⟨bytes, length, writes, reads⟩ := stores.stored record supplied
    have packed : layout.pack record = .ok bytes := by
      rw [Layout.pack, writes _ 0 (by omega), splice_whole (by omega)]
    have decoded : layout.decode bytes 0 = .ok (layout.select record, layout.size) :=
      reads bytes 0 (by rw [← length, slice_whole])
    refine ⟨iff_of_true ⟨bytes, packed⟩ supplied, ?_, ?_, ?_⟩
    · intro other same
      cases packed.symm.trans same
      exact ⟨length, decoded⟩
    · intro fits
      rw [(supplied_and_select_of_fits valid record fits).2] at decoded
      exact ⟨bytes, packed, decoded⟩
    · intro fault failed
      cases packed.symm.trans failed
  · obtain ⟨field, context, failed⟩ := stores.refused record supplied _ 0
      (Nat.le_of_eq ((Nat.zero_add _).trans zeros.symm))
    have packed : layout.pack record = .error (.fieldNotFound field context) := failed
    refine ⟨iff_of_false ?_ supplied, ?_, ?_, ?_⟩
    · rintro ⟨bytes, done⟩
      cases packed.symm.trans done
    · intro bytes done
      cases packed.symm.trans done
    · intro fits
      exact absurd (supplied_and_select_of_fits valid record fits).1 supplied
    · intro fault same
      cases packed.symm.trans same
      exact ⟨field, context, rfl⟩

/-- A record for a lap with its entries in another order, one entry too many, and one
name twice in a record inside. -/
def Layout.Sample.shuffled : Record Value :=
  ⟨[("delta", .natural .int8 253), ("flag", .natural .uint8 9),
    ("splits", .array
      [.record ⟨[("ms", .natural .uint16 513), ("sector", .natural .uint8 1)]⟩,
        .record ⟨[("sector", .natural .uint8 2), ("ms", .natural .uint16 770),
          ("sector", .natural .uint8 7)]⟩])]⟩

theorem pack_normalForm_shuffled :
    Layout.Sample.lap.Everywhere Layout.Built ∧
      (Layout.Sample.lap.Everywhere fun inner => inner.validate = .ok ()) ∧
      (Layout.Sample.lap.Everywhere fun inner => inner.arrangement = .struct) ∧
      Layout.Sample.lap.SuppliedBy Layout.Sample.shuffled ∧
      Layout.Sample.lap.decode [1, 1, 2, 2, 2, 3, 253] 0 =
        .ok (Layout.Sample.lap.select Layout.Sample.shuffled, 7) := by
  have built := Layout.Sample.lap_built
  have valid := Layout.Sample.lap_valid
  have unionFree : Layout.Sample.lap.Everywhere fun inner => inner.arrangement = .struct :=
    Layout.Sample.lap_everywhere rfl rfl
  have packed : Layout.Sample.lap.pack Layout.Sample.shuffled = .ok [1, 1, 2, 2, 2, 3, 253] := rfl
  obtain ⟨supplied, kept, -⟩ :=
    pack_normalForm Layout.Sample.lap built valid unionFree Layout.Sample.shuffled
  exact ⟨built, valid, unionFree, supplied.mp ⟨_, packed⟩, (kept _ packed).2⟩

end LapTelemetry.Wire
