import LapTelemetry.Proofs.Wire.DecodeSize
import LapTelemetry.Proofs.Wire.Slice

/-! # Packing writes back what decoding read

`WritesBack` says that a writer puts the very bytes in place that a reader took a
value from. Scalars do, elements pass it on to arrays and shapes, and the fields of
a layout to the layout. The step over one field is the same for both arrangements
(`splice_extend`): what has been written so far is the front of the layout's bytes,
up to the extent of the fields so far, and one field more makes the front longer or,
in a union, leaves it as long as its widest member.

Packing looks values up by name where decoding went by position, so the names of
each layout have to be distinct, which validation checks. For valid layouts that the
rules gave, unions included, packing is a left inverse of decoding (`pack_decode`). -/

namespace LapTelemetry.Wire

set_option autoImplicit false

/-- A writer that puts back the bytes a reader took a value from. -/
def WritesBack {α : Type} (data : List UInt8) (width : Nat) (read : Nat → Except Fault (α × Nat))
    (write : α → List UInt8 → Nat → Except Fault (List UInt8)) : Prop :=
  ∀ position value, Reaches data position width → read position = .ok (value, width) →
    ∀ buffer target, target + width ≤ buffer.length →
      write value buffer target = .ok (splice buffer target (slice data position width))

theorem writesBack_scalar (data : List UInt8) (name : String) (type : Primitive) :
    WritesBack data type.size (decodeScalar data type) (packElement name (.primitive type)) := by
  intro position value reaches decoded buffer target room
  rw [decodeScalar, Value.read?] at decoded
  cases read : Scalar.read? type (data.drop position) with
  | none =>
    rw [read] at decoded
    cases decoded
  | some s =>
    rw [read] at decoded
    cases decoded
    obtain ⟨typed, bytes⟩ := Scalar.bytes_of_read? read
    rw [packElement, if_pos typed, slice, ← bytes]
    exact overwrite_eq_splice (by rw [s.length_bytes, typed]; exact room)

theorem writesBack_array {data : List UInt8} {good : Value → Prop} {width : Nat}
    {step : Nat → Except Fault (Value × Nat)}
    {write : Value → List UInt8 → Nat → Except Fault (List UInt8)}
    (reads : ReadsExactly data good width step) (writes : WritesBack data width step write)
    (count : Nat) :
    WritesBack data (width * count) (decodeArray step count) (packArray write width) := by
  induction count with
  | zero =>
    intro position items _ decoded buffer target _
    cases decoded
    rw [packArray, Nat.mul_zero, slice_zero, splice_nil]
  | succ count ih =>
    have total : width * (count + 1) = width + width * count := by
      rw [Nat.mul_succ, Nat.add_comm]
    rw [total]
    intro position items reaches decoded buffer target room
    obtain ⟨item, stepped, -⟩ := reads.takes position reaches.front
    obtain ⟨others, rest, -⟩ :=
      (readsExactly_array reads count).takes (position + width) reaches.back
    simp only [decodeArray, stepped, bind, Except.bind, rest] at decoded
    cases decoded
    have written := length_slice reaches.front
    have inner : target + (slice data position width).length ≤ buffer.length := by omega
    rw [packArray, writes position item reaches.front stepped buffer target (by omega)]
    simp only [bind, Except.bind]
    rw [ih (position + width) others reaches.back rest _ _ (by rw [length_splice inner]; omega),
      splice_slice_append reaches room]

/-! ## Fields -/

/-- Write a value of a shape, element by element; `mismatch` is the fault of a value
of another shape. -/
def packShape (step : Value → List UInt8 → Nat → Except Fault (List UInt8)) (width : Nat)
    (mismatch : Fault) : Shape → Option Value → List UInt8 → Nat → Except Fault (List UInt8)
  | .single, some value, buffer, position => step value buffer position
  | .array length, some (.array items), buffer, position =>
    if items.length = length then packArray step width items buffer position else .error mismatch
  | _, _, _, _ => .error mismatch

/-- Write the value found for a field of a layout. -/
def LayoutField.pack (layoutName : String) (field : LayoutField Layout) (found : Option Value)
    (buffer : List UInt8) (position : Nat) : Except Fault (List UInt8) :=
  packShape (fun item buffer position => packElement field.name field.element item buffer position)
    field.element.width (.fieldNotFound field.name layoutName) field.shape found buffer position

/-- The writing of fields, one field at a time. -/
theorem packFields_cons (layoutName : String) (arrangement : Arrangement) (record : Record Value)
    (base extent : Nat) (field : LayoutField Layout) (rest : List (LayoutField Layout))
    (buffer : List UInt8) :
    packFields layoutName arrangement record base (field :: rest) buffer extent = (do
      let written ← field.pack layoutName (record.get? field.name) buffer
        (base + arrangement.offset extent)
      packFields layoutName arrangement record base rest written
        (arrangement.extend extent field.width)) := by
  obtain ⟨name, wireName, element, shape, offset⟩ := field
  rw [packFields.eq_def]
  dsimp only
  cases record.get? name with
  | none => cases shape <;> rfl
  | some value =>
    cases shape with
    | single => rfl
    | array length =>
      cases value with
      | array items =>
        simp only [LayoutField.pack, packShape]
        by_cases counted : items.length = length
        · rw [if_pos counted, if_pos counted]
          rfl
        · rw [if_neg counted, if_neg counted]
          rfl
      | _ => rfl

theorem writesBack_shape {data : List UInt8} {good : Value → Prop} {width : Nat}
    {step : Nat → Except Fault (Value × Nat)}
    {write : Value → List UInt8 → Nat → Except Fault (List UInt8)}
    (reads : ReadsExactly data good width step) (writes : WritesBack data width step write)
    (mismatch : Fault) (shape : Shape) :
    WritesBack data (width * shape.count) (decodeShape step shape)
      (fun value => packShape write width mismatch shape (some value)) := by
  intro position value reaches decoded buffer target room
  cases shape with
  | single =>
    rw [Shape.count, Nat.mul_one] at *
    exact writes position value reaches decoded buffer target room
  | array length =>
    obtain ⟨items, taken, counted, -⟩ := (readsExactly_array reads length).takes position reaches
    rw [decodeShape, taken] at decoded
    cases decoded
    show (if items.length = length then _ else _) = _
    rw [if_pos counted]
    exact writesBack_array reads writes length position items reaches taken buffer target room

theorem writesBack_nested {data : List UInt8} {layout : Layout} (name : String)
    (reads : ReadsExactly data layout.Fits layout.size (layout.decode data))
    (writes : WritesBack data layout.size (layout.decode data) layout.packInto) :
    WritesBack data layout.size (decodeElement data (.nested layout))
      (packElement name (.nested layout)) := by
  intro position value reaches decoded buffer target room
  obtain ⟨record, taken, -⟩ := reads.takes position reaches
  rw [decodeElement_nested, taken] at decoded
  cases decoded
  rw [packElement]
  exact writes position record reaches taken buffer target room

theorem writesBack_field {data : List UInt8} {field : LayoutField Layout} (layoutName : String)
    (reads : ∀ nested, field.element = .nested nested →
      ReadsExactly data nested.Fits nested.size (nested.decode data))
    (writes : ∀ nested, field.element = .nested nested →
      WritesBack data nested.size (nested.decode data) nested.packInto) :
    WritesBack data field.width (field.decode data)
      (fun value => field.pack layoutName (some value)) := by
  obtain ⟨name, wireName, element, shape, offset⟩ := field
  cases element with
  | primitive type =>
    exact writesBack_shape (readsExactly_scalar data type) (writesBack_scalar data name type) _
      shape
  | nested nested =>
    have reader := reads nested rfl
    exact writesBack_shape (readsExactly_nested reader)
      (writesBack_nested name reader (writes nested rfl)) _ shape

/-- The step over one field. The bytes of the fields so far are the front of those of
the layout, and the field behind them, or over them in a union, makes it longer. -/
theorem splice_extend {data buffer : List UInt8} {arrangement : Arrangement}
    {base target extent width : Nat}
    (reaches : Reaches data base (arrangement.extend extent width))
    (room : target + arrangement.extend extent width ≤ buffer.length) :
    splice (splice buffer target (slice data base extent)) (target + arrangement.offset extent)
        (slice data (base + arrangement.offset extent) width) =
      splice buffer target (slice data base (arrangement.extend extent width)) := by
  cases arrangement with
  | struct => exact splice_slice_append reaches room
  | union =>
    have enough : max extent width ≤ (data.drop base).length := by
      rw [List.length_drop]
      simp only [Reaches, Arrangement.extend] at reaches
      omega
    exact splice_take room enough

/-- The writing of fields follows the walk that read them. -/
theorem packFields_of_decodeFields {data : List UInt8} {arrangement : Arrangement}
    {fields : List (LayoutField Layout)} {entries : List (String × Value)} {record : Record Value}
    {buffer : List UInt8} {extent total : Nat} (layoutName : String) (base target : Nat)
    (placed : Layout.place arrangement extent fields = (fields, total))
    (reads : ∀ field ∈ fields, ReadsExactly data field.Fits field.width (field.decode data))
    (writes : ∀ field ∈ fields, WritesBack data field.width (field.decode data)
      (fun value => field.pack layoutName (some value)))
    (walked : decodeFields data layoutName arrangement base fields extent = .ok (entries, total))
    (found : ∀ entry ∈ entries, record.get? entry.1 = some entry.2)
    (reaches : Reaches data base total) (room : target + total ≤ buffer.length) :
    packFields layoutName arrangement record target fields
        (splice buffer target (slice data base extent)) extent =
      .ok (splice buffer target (slice data base total)) := by
  induction fields generalizing extent entries with
  | nil =>
    cases placed
    rw [packFields]
  | cons field rest ih =>
    obtain ⟨offset, later⟩ := Layout.place_cons_iff.mp placed
    have within := arrangement.offset_add_le_extend extent field.width
    have grows := arrangement.le_extend extent field.width
    have ends := Layout.le_of_place later
    have covered : Reaches data base (arrangement.extend extent field.width) := by
      unfold Reaches at reaches ⊢
      omega
    have first : Reaches data (base + arrangement.offset extent) field.width := by
      unfold Reaches at covered ⊢
      omega
    have start : Reaches data base extent := by
      unfold Reaches at covered ⊢
      omega
    obtain ⟨value, decoded, -⟩ := (reads field List.mem_cons_self).takes _ first
    rw [decodeFields_cons, if_neg (fun other => other offset.symm)] at walked
    simp only [decoded, bind, Except.bind] at walked
    cases others : decodeFields data layoutName arrangement base rest
        (arrangement.extend extent field.width) with
    | error fault =>
      rw [others] at walked
      cases walked
    | ok result =>
      rw [others] at walked
      cases walked
      have inner : target + (slice data base extent).length ≤ buffer.length := by
        rw [length_slice start]
        omega
      have written : field.pack layoutName (some value)
          (splice buffer target (slice data base extent)) (target + arrangement.offset extent) =
            .ok (splice buffer target
              (slice data base (arrangement.extend extent field.width))) := by
        rw [← splice_extend covered (by omega)]
        exact writes field List.mem_cons_self _ value first decoded _ _ (by
          rw [length_splice inner]
          omega)
      rw [packFields_cons, found (field.name, value) List.mem_cons_self]
      simp only [written, bind, Except.bind]
      exact ih later (fun other member => reads other (List.mem_cons_of_mem _ member))
        (fun other member => writes other (List.mem_cons_of_mem _ member)) others
        (fun entry member => found entry (List.mem_cons_of_mem _ member))

/-! ## Layouts -/

/-- Of a valid layout that the rules gave, throughout, the writer puts back what the
reader took. -/
theorem writesBack_packInto {layout : Layout} (built : layout.Everywhere Layout.Built)
    (data : List UInt8) :
    layout.Everywhere (fun inner => inner.validate = .ok ()) →
      WritesBack data layout.size (layout.decode data) layout.packInto := by
  induction built with
  | intro own inner ih =>
    rename_i layout
    intro valid base record reaches decoded buffer target room
    have placed := Layout.place_of_built own
    have read (field : LayoutField Layout) (member : field ∈ layout.fields) (nested : Layout)
        (element : field.element = .nested nested) :
        ReadsExactly data nested.Fits nested.size (nested.decode data) :=
      readsExactly_decode (inner field member nested element) data
    have reads (field : LayoutField Layout) (member : field ∈ layout.fields) :=
      readsExactly_field (read field member)
    have writes (field : LayoutField Layout) (member : field ∈ layout.fields) :=
      writesBack_field layout.name (read field member) fun nested element =>
        ih field member nested element (valid.inner field member nested element)
    obtain ⟨entries, walked, fit⟩ :=
      (decodeFields_of_readsExactly layout.name base placed reads (Or.inl rfl)).1 reaches
    have distinct : (entries.map (·.1)).Nodup := by
      rw [names_of_entriesFit fit]
      exact (layout.validate_eq_ok_iff.mp valid.own).2
    obtain ⟨name, arrangement, fields, size⟩ := layout
    rw [Layout.decode_mk, walked] at decoded
    cases decoded
    have found : ∀ entry ∈ entries, (Record.mk entries).get? entry.1 = some entry.2 :=
      fun entry member => Record.get?_of_mem distinct member
    have written :=
      packFields_of_decodeFields name base target placed reads writes walked found reaches room
    rw [slice_zero, splice_nil] at written
    rw [Layout.packInto]
    exact written

/-- **Packing is a left inverse of decoding**: the record that a byte string of the size
of a layout decodes to packs to that byte string. The members of a union are written
over each other, and each writes what it was read from. -/
theorem pack_decode (layout : Layout) (built : layout.Everywhere Layout.Built)
    (valid : layout.Everywhere fun inner => inner.validate = .ok ()) (bytes : List UInt8)
    (whole : bytes.length = layout.size) :
    ∃ record, layout.decode bytes 0 = .ok (record, layout.size) ∧
      layout.pack record = .ok bytes := by
  have reaches : Reaches bytes 0 layout.size := Or.inr (by omega)
  obtain ⟨record, decoded, -⟩ := (readsExactly_decode built bytes).takes 0 reaches
  have zeros : (List.replicate layout.size (0 : UInt8)).length = layout.size :=
    List.length_replicate
  refine ⟨record, decoded, ?_⟩
  rw [Layout.pack, writesBack_packInto built bytes valid 0 record reaches decoded _ 0 (by omega),
    ← whole, slice_whole, splice_whole List.length_replicate.symm]

/-- The two unions of a frame are written back although their members overlap. -/
theorem pack_decode_frame :
    Layout.Sample.frame.Everywhere Layout.Built ∧
      (Layout.Sample.frame.Everywhere fun inner => inner.validate = .ok ()) ∧
      [1, 2, 3, 4, 5, 6, 7, 8, 9, 10, 11, 12, 13, 14, 15, 255].length = Layout.Sample.frame.size ∧
      ∃ record,
        Layout.Sample.frame.decode [1, 2, 3, 4, 5, 6, 7, 8, 9, 10, 11, 12, 13, 14, 15, 255] 0 =
          .ok (record, Layout.Sample.frame.size) ∧
        Layout.Sample.frame.pack record =
          .ok [1, 2, 3, 4, 5, 6, 7, 8, 9, 10, 11, 12, 13, 14, 15, 255] :=
  ⟨Layout.Sample.frame_built, Layout.Sample.frame_valid, rfl,
    pack_decode _ Layout.Sample.frame_built Layout.Sample.frame_valid _ rfl⟩

end LapTelemetry.Wire
