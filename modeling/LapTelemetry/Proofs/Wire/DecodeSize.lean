import LapTelemetry.Wire.Layout.Decode
import LapTelemetry.Proofs.Wire.Conformance
import LapTelemetry.Proofs.Wire.Slice

/-! # How many bytes decoding takes

`ReadsExactly` is the specification of a reader: where its bytes are there it takes
all of them and gives a good value, and where they are not it reports an end that
lies beyond the data and within its own bytes. Scalars meet it, and it passes from
elements to arrays (`readsExactly_array`) and shapes, and from the fields of a
layout to the layout (`decodeFields_of_readsExactly`), since the walk over the
fields goes by the same arithmetic as the layout rules.

A layout that was built by the rules throughout therefore takes exactly its size where
there is always room (`decode_size`): decoding succeeds iff so many bytes are there, the
record fits the layout, no field is ever out of place, and the only failure is a
truncation. -/

namespace LapTelemetry.Wire

set_option autoImplicit false

/-! ## Readers -/

/-- A reader of a fixed width. -/
structure ReadsExactly {α : Type} (data : List UInt8) (good : α → Prop) (width : Nat)
    (read : Nat → Except Fault (α × Nat)) : Prop where
  takes : ∀ position, Reaches data position width →
    ∃ value, read position = .ok (value, width) ∧ good value
  lacks : ∀ position, ¬ Reaches data position width →
    ∃ needed, read position = .error (.truncated needed data.length) ∧
      data.length < needed ∧ needed ≤ position + width

/-- What is read has the width of the reader. -/
theorem ReadsExactly.taken_eq {α : Type} {data : List UInt8} {good : α → Prop} {width : Nat}
    {read : Nat → Except Fault (α × Nat)} (reads : ReadsExactly data good width read)
    {position taken : Nat} {value : α} (done : read position = .ok (value, taken)) :
    taken = width := by
  by_cases reaches : Reaches data position width
  · obtain ⟨other, again, -⟩ := reads.takes position reaches
    cases done.symm.trans again
    rfl
  · obtain ⟨needed, failed, -⟩ := reads.lacks position reaches
    cases done.symm.trans failed

theorem readsExactly_scalar (data : List UInt8) (type : Primitive) :
    ReadsExactly data (fun value => ∃ s : Scalar, value = .scalar s ∧ s.type = type) type.size
      (decodeScalar data type) := by
  have positive := type.size_pos
  have left (position : Nat) := List.length_drop (i := position) (l := data)
  constructor
  · intro position reaches
    cases read : Scalar.read? type (data.drop position) with
    | none =>
      have short := Scalar.read?_eq_none_iff.mp read
      rw [left] at short
      rcases reaches with none | within <;> omega
    | some s =>
      refine ⟨.scalar s, ?_, s, rfl, (Scalar.bytes_of_read? read).1⟩
      rw [decodeScalar, Value.read?, read]
      rfl
  · intro position beyond
    have short : (data.drop position).length < type.size := by
      rw [left]
      rw [Reaches, not_or] at beyond
      omega
    refine ⟨position + type.size, ?_, ?_, Nat.le_refl _⟩
    · rw [decodeScalar, Value.read?, Scalar.read?_eq_none_iff.mpr short]
      rfl
    · rw [left] at short
      omega

theorem readsExactly_array {data : List UInt8} {good : Value → Prop} {width : Nat}
    {step : Nat → Except Fault (Value × Nat)} (reads : ReadsExactly data good width step)
    (count : Nat) :
    ReadsExactly data (fun items => items.length = count ∧ ∀ item ∈ items, good item)
      (width * count) (decodeArray step count) := by
  induction count with
  | zero =>
    refine ⟨fun position _ => ⟨[], rfl, rfl, fun item member => by cases member⟩, ?_⟩
    intro position beyond
    exact absurd (Or.inl (Nat.mul_zero width)) beyond
  | succ count ih =>
    have total : width * (count + 1) = width + width * count := by
      rw [Nat.mul_succ, Nat.add_comm]
    rw [total]
    constructor
    · intro position reaches
      obtain ⟨item, stepped, goodItem⟩ := reads.takes position reaches.front
      obtain ⟨items, rest, counted, goodItems⟩ := ih.takes (position + width) reaches.back
      refine ⟨item :: items, ?_, by rw [List.length_cons, counted], ?_⟩
      · rw [decodeArray, stepped]
        simp only [bind, Except.bind, rest]
        rfl
      · exact List.forall_mem_cons.mpr ⟨goodItem, goodItems⟩
    · intro position beyond
      by_cases first : Reaches data position width
      · obtain ⟨item, stepped, -⟩ := reads.takes position first
        obtain ⟨needed, failed, more, within⟩ := ih.lacks (position + width)
          (fun later => beyond (first.append later))
        refine ⟨needed, ?_, more, by omega⟩
        rw [decodeArray, stepped]
        simp only [bind, Except.bind, failed]
      · obtain ⟨needed, failed, more, within⟩ := reads.lacks position first
        refine ⟨needed, ?_, more, by omega⟩
        rw [decodeArray, failed]
        rfl

/-! ## Fields -/

/-- Decode a value of a shape. -/
def decodeShape (step : Nat → Except Fault (Value × Nat)) : Shape → Nat → Except Fault (Value × Nat)
  | .single, position => step position
  | .array length, position => do
    let (items, taken) ← decodeArray step length position
    return (.array items, taken)

/-- Decode a field by itself, at a position in the data. -/
def LayoutField.decode (data : List UInt8) (field : LayoutField Layout) (position : Nat) :
    Except Fault (Value × Nat) :=
  decodeShape (fun position => decodeElement data field.element position) field.shape position

/-- Decode a value of a shape with so much room. -/
def decodeShapeWithin (room : Room) (step : Nat → Except Fault (Value × Nat)) :
    Shape → Nat → Except Fault (Value × Nat)
  | .single, position => step position
  | .array length, position => do
    let (items, taken) ← decodeArrayWithin room step length position
    return (.array items, taken)

theorem decodeShapeWithin_unlimited (step : Nat → Except Fault (Value × Nat)) (shape : Shape) :
    decodeShapeWithin .unlimited step shape = decodeShape step shape := by
  cases shape <;> rfl

/-- Decode a field by itself with so much room. -/
def LayoutField.decodeWithin (room : Room) (data : List UInt8) (field : LayoutField Layout)
    (position : Nat) : Except Fault (Value × Nat) :=
  decodeShapeWithin room (decodeElementWithin room data field.element) field.shape position

/-- The walk over the fields, one field at a time. -/
theorem decodeFieldsWithin_cons (room : Room) (data : List UInt8) (layoutName : String)
    (arrangement : Arrangement) (base extent : Nat) (field : LayoutField Layout)
    (rest : List (LayoutField Layout)) :
    decodeFieldsWithin room data layoutName arrangement base (field :: rest) extent =
      if arrangement.offset extent ≠ field.offset then
        .error (.misplacedField layoutName field.name)
      else do
        let (value, taken) ← field.decodeWithin room data (base + arrangement.offset extent)
        let (entries, total) ← decodeFieldsWithin room data layoutName arrangement base rest
          (arrangement.extend extent taken)
        return ((field.name, value) :: entries, total) := by
  obtain ⟨name, wireName, element, shape, offset⟩ := field
  rw [decodeFieldsWithin]
  by_cases misplaced : arrangement.offset extent ≠ offset
  · rw [if_pos misplaced, if_pos misplaced]
    rfl
  · rw [if_neg misplaced, if_neg misplaced]
    cases shape with
    | single => rfl
    | array length =>
      simp only [LayoutField.decodeWithin, decodeShapeWithin]
      cases decodeArrayWithin room (decodeElementWithin room data element) length
        (base + arrangement.offset extent) <;> rfl

theorem decodeFields_cons (data : List UInt8) (layoutName : String) (arrangement : Arrangement)
    (base extent : Nat) (field : LayoutField Layout) (rest : List (LayoutField Layout)) :
    decodeFields data layoutName arrangement base (field :: rest) extent =
      if arrangement.offset extent ≠ field.offset then
        .error (.misplacedField layoutName field.name)
      else do
        let (value, taken) ← field.decode data (base + arrangement.offset extent)
        let (entries, total) ←
          decodeFields data layoutName arrangement base rest (arrangement.extend extent taken)
        return ((field.name, value) :: entries, total) := by
  have same : field.decodeWithin .unlimited data = field.decode data := by
    funext position
    rw [LayoutField.decodeWithin, decodeShapeWithin_unlimited]
    rfl
  rw [← same]
  exact decodeFieldsWithin_cons .unlimited data layoutName arrangement base extent field rest

theorem readsExactly_shape {data : List UInt8} {good : Value → Prop} {width : Nat}
    {step : Nat → Except Fault (Value × Nat)} (reads : ReadsExactly data good width step)
    (shape : Shape) :
    ReadsExactly data (shape.Holds good) (width * shape.count) (decodeShape step shape) := by
  cases shape with
  | single =>
    rw [Shape.count, Nat.mul_one]
    exact ⟨reads.takes, reads.lacks⟩
  | array length =>
    have items := readsExactly_array reads length
    constructor
    · intro position reaches
      obtain ⟨values, decoded, counted, each⟩ := items.takes position reaches
      refine ⟨.array values, ?_, values, rfl, counted, each⟩
      rw [decodeShape, decoded]
      rfl
    · intro position beyond
      obtain ⟨needed, failed, bounds⟩ := items.lacks position beyond
      refine ⟨needed, ?_, bounds⟩
      rw [decodeShape, failed]
      rfl

theorem readsExactly_primitive (data : List UInt8) (type : Primitive) :
    ReadsExactly data (ElementFits (.primitive type)) type.size
      (decodeElement data (.primitive type)) := by
  have same : decodeElement data (.primitive type) = decodeScalar data type :=
    funext (decodeElement_primitive data type)
  rw [same]
  exact readsExactly_scalar data type

theorem readsExactly_nested {data : List UInt8} {layout : Layout}
    (reads : ReadsExactly data layout.Fits layout.size (layout.decode data)) :
    ReadsExactly data (ElementFits (.nested layout)) layout.size
      (decodeElement data (.nested layout)) := by
  constructor
  · intro position reaches
    obtain ⟨record, decoded, fits⟩ := reads.takes position reaches
    refine ⟨.record record, ?_, record, rfl, fits⟩
    rw [decodeElement_nested, decoded]
    rfl
  · intro position beyond
    obtain ⟨needed, failed, bounds⟩ := reads.lacks position beyond
    refine ⟨needed, ?_, bounds⟩
    rw [decodeElement_nested, failed]
    rfl

theorem readsExactly_field {data : List UInt8} {field : LayoutField Layout}
    (inner : ∀ nested, field.element = .nested nested →
      ReadsExactly data nested.Fits nested.size (nested.decode data)) :
    ReadsExactly data field.Fits field.width (field.decode data) := by
  refine readsExactly_shape ?_ field.shape
  cases element : field.element with
  | primitive type => exact readsExactly_primitive data type
  | nested nested => exact readsExactly_nested (inner nested element)

/-- The walk goes by the layout rules: fields that the rules placed are never out
of place, and together they read up to the extent that the rules compute. -/
theorem decodeFields_of_readsExactly {data : List UInt8} {arrangement : Arrangement}
    {fields : List (LayoutField Layout)} {extent total : Nat} (layoutName : String) (base : Nat)
    (placed : Layout.place arrangement extent fields = (fields, total))
    (each : ∀ field ∈ fields, ReadsExactly data field.Fits field.width (field.decode data))
    (before : Reaches data base extent) :
    (Reaches data base total → ∃ entries,
      decodeFields data layoutName arrangement base fields extent = .ok (entries, total) ∧
        EntriesFit fields entries) ∧
    (¬ Reaches data base total → ∃ needed,
      decodeFields data layoutName arrangement base fields extent =
        .error (.truncated needed data.length) ∧ data.length < needed ∧ needed ≤ base + total) := by
  induction fields generalizing extent with
  | nil =>
    cases placed
    exact ⟨fun _ => ⟨[], decodeFields_nil _ _ _ _ _, by rw [EntriesFit]⟩,
      fun beyond => absurd before beyond⟩
  | cons field rest ih =>
    obtain ⟨offset, later⟩ := Layout.place_cons_iff.mp placed
    have reads := each field List.mem_cons_self
    have within := arrangement.offset_add_le_extend extent field.width
    have grows := Layout.le_of_place later
    rw [decodeFields_cons, if_neg (fun other => other offset.symm)]
    by_cases first : Reaches data (base + arrangement.offset extent) field.width
    · obtain ⟨value, decoded, fits⟩ := reads.takes _ first
      have covered : Reaches data base (arrangement.extend extent field.width) := by
        cases arrangement <;>
          simp only [Arrangement.extend, Arrangement.offset, Reaches] at first before ⊢ <;> omega
      obtain ⟨whole, short⟩ := ih later
        (fun other member => each other (List.mem_cons_of_mem _ member)) covered
      simp only [decoded, bind, Except.bind]
      constructor
      · intro reaches
        obtain ⟨entries, walked, fit⟩ := whole reaches
        refine ⟨(field.name, value) :: entries, ?_, entriesFit_cons_iff.mpr ⟨_, _, rfl, fits, fit⟩⟩
        simp only [walked]
        rfl
      · intro beyond
        obtain ⟨needed, failed, bounds⟩ := short beyond
        refine ⟨needed, ?_, bounds⟩
        simp only [failed]
    · -- The field itself is cut off, and so is the layout, which ends no earlier.
      obtain ⟨needed, failed, more, near⟩ := reads.lacks _ first
      constructor
      · intro reaches
        unfold Reaches at reaches first
        omega
      · intro beyond
        refine ⟨needed, ?_, more, by omega⟩
        simp only [failed, bind, Except.bind]

/-! ## Layouts -/

/-- A layout that the rules gave, throughout, is a reader of its size. -/
theorem readsExactly_decode {layout : Layout} (built : layout.Everywhere Layout.Built)
    (data : List UInt8) : ReadsExactly data layout.Fits layout.size (layout.decode data) := by
  induction built with
  | intro own inner ih =>
    rename_i layout
    have walk (base : Nat) := decodeFields_of_readsExactly layout.name base
      (Layout.place_of_built own) (fun field member => readsExactly_field (ih field member))
      (Or.inl rfl)
    obtain ⟨name, arrangement, fields, size⟩ := layout
    constructor
    · intro base reaches
      obtain ⟨entries, walked, fit⟩ := (walk base).1 reaches
      refine ⟨⟨entries⟩, ?_, fit⟩
      rw [Layout.decode_mk, walked]
      rfl
    · intro base beyond
      obtain ⟨needed, failed, bounds⟩ := (walk base).2 beyond
      refine ⟨needed, ?_, bounds⟩
      rw [Layout.decode_mk, failed]
      rfl

/-- Decoding takes exactly the size of a layout. It succeeds iff that many bytes are
there, or none are wanted; the record then fits the layout at every depth. What fails is
always the end of the data, told with its true length and an end within the layout. -/
theorem decode_size (layout : Layout) (built : layout.Everywhere Layout.Built) (data : List UInt8)
    (base : Nat) :
    ((∃ result, layout.decode data base = .ok result) ↔
        layout.size = 0 ∨ base + layout.size ≤ data.length) ∧
      (∀ record taken, layout.decode data base = .ok (record, taken) →
        taken = layout.size ∧ record.names = layout.fields.map (·.name) ∧ layout.Fits record) ∧
      (∀ fault, layout.decode data base = .error fault →
        ∃ needed, fault = .truncated needed data.length ∧ data.length < needed ∧
          needed ≤ base + layout.size) ∧
      ∀ name field, layout.decode data base ≠ .error (.misplacedField name field) := by
  have reader := readsExactly_decode built data
  by_cases reaches : Reaches data base layout.size
  · obtain ⟨record, decoded, fits⟩ := reader.takes base reaches
    refine ⟨iff_of_true ⟨_, decoded⟩ reaches, ?_, ?_, ?_⟩
    · intro other taken same
      cases decoded.symm.trans same
      exact ⟨rfl, Layout.names_of_fits fits, fits⟩
    · intro fault failed
      cases decoded.symm.trans failed
    · intro name field failed
      cases decoded.symm.trans failed
  · obtain ⟨needed, failed, more, within⟩ := reader.lacks base reaches
    refine ⟨iff_of_false ?_ reaches, ?_, ?_, ?_⟩
    · rintro ⟨result, decoded⟩
      cases failed.symm.trans decoded
    · intro record taken decoded
      cases failed.symm.trans decoded
    · intro fault same
      cases failed.symm.trans same
      exact ⟨needed, rfl, more, within⟩
    · intro name field same
      cases failed.symm.trans same

end LapTelemetry.Wire
