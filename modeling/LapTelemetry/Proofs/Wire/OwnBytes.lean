import Mathlib.Data.List.Forall2
import LapTelemetry.Proofs.Wire.FieldByField

/-! # Bytes of one's own

What is decoded hangs on the bytes that it takes, and neither on what stands around them
nor on where they stand. `ReadsOwnBytes` says this of a reader of a fixed width: it does
the same with its bytes alone. Inside a larger piece of data it therefore does what it
does inside a copy of that piece (`ReadsOwnBytes.within`), and by this the property
passes from scalars to arrays, along the fields of a layout and up the layouts.

A record that stands between other bytes is thus decoded as if it stood alone, and each of
its values comes from the bytes of its own field (`decode_embedded`). -/

namespace LapTelemetry.Wire

set_option autoImplicit false

/-! ## Pieces of pieces -/

section Pieces

variable {data : List UInt8} {position outer offset width : Nat}

theorem slice_slice (within : offset + width ≤ outer) :
    slice (slice data position outer) offset width = slice data (position + offset) width := by
  simp only [slice]
  rw [List.drop_take, List.drop_drop, List.take_take, Nat.min_eq_left (by omega)]

theorem Reaches.inner (reaches : Reaches data position outer) (within : offset + width ≤ outer) :
    Reaches data (position + offset) width := by
  unfold Reaches at reaches ⊢
  omega

theorem Reaches.inSlice (reaches : Reaches data position outer) (within : offset + width ≤ outer) :
    Reaches (slice data position outer) offset width := by
  rw [Reaches, length_slice reaches]
  exact .inr within

end Pieces

/-! ## Readers -/

/-- A reader of a fixed width that goes by its own bytes: where they are all there, it does what it
does with them alone. -/
def ReadsOwnBytes {α : Type} (width : Nat) (read : List UInt8 → Nat → Except Fault (α × Nat)) :
    Prop :=
  ∀ data position, Reaches data position width →
    read data position = read (slice data position width) 0

/-- Inside a piece of data a reader does what it does inside the piece by itself. -/
theorem ReadsOwnBytes.within {α : Type} {width : Nat}
    {read : List UInt8 → Nat → Except Fault (α × Nat)} (own : ReadsOwnBytes width read)
    {data : List UInt8} {position outer : Nat} (reaches : Reaches data position outer)
    {offset : Nat} (within : offset + width ≤ outer) :
    read data (position + offset) = read (slice data position outer) offset := by
  rw [own data _ (reaches.inner within), own _ offset (reaches.inSlice within), slice_slice within]

theorem readsOwnBytes_scalar (type : Primitive) :
    ReadsOwnBytes type.size (fun data => decodeScalar data type) := by
  intro data position reaches
  have same : Value.read? type ((slice data position type.size).drop 0) =
      Value.read? type (data.drop position) := by
    simp only [Value.read?, Scalar.read?, slice, List.drop_zero, List.take_take, Nat.min_self]
  -- What fails would tell the length of the data, but nothing fails here.
  obtain ⟨value, read, -⟩ := (readsExactly_scalar data type).takes position reaches
  show decodeScalar data type position = decodeScalar (slice data position type.size) type 0
  rw [read]
  unfold decodeScalar at read ⊢
  rw [same]
  cases found : Value.read? type (data.drop position) with
  | none => rw [found] at read; cases read
  | some other => rw [found] at read; exact read.symm

section Elements

variable {step : List UInt8 → Nat → Except Fault (Value × Nat)} {width : Nat}

/-- Elements that take their width each lie in pieces of their own. -/
theorem readsOwnBytes_array (own : ReadsOwnBytes width step)
    (exact : ∀ data position value taken, step data position = .ok (value, taken) → taken = width)
    (count : Nat) :
    ReadsOwnBytes (width * count) (fun data => decodeArray (step data) count) := by
  induction count with
  | zero => exact fun data position _ => rfl
  | succ count ih =>
    have total : width * (count + 1) = width + width * count := by
      rw [Nat.mul_succ, Nat.add_comm]
    rw [total]
    intro data position reaches
    have first : step data position = step (slice data position (width + width * count)) 0 :=
      own.within reaches (show 0 + width ≤ width + width * count by omega)
    have others := ih.within reaches (Nat.le_refl (width + width * count))
    simp only [decodeArray, first]
    cases decoded : step (slice data position (width + width * count)) 0 with
    | error fault => rfl
    | ok result =>
      obtain ⟨item, taken⟩ := result
      obtain rfl := exact _ _ _ _ decoded
      simp only [bind, Except.bind, Nat.zero_add, others]

theorem readsOwnBytes_shape (own : ReadsOwnBytes width step)
    (exact : ∀ data position value taken, step data position = .ok (value, taken) → taken = width)
    (shape : Shape) :
    ReadsOwnBytes (width * shape.count) (fun data => decodeShape (step data) shape) := by
  cases shape with
  | single =>
    rw [Shape.count, Nat.mul_one]
    exact own
  | array count =>
    intro data position reaches
    have items : decodeArray (step data) count position =
        decodeArray (step (slice data position (width * count))) count 0 :=
      readsOwnBytes_array own exact count data position reaches
    simp only [decodeShape, items]
    rfl

end Elements

/-- In a layout that the rules gave, throughout, every field is a reader of its width. -/
theorem readsExactly_fieldOf {layout : Layout} (built : layout.Everywhere Layout.Built)
    {field : LayoutField Layout} (member : field ∈ layout.fields) (data : List UInt8) :
    ReadsExactly data field.Fits field.width (field.decode data) :=
  readsExactly_field fun nested element =>
    readsExactly_decode (built.inner field member nested element) data

theorem readsOwnBytes_field {layout : Layout} (built : layout.Everywhere Layout.Built)
    {field : LayoutField Layout} (member : field ∈ layout.fields)
    (inner : ∀ nested, field.element = .nested nested →
      ReadsOwnBytes nested.size (fun data => nested.decode data)) :
    ReadsOwnBytes field.width (fun data => field.decode data) := by
  refine readsOwnBytes_shape ?_ ?_ field.shape
  · cases element : field.element with
    | primitive type => exact readsOwnBytes_scalar type
    | nested nested =>
      intro data position reaches
      have record : nested.decode data position =
          nested.decode (slice data position nested.size) 0 := inner nested element data position reaches
      simp only [decodeElement_nested, record]
      rfl
  · intro data position value taken
    cases element : field.element with
    | primitive type => exact (readsExactly_scalar data type).taken_eq
    | nested nested =>
      have nestedBuilt := built.inner field member nested element
      exact (readsExactly_nested (readsExactly_decode nestedBuilt data)).taken_eq

/-! ## Layouts -/

/-- Fields that the rules placed are walked in data as they are in their own bytes. -/
theorem decodeFields_own {arrangement : Arrangement} {fields : List (LayoutField Layout)}
    {extent total : Nat} (layoutName : String)
    (placed : Layout.place arrangement extent fields = (fields, total))
    (own : ∀ field ∈ fields, ReadsOwnBytes field.width (fun data => field.decode data))
    {data : List UInt8} {base : Nat} (reaches : Reaches data base total)
    (exact : ∀ field ∈ fields, ReadsExactly (slice data base total) field.Fits field.width
      (field.decode (slice data base total))) :
    decodeFields data layoutName arrangement base fields extent =
      decodeFields (slice data base total) layoutName arrangement 0 fields extent := by
  induction fields generalizing extent with
  | nil => simp only [decodeFields_nil]
  | cons field rest ih =>
    obtain ⟨offset, later⟩ := Layout.place_cons_iff.mp placed
    have ends := arrangement.offset_add_le_extend extent field.width
    have grows := Layout.le_of_place later
    have same := (own field List.mem_cons_self).within reaches (Nat.le_trans ends grows)
    have others := ih later (fun other member => own other (List.mem_cons_of_mem _ member))
      (fun other member => exact other (List.mem_cons_of_mem _ member))
    rw [decodeFields_cons, decodeFields_cons, Nat.zero_add, same]
    cases decoded : field.decode (slice data base total) (arrangement.offset extent) with
    | error fault => rfl
    | ok result =>
      obtain ⟨value, taken⟩ := result
      obtain rfl := (exact field List.mem_cons_self).taken_eq decoded
      simp only [bind, Except.bind, others]

/-- A layout that the rules gave, throughout, goes by its own bytes. -/
theorem readsOwnBytes_decode {layout : Layout} (built : layout.Everywhere Layout.Built) :
    ReadsOwnBytes layout.size (fun data => layout.decode data) := by
  induction built with
  | intro rules inner ih =>
    rename_i layout
    intro data base reaches
    have built := Layout.Everywhere.intro rules inner
    have walk := decodeFields_own layout.name (Layout.place_of_built rules)
      (fun field member => readsOwnBytes_field built member (ih field member)) reaches
      (fun field member => readsExactly_fieldOf built member _)
    obtain ⟨name, arrangement, fields, size⟩ := layout
    simp only [Layout.decode_mk]
    rw [walk]

/-! ## Records between other bytes -/

/-- Entry by entry, a record has the names of the fields and what is found at their offsets. -/
theorem forall₂_of_decodeFields {data : List UInt8} {base : Nat} {layoutName : String}
    {arrangement : Arrangement} {fields : List (LayoutField Layout)} {extent total : Nat}
    {entries : List (String × Value)}
    (decoded : decodeFields data layoutName arrangement base fields extent =
      .ok (entries, total)) :
    List.Forall₂ (fun field entry => entry.1 = field.name ∧
      ∃ taken, field.decode data (base + field.offset) = .ok (entry.2, taken)) fields entries := by
  induction fields generalizing extent entries total with
  | nil =>
    rw [decodeFields_nil] at decoded
    cases decoded
    exact .nil
  | cons field rest ih =>
    rw [decodeFields_cons] at decoded
    split at decoded
    · cases decoded
    · next inPlace =>
      rw [not_not.mp inPlace] at decoded
      obtain ⟨⟨value, taken⟩, own, decoded⟩ := bind_eq_ok.mp decoded
      obtain ⟨⟨others, behind⟩, later, done⟩ := bind_eq_ok.mp decoded
      cases done
      exact .cons ⟨rfl, taken, own⟩ (ih later)

/-- **A record is decoded from its own bytes.** Whatever stands before and behind them, the result is
that of decoding the bytes alone; and each entry has the name of its field and the value that the
field alone has at its offset, which is the value it has in its own bytes. -/
theorem decode_embedded (layout : Layout) (built : layout.Everywhere Layout.Built)
    (before data behind : List UInt8) (whole : data.length = layout.size) :
    ∃ record, layout.decode (before ++ data ++ behind) before.length = .ok (record, layout.size) ∧
      layout.decode data 0 = .ok (record, layout.size) ∧
      List.Forall₂ (fun field entry => entry.1 = field.name ∧
        field.decode data field.offset = .ok (entry.2, field.width) ∧
        field.decode (slice data field.offset field.width) 0 = .ok (entry.2, field.width))
        layout.fields record.entries := by
  have there : Reaches data 0 layout.size := .inr (by omega)
  have own := readsOwnBytes_decode built
  obtain ⟨record, alone, -⟩ := (readsExactly_decode built data).takes 0 there
  have embedded : layout.decode (before ++ data ++ behind) before.length = layout.decode data 0 := by
    have reaches : Reaches (before ++ data ++ behind) before.length layout.size := by
      refine .inr ?_
      simp only [List.length_append]
      omega
    have bytes : slice (before ++ data ++ behind) before.length layout.size = data := by
      rw [slice, List.append_assoc, List.drop_left, ← whole, List.take_left]
    exact (own _ _ reaches).trans (congrArg (layout.decode · 0) bytes)
  refine ⟨record, embedded.trans alone, alone, ?_⟩
  have entries : List.Forall₂ (fun field entry => entry.1 = field.name ∧
      ∃ taken, field.decode data (0 + field.offset) = .ok (entry.2, taken))
      layout.fields record.entries := by
    obtain ⟨name, arrangement, fields, size⟩ := layout
    rw [Layout.decode_mk] at alone
    obtain ⟨⟨entries, total⟩, walked, done⟩ := bind_eq_ok.mp alone
    cases done
    exact forall₂_of_decodeFields walked
  refine List.Forall₂.imp ?_ ((List.forall₂_and_left _ _).mpr ⟨fun _ member => member, entries⟩)
  rintro field entry ⟨member, named, taken, decoded⟩
  have ends := Layout.end_le_of_place (Layout.place_of_built built.own) member
  have reaches : Reaches data field.offset field.width := .inr (by omega)
  obtain rfl := (readsExactly_fieldOf built member data).taken_eq decoded
  rw [Nat.zero_add] at decoded
  have alike : field.decode data field.offset =
      field.decode (slice data field.offset field.width) 0 :=
    readsOwnBytes_field built member
      (fun nested element => readsOwnBytes_decode (built.inner field member nested element))
      data field.offset reaches
  exact ⟨named, decoded, alike.symm.trans decoded⟩

/-- Seven bytes of two splits and a delta. -/
def Layout.Sample.lapBytes : List UInt8 := [1, 16, 39, 2, 32, 78, 255]

/-- A lap between other bytes; its last field is the last of its own. -/
theorem decode_embedded_lap :
    Layout.Sample.lap.Everywhere Layout.Built ∧
      Layout.Sample.lapBytes.length = Layout.Sample.lap.size ∧
      ∃ record, Layout.Sample.lap.decode ([9, 9, 9] ++ Layout.Sample.lapBytes ++ [9]) 3 =
          .ok (record, 7) ∧
        Layout.Sample.lap.decode Layout.Sample.lapBytes 0 = .ok (record, 7) ∧
        record.integer? "delta" = some (-1) := by
  have built := Layout.Sample.lap_built
  obtain ⟨record, embedded, alone, -⟩ :=
    decode_embedded _ built [9, 9, 9] Layout.Sample.lapBytes [9] rfl
  refine ⟨built, rfl, record, embedded, alone, ?_⟩
  have delta : (Layout.Sample.lap.decode Layout.Sample.lapBytes 0).map (·.1.integer? "delta") =
      .ok (some (-1)) := rfl
  rw [alone] at delta
  exact Except.ok.inj delta

end LapTelemetry.Wire
