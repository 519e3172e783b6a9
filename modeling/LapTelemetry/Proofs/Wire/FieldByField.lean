import LapTelemetry.Proofs.Outcome
import LapTelemetry.Proofs.Wire.DecodeSize

/-! # A record field by field

The walk over a layout keeps its own account of where it is and stops at a field that
is recorded elsewhere. So whatever layout a record was decoded by, each field has the
value that decoding it alone at its recorded offset gives (`fieldwise_of_decode`); how
the layout came by its offsets does not matter.

Further in, the elements of an array stand at the multiples of their width
(`decodeArray_elements`), and a whole number without a sign is the little-endian `word`
at its place (`natural?_of_decodeScalar`). -/

namespace LapTelemetry.Wire

set_option autoImplicit false

/-- The number that so many bytes from a position on spell, least significant byte first. -/
def word (data : List UInt8) (position width : Nat) : Nat :=
  LittleEndian.ofBytes (slice data position width)

/-- A record that has the fields of a layout, each with the value that decoding it alone at its
recorded offset gives. -/
structure Layout.Fieldwise (layout : Layout) (data : List UInt8) (base : Nat)
    (record : Record Value) : Prop where
  names : record.names = layout.fields.map (·.name)
  values : ∀ field ∈ layout.fields, ∃ value taken, record.get? field.name = some value ∧
    field.decode data (base + field.offset) = .ok (value, taken)

variable {data : List UInt8}

/-! ## Fields -/

/-- The walk keeps the name of each field, with the value that is found at the offset. -/
theorem entries_of_decodeFields {base : Nat} {layoutName : String} {arrangement : Arrangement}
    {fields : List (LayoutField Layout)} {extent total : Nat} {entries : List (String × Value)}
    (decoded : decodeFields data layoutName arrangement base fields extent =
      .ok (entries, total)) :
    entries.map (·.1) = fields.map (·.name) ∧
      ∀ field ∈ fields, ∃ value taken, (field.name, value) ∈ entries ∧
        field.decode data (base + field.offset) = .ok (value, taken) := by
  induction fields generalizing extent entries total with
  | nil =>
    rw [decodeFields_nil] at decoded
    cases decoded
    simp
  | cons field rest ih =>
    rw [decodeFields_cons] at decoded
    split at decoded
    · cases decoded
    · next inPlace =>
      rw [not_not.mp inPlace] at decoded
      obtain ⟨⟨value, taken⟩, own, decoded⟩ := bind_eq_ok.mp decoded
      obtain ⟨⟨others, behind⟩, later, done⟩ := bind_eq_ok.mp decoded
      cases done
      obtain ⟨names, values⟩ := ih later
      refine ⟨by simp [names], ?_⟩
      intro other member
      rcases List.mem_cons.mp member with rfl | among
      · exact ⟨value, taken, List.mem_cons_self, own⟩
      · obtain ⟨held, width, entered, decoded⟩ := values other among
        exact ⟨held, width, List.mem_cons_of_mem _ entered, decoded⟩

theorem fieldwise_of_decode {base : Nat} {layout : Layout} {record : Record Value} {taken : Nat}
    (decoded : layout.decode data base = .ok (record, taken))
    (distinct : (layout.fields.map (·.name)).Nodup) : layout.Fieldwise data base record := by
  obtain ⟨name, arrangement, fields, size⟩ := layout
  rw [Layout.decode_mk] at decoded
  obtain ⟨⟨entries, total⟩, walked, done⟩ := bind_eq_ok.mp decoded
  cases done
  obtain ⟨names, values⟩ := entries_of_decodeFields walked
  refine ⟨names, ?_⟩
  intro field member
  obtain ⟨value, taken, entered, own⟩ := values field member
  have alone : (Record.mk entries).names.Nodup := by
    rw [Record.names, names]
    exact distinct
  exact ⟨value, taken, Record.get?_of_mem alone entered, own⟩

/-! ## Elements and numbers -/

/-- The elements of an array are read in strides of their width. -/
theorem decodeArray_elements {step : Nat → Except Fault (Value × Nat)} {width : Nat}
    (strides : ∀ position value taken, step position = .ok (value, taken) → taken = width)
    {count position total : Nat} {items : List Value}
    (decoded : decodeArray step count position = .ok (items, total)) :
    items.length = count ∧ ∀ index < count, ∃ item, items[index]? = some item ∧
      step (position + width * index) = .ok (item, width) := by
  induction count generalizing position items total with
  | zero =>
    cases decoded
    simp
  | succ count ih =>
    obtain ⟨⟨first, taken⟩, own, decoded⟩ := bind_eq_ok.mp decoded
    obtain ⟨⟨others, behind⟩, later, done⟩ := bind_eq_ok.mp decoded
    cases done
    obtain rfl := strides _ _ _ own
    obtain ⟨counted, each⟩ := ih later
    refine ⟨by simp [counted], ?_⟩
    intro index within
    cases index with
    | zero => exact ⟨first, rfl, own⟩
    | succ index =>
      obtain ⟨item, found, read⟩ := each index (by omega)
      refine ⟨item, found, ?_⟩
      rw [Nat.mul_succ, Nat.add_comm (taken * index), ← Nat.add_assoc]
      exact read

/-- What a number was read from are the bytes at its place. -/
theorem exists_scalar_of_decodeScalar {type : Primitive} {position taken : Nat} {value : Value}
    (decoded : decodeScalar data type position = .ok (value, taken)) :
    ∃ s : Scalar, value = .scalar s ∧ s.type = type ∧ s.bits.toNat = word data position type.size := by
  unfold decodeScalar Value.read? at decoded
  cases read : Scalar.read? type (data.drop position) with
  | none =>
    rw [read] at decoded
    cases decoded
  | some s =>
    rw [read] at decoded
    cases decoded
    obtain ⟨rfl, bytes⟩ := Scalar.bytes_of_read? read
    refine ⟨s, rfl, rfl, ?_⟩
    have small : s.bits.toNat < Number.pow2 (8 * s.type.size) := s.bits.isLt
    rw [word, slice, ← bytes, Scalar.bytes, LittleEndian.ofBytes_toBytes small]

theorem natural?_of_decodeScalar {type : Primitive} {position taken : Nat} {value : Value}
    (unsigned : type.reading = .unsigned)
    (decoded : decodeScalar data type position = .ok (value, taken)) :
    value.natural? = some (word data position type.size) := by
  obtain ⟨s, rfl, rfl, bits⟩ := exists_scalar_of_decodeScalar decoded
  simp [Value.natural?, Value.scalar?, Scalar.natural?, Scalar.whole?, unsigned, bits]

end LapTelemetry.Wire
