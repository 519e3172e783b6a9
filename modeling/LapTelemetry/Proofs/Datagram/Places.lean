import LapTelemetry.Proofs.Datagram.Verdict
import LapTelemetry.Proofs.Wire.FieldByField

/-! # What stands where in a datagram

A layout says where the number of a name stands (`Layout.HasNumber`), where the
records of an array stand and what numbers stand in each (`Layout.HasRecords`), and
where a record of another layout stands (`Layout.HasRecord`). All three can be
decided for the layouts of a specification without a single datagram.

In a datagram that is accepted the numbers are then the little-endian words at those
places, whatever the bytes are (`natural?_of_hasNumber`, `exists_carRecord_of_dispatch`).
The header stands in the body a second time: a body that begins with a record of the
header's layout holds the very record that the header was read from
(`exists_header_of_dispatch`). -/

namespace LapTelemetry.Wire

set_option autoImplicit false

/-! ## Places -/

/-- The place of a whole number in the bytes of a record. -/
structure NumberPlace where
  name : String
  offset : Nat
  width : Nat

namespace Layout

/-- One whole number without a sign stands at a place. -/
def HasNumber (layout : Layout) (place : NumberPlace) : Prop :=
  ∃ field ∈ layout.field? place.name, field.shape = .single ∧ field.offset = place.offset ∧
    ∃ type ∈ field.primitive?, type.reading = .unsigned ∧ type.size = place.width

/-- One record of the layout of a name stands at an offset. -/
def HasRecord (layout : Layout) (name nestedName : String) (offset : Nat) : Prop :=
  ∃ field ∈ layout.field? name, field.shape = .single ∧ field.offset = offset ∧
    ∃ nested ∈ field.nested?, nested.name = nestedName

/-- So many records of a width stand one behind the other, each with numbers at these places. -/
def HasRecords (layout : Layout) (name : String) (count offset width : Nat)
    (places : List NumberPlace) : Prop :=
  ∃ field ∈ layout.field? name, field.shape = .array count ∧ field.offset = offset ∧
    ∃ nested ∈ field.nested?, nested.size = width ∧ ∀ place ∈ places, nested.HasNumber place

instance (layout : Layout) : DecidablePred layout.HasNumber := fun place =>
  inferInstanceAs (Decidable (∃ field ∈ layout.field? place.name, field.shape = .single ∧
    field.offset = place.offset ∧
      ∃ type ∈ field.primitive?, type.reading = .unsigned ∧ type.size = place.width))

instance (layout : Layout) (name nestedName : String) (offset : Nat) :
    Decidable (layout.HasRecord name nestedName offset) :=
  inferInstanceAs (Decidable (∃ field ∈ layout.field? name, field.shape = .single ∧
    field.offset = offset ∧ ∃ nested ∈ field.nested?, nested.name = nestedName))

instance (layout : Layout) (name : String) (count offset width : Nat)
    (places : List NumberPlace) : Decidable (layout.HasRecords name count offset width places) :=
  inferInstanceAs (Decidable (∃ field ∈ layout.field? name, field.shape = .array count ∧
    field.offset = offset ∧ ∃ nested ∈ field.nested?, nested.size = width ∧
      ∀ place ∈ places, nested.HasNumber place))

end Layout

/-! ## What is found there -/

section Fieldwise

variable {layout : Layout} {data : List UInt8} {base : Nat} {record : Record Value}
  {name nestedName : String}

/-- What is found under the name of a field is what stands at its offset. -/
theorem get?_of_fieldwise (fieldwise : layout.Fieldwise data base record)
    {field : LayoutField Layout} (declared : field ∈ layout.field? name) :
    ∃ value taken, record.get? name = some value ∧
      field.decode data (base + field.offset) = .ok (value, taken) := by
  have hit := List.find?_some declared
  have named : field.name = name := beq_iff_eq.mp hit
  have found := fieldwise.values field (List.mem_of_find?_eq_some declared)
  rw [named] at found
  exact found

theorem natural?_of_hasNumber (fieldwise : layout.Fieldwise data base record) {place : NumberPlace}
    (has : layout.HasNumber place) :
    record.natural? place.name = some (word data (base + place.offset) place.width) := by
  obtain ⟨field, declared, shape, offset, type, isPrimitive, unsigned, width⟩ := has
  obtain ⟨value, taken, found, decoded⟩ := get?_of_fieldwise fieldwise declared
  rw [LayoutField.decode, shape, LayoutField.element_of_primitive? isPrimitive] at decoded
  have read : decodeScalar data type (base + field.offset) = .ok (value, taken) := by
    simpa [decodeShape, decodeElement_primitive] using decoded
  rw [Record.natural?, found, Option.bind_some, natural?_of_decodeScalar unsigned read, offset,
    width]

/-- The record that stands in a field is decoded by the layout of the field. -/
theorem exists_record_of_hasRecord (fieldwise : layout.Fieldwise data base record) {offset : Nat}
    (has : layout.HasRecord name nestedName offset) :
    ∃ field nested inner taken, field ∈ layout.fields ∧ field.element = .nested nested ∧
      nested.name = nestedName ∧ record.get? name = some (.record inner) ∧
      nested.decode data (base + offset) = .ok (inner, taken) := by
  obtain ⟨field, declared, shape, rfl, nested, isNested, named⟩ := has
  obtain ⟨value, taken, found, decoded⟩ := get?_of_fieldwise fieldwise declared
  have element := LayoutField.element_of_nested? isNested
  rw [LayoutField.decode, shape, element, decodeShape, decodeElement_nested] at decoded
  obtain ⟨⟨inner, width⟩, read, done⟩ := bind_eq_ok.mp decoded
  cases done
  exact ⟨field, nested, inner, taken, List.mem_of_find?_eq_some declared, element, named, found,
    read⟩

/-- The records of an array stand at the multiples of their width, and their numbers in them. -/
theorem exists_records_of_hasRecords (fieldwise : layout.Fieldwise data base record)
    (sound : layout.Everywhere fun inner =>
      inner.Built ∧ (inner.fields.map (·.name)).Nodup)
    {count offset width : Nat} {places : List NumberPlace}
    (has : layout.HasRecords name count offset width places) :
    ∃ items, record.array? name = some items ∧ items.length = count ∧
      ∀ index < count, ∃ inner, items[index]? = some (.record inner) ∧ ∀ place ∈ places,
        inner.natural? place.name =
          some (word data (base + offset + width * index + place.offset) place.width) := by
  obtain ⟨field, declared, shape, rfl, nested, isNested, rfl, numbers⟩ := has
  obtain ⟨value, taken, found, decoded⟩ := get?_of_fieldwise fieldwise declared
  have element := LayoutField.element_of_nested? isNested
  have within := sound.inner field (List.mem_of_find?_eq_some declared) nested element
  have reads := readsExactly_nested
    (readsExactly_decode (within.imp fun _ both => both.1) data)
  rw [LayoutField.decode, shape, element, decodeShape] at decoded
  obtain ⟨⟨items, total⟩, read, done⟩ := bind_eq_ok.mp decoded
  cases done
  obtain ⟨counted, each⟩ := decodeArray_elements (fun _ _ _ done => reads.taken_eq done) read
  refine ⟨items, by simp [Record.array?, found, Value.array?], counted, ?_⟩
  intro index inside
  obtain ⟨item, isItem, one⟩ := each index inside
  rw [decodeElement_nested] at one
  obtain ⟨⟨inner, width⟩, own, done⟩ := bind_eq_ok.mp one
  cases done
  refine ⟨inner, isItem, fun place member => ?_⟩
  exact natural?_of_hasNumber (fieldwise_of_decode own within.own.2) (numbers place member)

end Fieldwise

end LapTelemetry.Wire

namespace LapTelemetry.Datagram

open LapTelemetry.Spec LapTelemetry.Wire

set_option autoImplicit false

/-! ## The numbers of a header -/

namespace Header

/-- The whole numbers of a header under the names that they are read by. -/
def numbers (header : Header) : List (String × Nat) :=
  [("packet_format", header.format), ("game_major_version", header.gameMajorVersion),
    ("game_minor_version", header.gameMinorVersion), ("packet_version", header.version),
    ("packet_id", header.id), ("session_uid", header.sessionUid),
    ("frame_identifier", header.frame), ("player_car_index", header.playerCar),
    ("secondary_player_car_index", header.secondaryPlayerCar)]

theorem natural?_of_whole {record : Record Value} {name : String} {bound n : Nat}
    (read : whole record name bound = .ok n) : record.natural? name = some n := by
  unfold whole at read
  split at read
  · next number =>
    split at read
    · cases read
      exact number
    · cases read
  · cases read

theorem natural?_of_ofRecord {record : Record Value} {header : Header}
    (read : ofRecord record = .ok header) :
    ∀ entry ∈ header.numbers, record.natural? entry.1 = some entry.2 := by
  obtain ⟨format, readFormat, read⟩ := bind_eq_ok.mp read
  obtain ⟨major, readMajor, read⟩ := bind_eq_ok.mp read
  obtain ⟨minor, readMinor, read⟩ := bind_eq_ok.mp read
  obtain ⟨version, readVersion, read⟩ := bind_eq_ok.mp read
  obtain ⟨id, readId, read⟩ := bind_eq_ok.mp read
  obtain ⟨uid, readUid, read⟩ := bind_eq_ok.mp read
  obtain ⟨time, -, read⟩ := bind_eq_ok.mp read
  obtain ⟨frame, readFrame, read⟩ := bind_eq_ok.mp read
  obtain ⟨car, readCar, read⟩ := bind_eq_ok.mp read
  obtain ⟨secondary, readSecondary, done⟩ := bind_eq_ok.mp read
  cases done
  simp only [numbers, List.forall_mem_cons, List.not_mem_nil, false_implies, implies_true,
    and_true]
  exact ⟨natural?_of_whole readFormat, natural?_of_whole readMajor, natural?_of_whole readMinor,
    natural?_of_whole readVersion, natural?_of_whole readId, natural?_of_whole readUid,
    natural?_of_whole readFrame, natural?_of_whole readCar, natural?_of_whole readSecondary⟩

end Header

/-! ## Datagrams that are accepted -/

namespace Dispatcher

variable {text : String} {registry : Registry} {format : Nat} {dispatcher : Dispatcher}
  {data : List UInt8} {packet : Packet}

section Accepted

variable (compiled : Registry.compile text = .ok registry)
  (built : build registry format = .ok dispatcher)
  (accepted : dispatcher.dispatch data = .ok packet)
include compiled built accepted

/-- The header is read from the first bytes, and each field of the body stands at its offset. -/
theorem exists_decoded_of_dispatch :
    ∃ record layout, dispatcher.header.decode data 0 = .ok (record, dispatcher.header.size) ∧
      Header.ofRecord record = .ok packet.header ∧
      dispatcher.decodeHeader data = .ok packet.header ∧
      registry.get? packet.kind.layoutName = some layout ∧
      layout.Fieldwise data 0 packet.body := by
  have verdict := verdict_dispatch compiled built data
  rw [accepted] at verdict
  cases verdict with
  | @accepted header kind layout body opens own known declared exact decoded =>
    obtain ⟨record, read, -⟩ := opens.held
    have opened := opens.header_eq
    rw [decodeHeaderWithin_of_long opens.long read] at opened
    have distinct := (everywhere_of_compile compiled declared).own.2
    exact ⟨record, layout, read, opened, opens.header_eq, declared,
      fieldwise_of_decode decoded distinct⟩

/-- The whole numbers of the header are the words at their places. -/
theorem word_of_header {place : NumberPlace} {value : Nat}
    (has : dispatcher.header.HasNumber place)
    (entry : (place.name, value) ∈ packet.header.numbers) :
    value = word data place.offset place.width := by
  obtain ⟨record, layout, read, opened, -⟩ := exists_decoded_of_dispatch compiled built accepted
  have distinct := (everywhere_of_compile compiled (build_routes built).1).own.2
  have number := natural?_of_hasNumber (fieldwise_of_decode read distinct) has
  rw [Header.natural?_of_ofRecord opened _ entry, Nat.zero_add] at number
  exact Option.some.inj number

/-- A body that begins with a record of the header's layout holds the record that the header was
read from. -/
theorem exists_header_of_dispatch {name : String}
    (begins : ∃ layout ∈ registry.get? packet.kind.layoutName,
      layout.HasRecord name Header.layoutName 0) :
    ∃ record, packet.body.get? name = some (.record record) ∧
      Header.ofRecord record = .ok packet.header := by
  obtain ⟨record, layout, read, opened, -, declared, fieldwise⟩ :=
    exists_decoded_of_dispatch compiled built accepted
  obtain ⟨again, same, has⟩ := begins
  cases declared.symm.trans same
  obtain ⟨field, nested, inner, taken, member, element, named, found, own⟩ :=
    exists_record_of_hasRecord fieldwise has
  -- A registry has one layout of a name, so the body's header is the dispatcher's.
  obtain ⟨specification, -, admitted⟩ := bind_eq_ok.mp compiled
  have entered := (wellFormed_of_sound (sound_of_ofSpecification admitted)).nested_entries layout
    (List.mem_of_find?_eq_some declared) field member nested element
  rw [named, (build_routes built).1] at entered
  cases entered
  cases own.symm.trans read
  exact ⟨record, found, opened⟩

/-- The record of every car is found, with the words at the places of its numbers. -/
theorem exists_carRecord_of_dispatch {name : String} {count offset width : Nat}
    {places : List NumberPlace}
    (holds : ∃ layout ∈ registry.get? packet.kind.layoutName,
      layout.HasRecords name count offset width places) :
    ∀ index < count, ∃ car, carRecord packet.body name index = .ok car ∧ ∀ place ∈ places,
      car.natural? place.name =
        some (word data (offset + width * index + place.offset) place.width) := by
  obtain ⟨record, layout, -, -, -, declared, fieldwise⟩ :=
    exists_decoded_of_dispatch compiled built accepted
  obtain ⟨again, same, has⟩ := holds
  cases declared.symm.trans same
  obtain ⟨items, cars, -, each⟩ :=
    exists_records_of_hasRecords fieldwise (everywhere_of_compile compiled declared) has
  intro index within
  obtain ⟨car, found, numbers⟩ := each index within
  rw [Nat.zero_add] at numbers
  exact ⟨car, by simp only [carRecord, cars, found], numbers⟩

end Accepted

end Dispatcher

end LapTelemetry.Datagram
