import LapTelemetry.Proofs.Wire.DecodeSize

/-! # Decoding where memory is limited

Room for an array is set aside before its first element is read, so whether there is
enough does not depend on the data: `Layout.shortage?` finds it from the layout alone.
It is the first array in the order of reading that asks for more than there is, told by
the bytes that are read before it and by the length it asks for.

`HaltsAt` compares a reader with the same reader where there is always room. Data that
reach the shortage end there, and all other data fare as they would without a limit:
where the bytes before the shortage are missing, the end of the data is met first. This
passes from elements to arrays and fields (`haltsAt_array`, `haltsAt_field`), over the
walk of a layout (`decodeFieldsWithin_of_haltsAt`) and to layouts at every depth
(`haltsAt_decodeWithin`).

With it `decodeWithin_size` says how many bytes decoding takes on any machine. On a real
one the limit is far beyond any datagram, yet a layout may declare a length beyond it, and
the process then ends where the data would have been too short
(`decodeWithin_machine_outOfRoom`). -/

namespace LapTelemetry.Wire

open LapTelemetry.Number

set_option autoImplicit false

/-! ## Shortages -/

/-- The place in a layout where there is not enough room. -/
structure Shortage where
  /-- The bytes of the layout that are read before. -/
  extent : Nat
  /-- The values that room is asked for. -/
  length : Nat
  deriving DecidableEq, Repr

/-- The shortage in a value of a shape, from that in one element. An array asks for room before it
reads an element, and if it has none it never meets the shortage of an element. -/
def Shape.shortage? (room : Room) (element : Option Shortage) : Shape → Option Shortage
  | .single => element
  | .array length =>
    if room.holds length then (if length = 0 then none else element) else some ⟨0, length⟩

mutual

/-- The first shortage in a layout, in the order of reading. -/
def Layout.shortage? (room : Room) : Layout → Option Shortage
  | ⟨_, arrangement, fields, _⟩ => fieldsShortage? room arrangement fields 0

/-- The first shortage in fields that come after an extent of bytes of the same layout. -/
def fieldsShortage? (room : Room) (arrangement : Arrangement) :
    List (LayoutField Layout) → Nat → Option Shortage
  | [], _ => none
  | ⟨_, _, element, shape, _⟩ :: rest, extent =>
    match shape.shortage? room (elementShortage? room element) with
    | some shortage => some { shortage with extent := arrangement.extend extent shortage.extent }
    | none => fieldsShortage? room arrangement rest
        (arrangement.extend extent (element.width * shape.count))

/-- The shortage in an element. -/
def elementShortage? (room : Room) : Element Layout → Option Shortage
  | .primitive _ => none
  | .nested layout => layout.shortage? room

end

/-- The shortage in a field by itself. -/
def LayoutField.shortage? (room : Room) (field : LayoutField Layout) : Option Shortage :=
  field.shape.shortage? room (elementShortage? room field.element)

theorem fieldsShortage?_cons (room : Room) (arrangement : Arrangement)
    (field : LayoutField Layout) (rest : List (LayoutField Layout)) (extent : Nat) :
    fieldsShortage? room arrangement (field :: rest) extent =
      match field.shortage? room with
      | some shortage => some { shortage with extent := arrangement.extend extent shortage.extent }
      | none => fieldsShortage? room arrangement rest (arrangement.extend extent field.width) := by
  obtain ⟨name, wireName, element, shape, offset⟩ := field
  rw [fieldsShortage?]
  rfl

theorem fieldsShortage?_eq_none {room : Room} {arrangement : Arrangement}
    {fields : List (LayoutField Layout)} (each : ∀ field ∈ fields, field.shortage? room = none)
    (extent : Nat) : fieldsShortage? room arrangement fields extent = none := by
  induction fields generalizing extent with
  | nil => rw [fieldsShortage?]
  | cons field rest ih =>
    rw [fieldsShortage?_cons, each field List.mem_cons_self]
    exact ih (fun other member => each other (List.mem_cons_of_mem _ member)) _

/-- A shortage among fields is that of one of them. -/
theorem exists_of_fieldsShortage? {room : Room} {arrangement : Arrangement}
    {fields : List (LayoutField Layout)} {extent : Nat} {shortage : Shortage}
    (found : fieldsShortage? room arrangement fields extent = some shortage) :
    ∃ field ∈ fields, ∃ own, field.shortage? room = some own ∧ own.length = shortage.length := by
  induction fields generalizing extent with
  | nil =>
    rw [fieldsShortage?] at found
    cases found
  | cons field rest ih =>
    rw [fieldsShortage?_cons] at found
    cases here : field.shortage? room with
    | none =>
      rw [here] at found
      obtain ⟨other, member, own⟩ := ih found
      exact ⟨other, List.mem_cons_of_mem _ member, own⟩
    | some own =>
      rw [here] at found
      cases found
      exact ⟨field, List.mem_cons_self, own, here, rfl⟩

/-- Where every array that is declared has room, there is no shortage. -/
theorem Layout.shortage?_eq_none {room : Room} {layout : Layout}
    (enough : layout.Everywhere fun inner => ∀ field ∈ inner.fields, ∀ length,
      field.shape = .array length → room.holds length = true) :
    layout.shortage? room = none := by
  induction enough with
  | intro own inner ih =>
    rename_i layout
    obtain ⟨name, arrangement, fields, size⟩ := layout
    rw [Layout.shortage?]
    refine fieldsShortage?_eq_none (fun field member => ?_) 0
    have element : elementShortage? room field.element = none := by
      cases isElement : field.element with
      | primitive type => rw [elementShortage?]
      | nested nested =>
        rw [elementShortage?]
        exact ih field member nested isElement
    rw [LayoutField.shortage?, element]
    cases shape : field.shape with
    | single => rfl
    | array length => simp only [Shape.shortage?, own field member length shape, if_true, ite_self]

theorem Layout.shortage?_unlimited {holds : Layout → Prop} {layout : Layout}
    (tree : layout.Everywhere holds) : layout.shortage? .unlimited = none :=
  Layout.shortage?_eq_none (tree.imp fun _ _ _ _ _ _ => rfl)

/-- What is asked for at a shortage is more than there is. -/
theorem Shape.not_holds_of_shortage? {room : Room} {shape : Shape} {element : Option Shortage}
    {shortage : Shortage} (found : shape.shortage? room element = some shortage)
    (inner : ∀ deeper, element = some deeper → room.holds deeper.length = false) :
    room.holds shortage.length = false := by
  cases shape with
  | single => exact inner shortage found
  | array length =>
    simp only [shortage?] at found
    split at found
    · split at found
      · cases found
      · exact inner shortage found
    · next lacking =>
      cases found
      exact eq_false_of_ne_true lacking

theorem Layout.not_holds_of_shortage? {room : Room} {holds : Layout → Prop} {layout : Layout}
    (tree : layout.Everywhere holds) {shortage : Shortage}
    (found : layout.shortage? room = some shortage) : room.holds shortage.length = false := by
  induction tree generalizing shortage with
  | intro own inner ih =>
    rename_i layout
    obtain ⟨name, arrangement, fields, size⟩ := layout
    rw [Layout.shortage?] at found
    obtain ⟨field, member, first, isFirst, same⟩ := exists_of_fieldsShortage? found
    rw [← same]
    have ofShape : field.shape.shortage? room (elementShortage? room field.element) = some first :=
      isFirst
    refine Shape.not_holds_of_shortage? ofShape fun deeper isElement => ?_
    cases element : field.element with
    | primitive type =>
      rw [element, elementShortage?] at isElement
      cases isElement
    | nested nested =>
      rw [element, elementShortage?] at isElement
      exact ih field member nested element isElement

/-! ## Readers with little room -/

/-- A reader `within` some room that goes by a reader `read` without a limit, up to a shortage. -/
structure HaltsAt {α : Type} (data : List UInt8) (shortage? : Option Shortage) (width : Nat)
    (within read : Nat → Except Fault (α × Nat)) : Prop where
  bounded : ∀ shortage, shortage? = some shortage → shortage.extent ≤ width
  stops : ∀ shortage, shortage? = some shortage → ∀ position,
    Reaches data position shortage.extent → within position = .error (.outOfRoom shortage.length)
  goes : ∀ position, (∀ shortage, shortage? = some shortage →
    ¬ Reaches data position shortage.extent) → within position = read position

theorem haltsAt_self {α : Type} (data : List UInt8) (width : Nat)
    (read : Nat → Except Fault (α × Nat)) : HaltsAt data none width read read where
  bounded _ none := by cases none
  stops _ none := by cases none
  goes _ _ := rfl

/-- Without a shortage a limit is not felt. -/
theorem HaltsAt.eq_of_none {α : Type} {data : List UInt8} {width : Nat}
    {within read : Nat → Except Fault (α × Nat)} (halts : HaltsAt data none width within read) :
    within = read :=
  funext fun position => halts.goes position fun _ none => by cases none

section Readers

variable {data : List UInt8} {room : Room} {width : Nat} {shortage? : Option Shortage}
  {good : Value → Prop} {within read : Nat → Except Fault (Value × Nat)}

theorem haltsAt_array (reads : ReadsExactly data good width read)
    (halts : HaltsAt data shortage? width within read) (length : Nat) :
    HaltsAt data ((Shape.array length).shortage? room shortage?) (width * length)
      (decodeArrayWithin room within length) (decodeArray read length) := by
  unfold Shape.shortage? decodeArrayWithin
  by_cases held : room.holds length = true
  · simp only [if_pos held]
    cases length with
    | zero => exact haltsAt_self data _ _
    | succ count =>
      simp only [Nat.add_one_ne_zero, if_false]
      have first : width ≤ width * (count + 1) := Nat.le_mul_of_pos_right _ (Nat.succ_pos count)
      refine ⟨fun shortage found => Nat.le_trans (halts.bounded shortage found) first, ?_, ?_⟩
      · intro shortage found position reaches
        rw [decodeArray, halts.stops shortage found position reaches]
        rfl
      · intro position beyond
        cases found : shortage? with
        | none =>
          subst found
          rw [halts.eq_of_none]
        | some shortage =>
          -- The first element ends with the data already, short of its shortage.
          have short := beyond shortage found
          obtain ⟨needed, failed, -⟩ := reads.lacks position
            fun reaches => short (reaches.mono (halts.bounded shortage found))
          rw [decodeArray, decodeArray, halts.goes position beyond, failed]
          rfl
  · simp only [if_neg held]
    refine ⟨fun shortage found => ?_, fun shortage found position _ => ?_, fun position beyond => ?_⟩
    · cases found
      exact Nat.zero_le _
    · cases found
      rfl
    · exact absurd (Or.inl rfl) (beyond _ rfl)

theorem haltsAt_shape (reads : ReadsExactly data good width read)
    (halts : HaltsAt data shortage? width within read) (shape : Shape) :
    HaltsAt data (shape.shortage? room shortage?) (width * shape.count)
      (decodeShapeWithin room within shape) (decodeShape read shape) := by
  cases shape with
  | single =>
    rw [Shape.count, Nat.mul_one]
    exact ⟨halts.bounded, halts.stops, halts.goes⟩
  | array length =>
    have items : HaltsAt data ((Shape.array length).shortage? room shortage?) (width * length)
        (decodeArrayWithin room within length) (decodeArray read length) :=
      haltsAt_array reads halts length
    refine ⟨items.bounded, ?_, ?_⟩
    · intro shortage found position reaches
      rw [decodeShapeWithin, items.stops shortage found position reaches]
      rfl
    · intro position beyond
      rw [decodeShapeWithin, decodeShape, items.goes position beyond]

end Readers

/-! ## Fields and layouts -/

section Layouts

variable {data : List UInt8} {room : Room}

theorem haltsAt_nested {layout : Layout}
    (halts : HaltsAt data (layout.shortage? room) layout.size (layout.decodeWithin room data)
      (layout.decode data)) :
    HaltsAt data (elementShortage? room (.nested layout)) layout.size
      (decodeElementWithin room data (.nested layout)) (decodeElement data (.nested layout)) := by
  rw [elementShortage?]
  refine ⟨halts.bounded, ?_, ?_⟩
  · intro shortage found position reaches
    rw [decodeElementWithin, halts.stops shortage found position reaches]
    rfl
  · intro position beyond
    rw [decodeElementWithin, decodeElement_nested, halts.goes position beyond]

theorem haltsAt_primitive (type : Primitive) :
    HaltsAt data (elementShortage? room (.primitive type)) type.size
      (decodeElementWithin room data (.primitive type)) (decodeElement data (.primitive type)) := by
  rw [elementShortage?]
  refine ⟨fun shortage found => (by cases found), fun shortage found => (by cases found), ?_⟩
  intro position _
  rw [decodeElementWithin, decodeElement_primitive]

theorem haltsAt_field {field : LayoutField Layout}
    (reads : ∀ nested, field.element = .nested nested →
      ReadsExactly data nested.Fits nested.size (nested.decode data))
    (halts : ∀ nested, field.element = .nested nested →
      HaltsAt data (nested.shortage? room) nested.size (nested.decodeWithin room data)
        (nested.decode data)) :
    HaltsAt data (field.shortage? room) field.width (field.decodeWithin room data)
      (field.decode data) := by
  obtain ⟨name, wireName, element, shape, offset⟩ := field
  cases element with
  | primitive type => exact haltsAt_shape (readsExactly_primitive data type) (haltsAt_primitive type) shape
  | nested nested =>
    exact haltsAt_shape (readsExactly_nested (reads nested rfl)) (haltsAt_nested (halts nested rfl))
      shape

/-- A shortage among fields lies between the bytes before them and their end. -/
theorem fieldsShortage?_bounds {arrangement : Arrangement} {fields : List (LayoutField Layout)}
    {extent total : Nat} (placed : Layout.place arrangement extent fields = (fields, total))
    (each : ∀ field ∈ fields, ∀ shortage, field.shortage? room = some shortage →
      shortage.extent ≤ field.width)
    {shortage : Shortage} (found : fieldsShortage? room arrangement fields extent = some shortage) :
    extent ≤ shortage.extent ∧ shortage.extent ≤ total := by
  induction fields generalizing extent with
  | nil =>
    rw [fieldsShortage?] at found
    cases found
  | cons field rest ih =>
    obtain ⟨-, later⟩ := Layout.place_cons_iff.mp placed
    have grows := Layout.le_of_place later
    rw [fieldsShortage?_cons] at found
    cases own : field.shortage? room with
    | some inner =>
      have within := each field List.mem_cons_self inner own
      rw [own] at found
      cases found
      cases arrangement <;> simp only [Arrangement.extend] at grows ⊢ <;> omega
    | none =>
      rw [own] at found
      obtain ⟨after, before⟩ := ih later
        (fun other member => each other (List.mem_cons_of_mem _ member)) found
      exact ⟨Nat.le_trans (arrangement.le_extend extent field.width) after, before⟩

/-- Data that hold what comes before a part reach into the part as far as they reach into it. -/
theorem reaches_extend_iff {arrangement : Arrangement} {base extent width : Nat}
    (before : Reaches data base extent) :
    Reaches data base (arrangement.extend extent width) ↔
      Reaches data (base + arrangement.offset extent) width := by
  cases arrangement <;> simp only [Arrangement.extend, Arrangement.offset, Reaches] at before ⊢ <;>
    omega

/-- The walk over fields comes to the first shortage if the data reach so far. -/
theorem decodeFieldsWithin_of_haltsAt {arrangement : Arrangement}
    {fields : List (LayoutField Layout)} {extent total : Nat} (layoutName : String) (base : Nat)
    (placed : Layout.place arrangement extent fields = (fields, total))
    (reads : ∀ field ∈ fields, ReadsExactly data field.Fits field.width (field.decode data))
    (halts : ∀ field ∈ fields, HaltsAt data (field.shortage? room) field.width
      (field.decodeWithin room data) (field.decode data))
    (before : Reaches data base extent) :
    (∀ shortage, fieldsShortage? room arrangement fields extent = some shortage →
      Reaches data base shortage.extent →
      decodeFieldsWithin room data layoutName arrangement base fields extent =
        .error (.outOfRoom shortage.length)) ∧
    ((∀ shortage, fieldsShortage? room arrangement fields extent = some shortage →
        ¬ Reaches data base shortage.extent) →
      decodeFieldsWithin room data layoutName arrangement base fields extent =
        decodeFields data layoutName arrangement base fields extent) := by
  induction fields generalizing extent with
  | nil =>
    refine ⟨fun shortage found => ?_, fun _ => ?_⟩
    · rw [fieldsShortage?] at found
      cases found
    · rw [decodeFieldsWithin, decodeFields_nil]
  | cons field rest ih =>
    obtain ⟨offset, later⟩ := Layout.place_cons_iff.mp placed
    have own := halts field List.mem_cons_self
    have reader := reads field List.mem_cons_self
    rw [decodeFieldsWithin_cons, decodeFields_cons, if_neg (fun other => other offset.symm),
      if_neg (fun other => other offset.symm), fieldsShortage?_cons]
    cases short : field.shortage? room with
    | some inner =>
      constructor
      · intro shortage found reaches
        cases found
        rw [own.stops inner short _ ((reaches_extend_iff before).mp reaches)]
        rfl
      · intro beyond
        have cut : ¬ Reaches data (base + arrangement.offset extent) inner.extent :=
          fun reaches => beyond _ rfl ((reaches_extend_iff before).mpr reaches)
        obtain ⟨needed, failed, -⟩ := reader.lacks _
          fun reaches => cut (reaches.mono (own.bounded inner short))
        have same := own.goes _ fun other found => by
          cases short.symm.trans found
          exact cut
        rw [same, failed]
        rfl
    | none =>
      rw [short] at own
      rw [own.eq_of_none]
      by_cases first : Reaches data (base + arrangement.offset extent) field.width
      · obtain ⟨value, decoded, -⟩ := reader.takes _ first
        simp only [decoded, bind, Except.bind]
        obtain ⟨stops, goes⟩ := ih later
          (fun other member => reads other (List.mem_cons_of_mem _ member))
          (fun other member => halts other (List.mem_cons_of_mem _ member))
          ((reaches_extend_iff before).mpr first)
        constructor
        · intro shortage found reaches
          rw [stops shortage found reaches]
        · intro beyond
          rw [goes beyond]
      · obtain ⟨needed, failed, -⟩ := reader.lacks _ first
        constructor
        · intro shortage found reaches
          -- The field is cut off, so nothing behind it is reached.
          have behind := (fieldsShortage?_bounds later (fun other member =>
            (halts other (List.mem_cons_of_mem _ member)).bounded) found).1
          exact absurd ((reaches_extend_iff before).mp (reaches.mono behind)) first
        · intro _
          rw [failed]
          rfl

/-- A layout that the rules gave, throughout, goes by the data up to its shortage. -/
theorem haltsAt_decodeWithin {layout : Layout} (built : layout.Everywhere Layout.Built)
    (room : Room) (data : List UInt8) :
    HaltsAt data (layout.shortage? room) layout.size (layout.decodeWithin room data)
      (layout.decode data) := by
  induction built with
  | intro own inner ih =>
    rename_i layout
    have placed := Layout.place_of_built own
    have read (field : LayoutField Layout) (member : field ∈ layout.fields)
        (nested : Layout) (element : field.element = .nested nested) :=
      readsExactly_decode (inner field member nested element) data
    have halts (field : LayoutField Layout) (member : field ∈ layout.fields) :=
      haltsAt_field (read field member) (ih field member)
    have walk (base : Nat) := decodeFieldsWithin_of_haltsAt layout.name base placed
      (fun field member => readsExactly_field (read field member)) halts (Or.inl rfl)
    have bounds {shortage : Shortage}
        (found : fieldsShortage? room layout.arrangement layout.fields 0 = some shortage) :=
      fieldsShortage?_bounds placed (fun field member => (halts field member).bounded) found
    obtain ⟨name, arrangement, fields, size⟩ := layout
    rw [Layout.shortage?]
    refine ⟨fun shortage found => (bounds found).2, ?_, ?_⟩
    · intro shortage found base reaches
      rw [Layout.decodeWithin, (walk base).1 shortage found reaches]
      rfl
    · intro base beyond
      rw [Layout.decodeWithin, Layout.decode_mk, (walk base).2 beyond]

end Layouts

/-! ## How many bytes decoding takes -/

/-- **Decoding takes exactly the size of a layout, with any room.** It succeeds iff that many
bytes are there, or none are wanted, and the layout has no shortage; the record then fits the
layout at every depth. It runs out of room iff there is a shortage and the data hold what is read
before it. What else fails is the end of the data, told with its true length and an end within the
layout. -/
theorem decodeWithin_size (room : Room) (layout : Layout)
    (built : layout.Everywhere Layout.Built) (data : List UInt8) (base : Nat) :
    ((∃ result, layout.decodeWithin room data base = .ok result) ↔
        layout.shortage? room = none ∧
          (layout.size = 0 ∨ base + layout.size ≤ data.length)) ∧
      (∀ record taken, layout.decodeWithin room data base = .ok (record, taken) →
        taken = layout.size ∧ record.names = layout.fields.map (·.name) ∧ layout.Fits record) ∧
      (∀ length, layout.decodeWithin room data base = .error (.outOfRoom length) ↔
        ∃ extent, layout.shortage? room = some ⟨extent, length⟩ ∧
          (extent = 0 ∨ base + extent ≤ data.length)) ∧
      (∀ fault, layout.decodeWithin room data base = .error fault →
        (∃ length, fault = .outOfRoom length ∧ room.holds length = false) ∨
        ∃ needed, fault = .truncated needed data.length ∧ data.length < needed ∧
          needed ≤ base + layout.size) ∧
      ∀ name field, layout.decodeWithin room data base ≠ .error (.misplacedField name field) := by
  obtain ⟨succeeds, fits, fails, -⟩ := decode_size layout built data base
  have halts := haltsAt_decodeWithin built room data
  by_cases short : ∃ shortage, layout.shortage? room = some shortage ∧
    Reaches data base shortage.extent
  · obtain ⟨shortage, found, reaches⟩ := short
    rw [halts.stops shortage found base reaches]
    refine ⟨iff_of_false (fun ⟨_, done⟩ => by cases done) (fun both => ?_), fun _ _ done => ?_,
      fun length => ⟨fun same => ?_, fun ⟨extent, again, _⟩ => ?_⟩, fun fault same => ?_,
      fun _ _ same => ?_⟩
    · cases found.symm.trans both.1
    · cases done
    · cases same
      exact ⟨shortage.extent, found, reaches⟩
    · cases found.symm.trans again
      rfl
    · cases same
      exact .inl ⟨_, rfl, Layout.not_holds_of_shortage? built found⟩
    · cases same
  · have beyond (shortage : Shortage) (found : layout.shortage? room = some shortage) :
        ¬ Reaches data base shortage.extent := fun reaches => short ⟨shortage, found, reaches⟩
    rw [halts.goes base beyond]
    refine ⟨succeeds.trans ⟨fun enough => ⟨?_, enough⟩, And.right⟩, fits,
      fun length => iff_of_false (fun same => ?_) ?_, fun fault same => .inr (fails fault same),
      fun name field same => ?_⟩
    · cases found : layout.shortage? room with
      | none => rfl
      | some shortage =>
        have whole : Reaches data base layout.size := enough
        exact absurd (whole.mono (halts.bounded shortage found)) (beyond shortage found)
    · obtain ⟨needed, other, -⟩ := fails _ same
      cases other
    · rintro ⟨extent, found, reaches⟩
      exact beyond _ found reaches
    · obtain ⟨needed, other, -⟩ := fails _ same
      cases other

/-- Seventeen bytes hold a frame from the second byte on. With room for two values only, the array
of three in the first overlay is not read, and it takes seven bytes to get there. -/
theorem decodeWithin_size_frame :
    Layout.Sample.frame.Everywhere Layout.Built ∧
      (∃ result, Layout.Sample.frame.decodeWithin .machine (List.replicate 17 200) 1 =
        .ok result) ∧
      Layout.Sample.frame.decodeWithin (.upTo 2) (List.replicate 8 200) 1 =
        .error (.outOfRoom 3) ∧
      ∀ length, Layout.Sample.frame.decodeWithin (.upTo 2) (List.replicate 7 200) 1 ≠
        .error (.outOfRoom length) := by
  have built := Layout.Sample.frame_built
  have third : Layout.Sample.frame.shortage? (.upTo 2) = some ⟨7, 3⟩ := by decide
  refine ⟨built, (decodeWithin_size .machine _ built _ 1).1.mpr ⟨by decide, by decide⟩, ?_, ?_⟩
  · obtain ⟨-, -, runsOut, -⟩ := decodeWithin_size (.upTo 2) _ built (List.replicate 8 200) 1
    exact (runsOut 3).mpr ⟨7, third, by decide⟩
  · intro length same
    obtain ⟨-, -, runsOut, -⟩ := decodeWithin_size (.upTo 2) _ built (List.replicate 7 200) 1
    obtain ⟨extent, found, reaches⟩ := (runsOut length).mp same
    cases third.symm.trans found
    exact absurd reaches (by decide)

/-- A layout of one array, with more elements than room can be set aside for. -/
def Layout.Sample.vast : Layout :=
  .build "S" .struct [Sample.field "a" (.primitive .uint8) (.array (pow2 62))]

/-- No byte of the vast array is there, and what is met first is not the end of the data. -/
theorem decodeWithin_machine_outOfRoom :
    Layout.Sample.vast.Everywhere Layout.Built ∧ Layout.Sample.vast.size = 4611686018427387904 ∧
      Layout.Sample.vast.decodeWithin .machine [] 0 = .error (.outOfRoom 4611686018427387904) ∧
      ¬ ∃ needed, Layout.Sample.vast.decodeWithin .machine [] 0 =
        .error (.truncated needed 0) := by
  have built : Layout.Sample.vast.Everywhere Layout.Built :=
    Layout.everywhere_build ⟨_, _, _, rfl⟩ (by simp [Layout.Sample.field])
  have first : Layout.Sample.vast.shortage? .machine = some ⟨0, 4611686018427387904⟩ := by decide
  have stopped : Layout.Sample.vast.decodeWithin .machine [] 0 =
      .error (.outOfRoom 4611686018427387904) :=
    (haltsAt_decodeWithin built .machine []).stops _ first 0 (Or.inl rfl)
  refine ⟨built, by decide, stopped, ?_⟩
  rintro ⟨needed, same⟩
  cases stopped.symm.trans same

end LapTelemetry.Wire
