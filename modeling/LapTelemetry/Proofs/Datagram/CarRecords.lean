import LapTelemetry.Proofs.Datagram.Verdict

/-! # The records of the cars

A dispatcher is built only if the field that should hold one record per car is there
and holds records. Whether it holds an array of them is not asked. With an array the
record of a car is found for every index below its length, and every other index is
out of range. With a single record there is no array to look into, and every index
is answered as if the field were missing (`carRecord_of_dispatch`). -/

namespace LapTelemetry.Wire

set_option autoImplicit false

theorem exists_mem_of_entriesFit {fields : List (LayoutField Layout)} {field : LayoutField Layout}
    {entries : List (String × Value)} (fit : EntriesFit fields entries) (member : field ∈ fields) :
    ∃ value, (field.name, value) ∈ entries ∧ field.Fits value := by
  induction fields generalizing entries with
  | nil => cases member
  | cons first rest ih =>
    obtain ⟨value, others, rfl, own, later⟩ := entriesFit_cons_iff.mp fit
    rcases List.mem_cons.mp member with rfl | among
    · exact ⟨value, List.mem_cons_self, own⟩
    · obtain ⟨found, entered, fits⟩ := ih later among
      exact ⟨found, List.mem_cons_of_mem _ entered, fits⟩

/-- A record that fits a layout has nothing under other names. -/
theorem get?_eq_none_of_fits {layout : Layout} {record : Record Value} (fits : layout.Fits record)
    {name : String} (undeclared : name ∉ layout.fields.map (·.name)) : record.get? name = none := by
  rw [← Layout.names_of_fits fits] at undeclared
  rw [Record.get?, List.lookup_eq_none_iff]
  intro entry member
  refine bne_iff_ne.mpr fun same => undeclared ?_
  exact same ▸ List.mem_map_of_mem member

/-- In a record that fits a layout with distinct names every field is found, with its value. -/
theorem exists_get?_of_fits {layout : Layout} {record : Record Value} (fits : layout.Fits record)
    (distinct : (layout.fields.map (·.name)).Nodup) {name : String} {field : LayoutField Layout}
    (declared : layout.field? name = some field) :
    ∃ value, record.get? name = some value ∧ field.Fits value := by
  have hit := List.find?_some declared
  have named : field.name = name := beq_iff_eq.mp hit
  obtain ⟨value, entered, own⟩ := exists_mem_of_entriesFit ((layout.fits_iff record).mp fits)
    (List.mem_of_find?_eq_some declared)
  rw [← Layout.names_of_fits fits] at distinct
  rw [named] at entered
  exact ⟨value, Record.get?_of_mem distinct entered, own⟩

end LapTelemetry.Wire

namespace LapTelemetry.Datagram

open LapTelemetry.Spec LapTelemetry.Wire

set_option autoImplicit false

section CarRecord

variable {body : Record Value} {name : String} {value : Value}
  {field : LayoutField Layout} {nested : Layout}

/-- An array of records gives the record at every index that it has. -/
theorem carRecord_of_array {count : Nat} (held : body.get? name = some value)
    (fits : field.Fits value) (element : field.element = .nested nested)
    (shape : field.shape = .array count) (index : Nat) :
    (index < count → ∃ car, carRecord body name index = .ok car ∧ nested.Fits car) ∧
      (count ≤ index → carRecord body name index = .error (.indexOutOfRange index count)) := by
  rw [LayoutField.Fits, shape, element] at fits
  obtain ⟨items, rfl, rfl, each⟩ := fits
  have cars : body.array? name = some items := by
    rw [Record.array?, held]
    rfl
  constructor
  · intro within
    obtain ⟨car, isRecord, fits⟩ := each items[index] (List.getElem_mem within)
    refine ⟨car, ?_, fits⟩
    simp only [carRecord, cars, List.getElem?_eq_getElem within, isRecord]
  · intro beyond
    simp only [carRecord, cars, List.getElem?_eq_none beyond]

/-- A single record is no array. -/
theorem carRecord_of_single (held : body.get? name = some value) (fits : field.Fits value)
    (element : field.element = .nested nested) (shape : field.shape = .single) (index : Nat) :
    carRecord body name index = .error (.fieldNotFound name "packet body") := by
  rw [LayoutField.Fits, shape, element] at fits
  obtain ⟨car, rfl, -⟩ := fits
  have none : body.array? name = Option.none := by
    rw [Record.array?, held]
    rfl
  simp only [carRecord, none]

/-- A record that is found is one of a car. -/
theorem fits_of_carRecord {index : Nat} {car : Record Value} (held : body.get? name = some value)
    (fits : field.Fits value) (element : field.element = .nested nested)
    (found : carRecord body name index = .ok car) : nested.Fits car := by
  cases shape : field.shape with
  | single =>
    rw [carRecord_of_single held fits element shape index] at found
    cases found
  | array count =>
    obtain ⟨within, beyond⟩ := carRecord_of_array held fits element shape index
    by_cases inside : index < count
    · obtain ⟨other, same, fits⟩ := within inside
      cases same.symm.trans found
      exact fits
    · rw [beyond (Nat.not_lt.mp inside)] at found
      cases found

end CarRecord

namespace Dispatcher

/-- Of a datagram that is accepted, the field with the records of the cars has a value of the type
and the shape that the specification gives to it. -/
theorem exists_field_of_dispatch {text : String} {registry : Registry} {format : Nat}
    {dispatcher : Dispatcher} {data : List UInt8} {packet : Packet} {name : String}
    (compiled : Registry.compile text = .ok registry)
    (built : build registry format = .ok dispatcher)
    (accepted : dispatcher.dispatch data = .ok packet)
    (perCar : packet.kind.perCarField? = some name) :
    ∃ layout field nested value, registry.get? packet.kind.layoutName = some layout ∧
      layout.field? name = some field ∧ field.element = .nested nested ∧
      packet.body.get? name = some value ∧ field.Fits value := by
  have verdict := verdict_dispatch compiled built data
  rw [accepted] at verdict
  -- What the dispatcher was built for meets what was decoded: both go by the layout of the kind.
  cases verdict with
  | @accepted header kind layout body opens own known declared exact decoded =>
    obtain ⟨route, -, leads⟩ := ((build_routes built).2 header.key).2 kind own known
    cases declared.symm.trans leads.layout
    obtain ⟨field, nested, found, element⟩ := leads.perCar name perCar
    obtain ⟨record, again, fits⟩ :=
      exists_decode_of_compile compiled declared (Nat.le_of_eq exact.symm)
    cases decoded.symm.trans again
    have distinct := (everywhere_of_compile compiled declared).own.2
    obtain ⟨value, held, own⟩ := exists_get?_of_fits fits distinct found
    exact ⟨route.layout, field, nested, value, declared, found, element, held, own⟩

/-- Of a datagram that is accepted, the records of the cars are found by the shape that the
specification gives to their field. -/
theorem carRecord_of_dispatch (text : String) (registry : Registry) (format : Nat)
    (dispatcher : Dispatcher) (data : List UInt8) (packet : Packet) (name : String)
    (compiled : Registry.compile text = .ok registry)
    (built : build registry format = .ok dispatcher)
    (accepted : dispatcher.dispatch data = .ok packet)
    (perCar : packet.kind.perCarField? = some name) :
    ∃ layout field nested, registry.get? packet.kind.layoutName = some layout ∧
      layout.field? name = some field ∧ field.element = .nested nested ∧
      (∀ count, field.shape = .array count → ∀ index,
        (index < count → ∃ car, carRecord packet.body name index = .ok car ∧ nested.Fits car) ∧
        (count ≤ index →
          carRecord packet.body name index = .error (.indexOutOfRange index count))) ∧
      (field.shape = .single → ∀ index,
        carRecord packet.body name index = .error (.fieldNotFound name "packet body")) := by
  obtain ⟨layout, field, nested, value, declared, found, element, held, fits⟩ :=
    exists_field_of_dispatch compiled built accepted perCar
  exact ⟨layout, field, nested, declared, found, element,
    fun count shape index => carRecord_of_array held fits element shape index,
    fun shape index => carRecord_of_single held fits element shape index⟩

/-! ## The small season -/

/-- A motion datagram of the small season. -/
def motionBytes : List UInt8 := headerBytes 0 ++ [200]

set_option maxRecDepth 20000 in
theorem smallSeason_accepts :
    ∃ registry dispatcher, Registry.compile smallSeason = .ok registry ∧
      build registry 2021 = .ok dispatcher ∧
      (dispatcher.dispatch lapBytes).toOption.map (·.kind) = some .lapData ∧
      ((registry.get? "PacketLapData").bind (·.field? "lap_data")).map (·.shape) =
        some (.array 2) ∧
      (dispatcher.dispatch motionBytes).toOption.map (·.kind) = some .motion ∧
      ((registry.get? "PacketMotionData").bind (·.field? "car_motion_data")).map (·.shape) =
        some .single := by
  refine exists_of_checked
    (fun registry dispatcher =>
      (dispatcher.dispatch lapBytes).toOption.map (·.kind) = some .lapData ∧
      ((registry.get? "PacketLapData").bind (·.field? "lap_data")).map (·.shape) =
        some (.array 2) ∧
      (dispatcher.dispatch motionBytes).toOption.map (·.kind) = some .motion ∧
      ((registry.get? "PacketMotionData").bind (·.field? "car_motion_data")).map (·.shape) =
        some .single)
    rfl ?_
  decide +kernel

/-- A lap datagram has the records of two cars. -/
theorem carRecord_of_dispatch_lap :
    ∃ registry dispatcher packet, Registry.compile smallSeason = .ok registry ∧
      build registry 2021 = .ok dispatcher ∧ dispatcher.dispatch lapBytes = .ok packet ∧
      (∃ car, carRecord packet.body "lap_data" 1 = .ok car) ∧
      carRecord packet.body "lap_data" 2 = .error (.indexOutOfRange 2 2) := by
  obtain ⟨registry, dispatcher, compiled, built, kind, shape, -⟩ := smallSeason_accepts
  obtain ⟨packet, accepted, isLap⟩ := toOption_map_eq_some_iff.mp kind
  obtain ⟨layout, field, nested, declared, found, -, array, -⟩ := carRecord_of_dispatch smallSeason
    registry 2021 dispatcher lapBytes packet "lap_data" compiled built accepted (by rw [isLap]; rfl)
  rw [isLap] at declared
  rw [show registry.get? "PacketLapData" = some layout from declared, Option.bind_some, found]
    at shape
  have cars := array 2 (Option.some.inj shape)
  obtain ⟨car, record, -⟩ := (cars 1).1 (by decide)
  exact ⟨registry, dispatcher, packet, compiled, built, accepted, ⟨car, record⟩,
    (cars 2).2 (by decide)⟩

/-- A motion datagram has the record of one car and no array. The dispatcher is built and accepts
it, but no car is found. -/
theorem carRecord_of_motion_not_found :
    ∃ registry dispatcher packet, Registry.compile smallSeason = .ok registry ∧
      build registry 2021 = .ok dispatcher ∧ dispatcher.dispatch motionBytes = .ok packet ∧
      packet.kind.perCarField? = some "car_motion_data" ∧
      carRecord packet.body "car_motion_data" 0 =
        .error (.fieldNotFound "car_motion_data" "packet body") := by
  obtain ⟨registry, dispatcher, compiled, built, -, -, kind, shape⟩ := smallSeason_accepts
  obtain ⟨packet, accepted, isMotion⟩ := toOption_map_eq_some_iff.mp kind
  have perCar : packet.kind.perCarField? = some "car_motion_data" := by rw [isMotion]; rfl
  obtain ⟨layout, field, nested, value, declared, found, element, held, fits⟩ :=
    exists_field_of_dispatch compiled built accepted perCar
  rw [isMotion] at declared
  rw [show registry.get? "PacketMotionData" = some layout from declared, Option.bind_some, found]
    at shape
  exact ⟨registry, dispatcher, packet, compiled, built, accepted, perCar,
    carRecord_of_single held fits element (Option.some.inj shape) 0⟩

end Dispatcher

end LapTelemetry.Datagram
