import LapTelemetry.Spec.Season2021
import LapTelemetry.Proofs.Spec.Decision
import LapTelemetry.Proofs.Datagram.CarRecords
import LapTelemetry.Proofs.Datagram.Places

/-! # The bundled season

The bundled specification compiles, and a dispatcher of its format can be built. What
its layouts put where is asked of them once (`exists_season2021`); what it means for
datagrams holds of all of them, whatever their bytes are. Of every datagram that is
accepted the header, the laps and the tyres of the cars are the little-endian words at
fixed places (`dispatch_season2021`). The record of a car in a lap datagram has times
of the first two sectors and none of the third (`thirdTime_eq_none_of_season2021`). -/

namespace LapTelemetry.Datagram

open LapTelemetry.Spec LapTelemetry.Wire

set_option autoImplicit false

theorem Kind.mem_all (kind : Kind) : kind ∈ Kind.all := by cases kind <;> decide

namespace Dispatcher

/-! ## What stands where in the season -/

/-- Where the whole numbers of a header stand. -/
def headerPlaces : List NumberPlace :=
  [⟨"packet_format", 0, 2⟩, ⟨"game_major_version", 2, 1⟩, ⟨"game_minor_version", 3, 1⟩,
    ⟨"packet_version", 4, 1⟩, ⟨"packet_id", 5, 1⟩, ⟨"session_uid", 6, 8⟩,
    ⟨"frame_identifier", 18, 4⟩, ⟨"player_car_index", 22, 1⟩,
    ⟨"secondary_player_car_index", 23, 1⟩]

/-- Where times and progress stand in the record of a car. -/
def lapPlaces : List NumberPlace :=
  [⟨"last_lap_time_in_ms", 0, 4⟩, ⟨"sector1_time_in_ms", 8, 2⟩, ⟨"sector2_time_in_ms", 10, 2⟩,
    ⟨"current_lap_num", 25, 1⟩, ⟨"sector", 28, 1⟩]

/-- Where the tyres stand in the record of a car. -/
def tyrePlaces : List NumberPlace :=
  [⟨"visual_tyre_compound", 26, 1⟩, ⟨"tyres_age_laps", 27, 1⟩]

/-- A lap datagram with bytes behind its header that count up. -/
def countingBytes : List UInt8 := headerBytes 2 ++ (List.range 946).map UInt8.ofNat

/-- Where the walk through a text passes, a dispatcher is built from what the walk completes. -/
theorem exists_of_walked (holds : Registry → Dispatcher → Prop)
    [∀ registry, DecidablePred (holds registry)] {text : String} {chars : List Char}
    (spelt : text = String.ofList chars)
    (passes : (Specification.ofText chars).toOption.any
      (fun specification => Walk.start.check specification.steps) = true)
    (checked : (Specification.ofText chars).toOption.any (fun specification =>
      (build specification.completed 2021).toOption.any fun dispatcher =>
        holds specification.completed dispatcher) = true) :
    ∃ registry dispatcher, Registry.compile text = .ok registry ∧
      build registry 2021 = .ok dispatcher ∧ holds registry dispatcher := by
  cases read : Specification.ofText chars with
  | error fault => simp [read, Except.toOption] at passes
  | ok specification =>
    simp only [read, Except.toOption, Option.any_some] at passes checked
    refine exists_of_checked holds spelt ?_
    rw [Registry.ofChars, read]
    simpa [bind, Except.bind, ofSpecification_of_check passes, Except.toOption] using checked

-- The text is read twice and no more, so what is needed of the layouts is asked for here.
set_option maxRecDepth 100000 in
theorem exists_season2021 :
    ∃ registry dispatcher, Registry.compile season2021 = .ok registry ∧
      build registry 2021 = .ok dispatcher ∧
      (((registry.get? "PacketLapData").bind (·.field? "lap_data")).bind (·.nested?)).map
        (fun car => (car.fields.map (·.name)).contains "sector3_time_in_ms") = some false ∧
      (∀ place ∈ headerPlaces, dispatcher.header.HasNumber place) ∧
      (∀ kind ∈ Kind.all, ∃ layout ∈ registry.get? kind.layoutName,
        layout.HasRecord "header" Header.layoutName 0) ∧
      (∃ layout ∈ registry.get? "PacketLapData",
        layout.HasRecords "lap_data" 22 24 43 lapPlaces) ∧
      (∃ layout ∈ registry.get? "PacketCarStatusData",
        layout.HasRecords "car_status_data" 22 24 47 tyrePlaces) ∧
      (registry.get? "PacketLapData").map (·.size) = some 970 ∧
      (dispatcher.decodeHeader countingBytes).toOption.map
        (fun header => (header.format, Kind.ofKey? header.key)) = some (2021, some .lapData) := by
  refine exists_of_walked _ rfl ?_ ?_
  · decide +kernel
  · decide +kernel

/-! ## What is read there -/

/-- In every datagram of the season that is accepted, the header stands in front and is the one that
the body holds, and the numbers of each car are the words at their places in its record. -/
theorem dispatch_season2021 :
    ∃ registry dispatcher, Registry.compile season2021 = .ok registry ∧
      build registry 2021 = .ok dispatcher ∧
      ∀ data packet, dispatcher.dispatch data = .ok packet →
        dispatcher.decodeHeader data = .ok packet.header ∧
        (∃ record, packet.body.get? "header" = some (.record record) ∧
          Header.ofRecord record = .ok packet.header) ∧
        (packet.header.format = word data 0 2 ∧ packet.header.gameMajorVersion = word data 2 1 ∧
          packet.header.gameMinorVersion = word data 3 1 ∧
          packet.header.version = word data 4 1 ∧ packet.header.id = word data 5 1 ∧
          packet.header.sessionUid = word data 6 8 ∧ packet.header.frame = word data 18 4 ∧
          packet.header.playerCar = word data 22 1 ∧
          packet.header.secondaryPlayerCar = word data 23 1) ∧
        (packet.kind = .lapData → ∀ index < 22, ∃ car,
          carRecord packet.body "lap_data" index = .ok car ∧
          car.natural? "last_lap_time_in_ms" = some (word data (24 + 43 * index) 4) ∧
          car.natural? "sector1_time_in_ms" = some (word data (24 + 43 * index + 8) 2) ∧
          car.natural? "sector2_time_in_ms" = some (word data (24 + 43 * index + 10) 2) ∧
          car.natural? "current_lap_num" = some (word data (24 + 43 * index + 25) 1) ∧
          car.natural? "sector" = some (word data (24 + 43 * index + 28) 1)) ∧
        (packet.kind = .carStatus → ∀ index < 22, ∃ car,
          carRecord packet.body "car_status_data" index = .ok car ∧
          car.natural? "visual_tyre_compound" = some (word data (24 + 47 * index + 26) 1) ∧
          car.natural? "tyres_age_laps" = some (word data (24 + 47 * index + 27) 1)) := by
  obtain ⟨registry, dispatcher, compiled, built, -, header, begins, laps, tyres, -⟩ :=
    exists_season2021
  refine ⟨registry, dispatcher, compiled, built, ?_⟩
  intro data packet accepted
  have number (place : NumberPlace) (value : Nat) (known : place ∈ headerPlaces)
      (entry : (place.name, value) ∈ packet.header.numbers) :
      value = word data place.offset place.width :=
    word_of_header compiled built accepted (header place known) entry
  refine ⟨?_, ?_, ?_, ?_, ?_⟩
  · obtain ⟨-, -, -, -, opened, -⟩ := exists_decoded_of_dispatch compiled built accepted
    exact opened
  · exact exists_header_of_dispatch compiled built accepted
      (begins packet.kind packet.kind.mem_all)
  · refine ⟨number ⟨"packet_format", 0, 2⟩ _ ?_ ?_, number ⟨"game_major_version", 2, 1⟩ _ ?_ ?_,
      number ⟨"game_minor_version", 3, 1⟩ _ ?_ ?_, number ⟨"packet_version", 4, 1⟩ _ ?_ ?_,
      number ⟨"packet_id", 5, 1⟩ _ ?_ ?_, number ⟨"session_uid", 6, 8⟩ _ ?_ ?_,
      number ⟨"frame_identifier", 18, 4⟩ _ ?_ ?_, number ⟨"player_car_index", 22, 1⟩ _ ?_ ?_,
      number ⟨"secondary_player_car_index", 23, 1⟩ _ ?_ ?_⟩
    all_goals simp [headerPlaces, Header.numbers]
  · intro kind index within
    obtain ⟨car, found, numbers⟩ := exists_carRecord_of_dispatch compiled built accepted
      (by rw [kind]; exact laps) index within
    simp only [lapPlaces, List.forall_mem_cons, Nat.add_zero] at numbers
    obtain ⟨lastLap, first, second, lap, sector, -⟩ := numbers
    exact ⟨car, found, lastLap, first, second, lap, sector⟩
  · intro kind index within
    obtain ⟨car, found, numbers⟩ := exists_carRecord_of_dispatch compiled built accepted
      (by rw [kind]; exact tyres) index within
    simp only [tyrePlaces, List.forall_mem_cons] at numbers
    obtain ⟨compound, age, -⟩ := numbers
    exact ⟨car, found, compound, age⟩

/-- Where the bytes count up, the fourth car is read from the bytes 129 and on. -/
theorem dispatch_season2021_counting :
    ∃ registry dispatcher packet car, Registry.compile season2021 = .ok registry ∧
      build registry 2021 = .ok dispatcher ∧ dispatcher.dispatch countingBytes = .ok packet ∧
      packet.header.sessionUid = 7 ∧ carRecord packet.body "lap_data" 3 = .ok car ∧
      car.natural? "sector1_time_in_ms" = some (137 + 256 * 138) ∧
      car.natural? "current_lap_num" = some 154 := by
  obtain ⟨registry, dispatcher, compiled, built, reads⟩ := dispatch_season2021
  obtain ⟨again, other, compiledAgain, builtAgain, -, -, -, -, -, size, opens⟩ := exists_season2021
  cases compiled.symm.trans compiledAgain
  cases built.symm.trans builtAgain
  -- The header is that of a lap datagram, and the length is right, so the datagram is accepted.
  obtain ⟨header, opened, isLap⟩ := toOption_map_eq_some_iff.mp opens
  obtain ⟨own, known⟩ := Prod.mk.inj isLap
  have opened : dispatcher.decodeHeaderWithin .unlimited countingBytes = .ok header := opened
  obtain ⟨layout, declared, -, exact⟩ := dispatchWithin_known compiled built opened own known
  rw [show registry.get? "PacketLapData" = some layout from declared] at size
  have width : layout.size = 970 := Option.some.inj size
  have length : countingBytes.length = 970 := by simp [countingBytes, headerBytes]
  have enough := Layout.shortage?_unlimited (built_of_compile compiled declared)
  obtain ⟨body, -, accepted⟩ := (exact (length.trans width.symm)).2 enough
  obtain ⟨-, -, numbers, laps, -⟩ := reads countingBytes _ accepted
  obtain ⟨car, found, -, first, -, lap, -⟩ := laps rfl 3 (by decide)
  have uid : word countingBytes 6 8 = 7 := by decide +kernel
  have time : word countingBytes (24 + 43 * 3 + 8) 2 = 137 + 256 * 138 := by decide +kernel
  have current : word countingBytes (24 + 43 * 3 + 25) 1 = 154 := by decide +kernel
  rw [time] at first
  rw [current] at lap
  refine ⟨registry, dispatcher, _, car, compiled, built, accepted, ?_, found, first, lap⟩
  exact numbers.2.2.2.2.2.1.trans uid

/-- No car of a lap datagram of the season has a third sector time. -/
theorem thirdTime_eq_none_of_season2021 :
    ∃ registry dispatcher, Registry.compile season2021 = .ok registry ∧
      build registry 2021 = .ok dispatcher ∧
      ∀ data packet index car, dispatcher.dispatch data = .ok packet → packet.kind = .lapData →
        carRecord packet.body "lap_data" index = .ok car →
          car.get? "sector3_time_in_ms" = none := by
  obtain ⟨registry, dispatcher, compiled, built, untimed, -⟩ := exists_season2021
  refine ⟨registry, dispatcher, compiled, built, fun data packet index car accepted kind found => ?_⟩
  obtain ⟨layout, field, nested, value, declared, isField, element, held, fits⟩ :=
    exists_field_of_dispatch compiled built accepted
      (show packet.kind.perCarField? = some "lap_data" by rw [kind]; rfl)
  rw [kind] at declared
  have isNested : field.nested? = some nested := by simp only [LayoutField.nested?, element]
  rw [show registry.get? "PacketLapData" = some layout from declared, Option.bind_some, isField,
    Option.bind_some, isNested, Option.map_some, Option.some.injEq] at untimed
  refine get?_eq_none_of_fits (fits_of_carRecord held fits element found) fun member => ?_
  rw [List.contains_iff_mem.mpr member] at untimed
  cases untimed

end Dispatcher

end LapTelemetry.Datagram
