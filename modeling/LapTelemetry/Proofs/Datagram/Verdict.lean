import LapTelemetry.Proofs.Datagram.HeaderFields
import LapTelemetry.Proofs.Datagram.Routing
import LapTelemetry.Proofs.Spec.WellFormed
import LapTelemetry.Proofs.Splits
import LapTelemetry.Proofs.Wire.Room

/-! # What becomes of a datagram

A datagram is too short for a header, or its header lacks a field, or it is of a type
that the dispatcher does not know, or it is not as long as its kind asks, or it is
accepted. `Verdict` says when each of these is the case, in this order of precedence,
and every datagram gets its verdict (`verdict_dispatchWithin`).

That there is nothing else rests on the specification: its layouts are built by the
rules throughout, so decoding takes exactly the size of a layout, and where the length
has been checked only one thing can stop it, a layout with an array that there is no
room for. Whether there is one is seen from the specification and the machine, before
any datagram comes (`dispatchWithin_verdict`); apart from it no fault of dispatching is
fatal. A specification with such a header stops the process at the first datagram that
is long enough (`dispatchWithin_machine_outOfRoom`). -/

namespace LapTelemetry.Datagram

open LapTelemetry.Number LapTelemetry.Spec LapTelemetry.Wire

set_option autoImplicit false

/-! ## Layouts of a registry -/

section Registry

variable {text : String} {registry : Registry} {name : String} {layout : Layout}
  {data : List UInt8}

/-- The layouts of a compiled registry are built by the rules throughout, with distinct names. -/
theorem everywhere_of_compile (compiled : Registry.compile text = .ok registry)
    (declared : registry.get? name = some layout) :
    layout.Everywhere fun inner => inner.Built ∧ (inner.fields.map (·.name)).Nodup := by
  obtain ⟨specification, -, accepted⟩ := bind_eq_ok.mp compiled
  exact everywhere_of_sound (sound_of_ofSpecification accepted)
    (List.mem_of_find?_eq_some declared)

theorem built_of_compile (compiled : Registry.compile text = .ok registry)
    (declared : registry.get? name = some layout) : layout.Everywhere Layout.Built :=
  (everywhere_of_compile compiled declared).imp fun _ both => both.1

/-- Where there are enough bytes for a layout, they decode to a record that fits it. -/
theorem exists_decode_of_compile (compiled : Registry.compile text = .ok registry)
    (declared : registry.get? name = some layout) (enough : layout.size ≤ data.length) :
    ∃ record, layout.decode data 0 = .ok (record, layout.size) ∧ layout.Fits record :=
  (readsExactly_decode (built_of_compile compiled declared) data).takes 0 (Or.inr (by omega))

/-- So they do with any room, but for a shortage in the layout. -/
theorem decodeWithin_of_compile (compiled : Registry.compile text = .ok registry)
    (declared : registry.get? name = some layout) (enough : layout.size ≤ data.length)
    (room : Room) :
    (∃ shortage, layout.shortage? room = some shortage ∧
      room.holds shortage.length = false ∧
      layout.decodeWithin room data 0 = .error (.outOfRoom shortage.length)) ∨
    (layout.shortage? room = none ∧
      ∃ record, layout.decodeWithin room data 0 = .ok (record, layout.size)) := by
  have built := built_of_compile compiled declared
  have halts := haltsAt_decodeWithin built room data
  cases found : layout.shortage? room with
  | some shortage =>
    have within := halts.bounded shortage found
    exact .inl ⟨shortage, rfl, Layout.not_holds_of_shortage? built found,
      halts.stops shortage found 0 (Or.inr (by omega))⟩
  | none =>
    obtain ⟨record, decoded, -⟩ := exists_decode_of_compile compiled declared enough
    rw [found] at halts
    exact .inr ⟨rfl, record, by rw [halts.eq_of_none, decoded]⟩

end Registry

/-! ## Steps of dispatching -/

namespace Dispatcher

section Steps

variable {room : Room} {dispatcher : Dispatcher} {data : List UInt8} {header : Header}
  {fault : Fault} {route : Route} {body record : Record Value}

theorem decodeHeaderWithin_of_short (short : data.length < dispatcher.header.size) :
    dispatcher.decodeHeaderWithin room data =
      .error (.truncated dispatcher.header.size data.length) := by
  unfold decodeHeaderWithin
  rw [if_pos short]
  rfl

section Long

variable (long : dispatcher.header.size ≤ data.length)
include long

theorem decodeHeaderWithin_of_lacking
    (failed : dispatcher.header.decodeWithin room data 0 = .error fault) :
    dispatcher.decodeHeaderWithin room data = .error fault := by
  unfold decodeHeaderWithin
  rw [if_neg (Nat.not_lt.mpr long), failed]
  rfl

theorem decodeHeaderWithin_of_long
    (decoded : dispatcher.header.decodeWithin room data 0 = .ok (record, dispatcher.header.size)) :
    dispatcher.decodeHeaderWithin room data = Header.ofRecord record := by
  unfold decodeHeaderWithin
  rw [if_neg (Nat.not_lt.mpr long), decoded]
  rfl

end Long

theorem dispatchWithin_of_refused (refused : dispatcher.decodeHeaderWithin room data = .error fault) :
    dispatcher.dispatchWithin room data = .error fault := by
  unfold dispatchWithin
  rw [refused]
  rfl

section Opened

variable (opened : dispatcher.decodeHeaderWithin room data = .ok header)
include opened

theorem dispatchWithin_of_unrouted (unrouted : dispatcher.routes.lookup header.key = none) :
    dispatcher.dispatchWithin room data =
      .error (.unknownPacket header.format header.version header.id) := by
  simp only [dispatchWithin, opened, bind, Except.bind, unrouted]
  rfl

variable (routed : dispatcher.routes.lookup header.key = some route)
include routed

theorem dispatchWithin_of_mismatch (other : data.length ≠ route.layout.size) :
    dispatcher.dispatchWithin room data =
      .error (.sizeMismatch route.layout.name route.layout.size data.length) := by
  simp only [dispatchWithin, opened, bind, Except.bind, routed, if_pos other]
  rfl

theorem dispatchWithin_of_lacking (exact : data.length = route.layout.size)
    (failed : route.layout.decodeWithin room data 0 = .error fault) :
    dispatcher.dispatchWithin room data = .error fault := by
  simp only [dispatchWithin, opened, bind, Except.bind, routed, failed, exact, ne_eq, not_true,
    if_false]

theorem dispatchWithin_of_match (exact : data.length = route.layout.size)
    (decoded : route.layout.decodeWithin room data 0 = .ok (body, route.layout.size)) :
    dispatcher.dispatchWithin room data = .ok ⟨header, route.kind, body⟩ := by
  simp only [dispatchWithin, opened, bind, Except.bind, routed, decoded, exact, ne_eq, not_true,
    if_false]
  rfl

end Opened

end Steps

/-! ## Verdicts -/

/-- The bytes begin with a header, whose record holds all fields. -/
structure Opens (room : Room) (dispatcher : Dispatcher) (data : List UInt8) (header : Header) :
    Prop where
  long : dispatcher.header.size ≤ data.length
  held : ∃ record,
    dispatcher.header.decodeWithin room data 0 = .ok (record, dispatcher.header.size) ∧
    ∀ field ∈ Header.fields, field.HeldBy record
  header_eq : dispatcher.decodeHeaderWithin room data = .ok header

/-- What becomes of a datagram. -/
inductive Verdict (room : Room) (registry : Registry) (format : Nat) (dispatcher : Dispatcher)
    (data : List UInt8) : Except Fault Packet → Prop where
  | truncated (short : data.length < dispatcher.header.size) :
      Verdict room registry format dispatcher data
        (.error (.truncated dispatcher.header.size data.length))
  | headerLacksRoom {shortage : Shortage} (long : dispatcher.header.size ≤ data.length)
      (found : dispatcher.header.shortage? room = some shortage)
      (lacking : room.holds shortage.length = false) :
      Verdict room registry format dispatcher data (.error (.outOfRoom shortage.length))
  | unreadable {record : Record Value} {earlier later : List HeaderField} {field : HeaderField}
      (long : dispatcher.header.size ≤ data.length)
      (decoded :
        dispatcher.header.decodeWithin room data 0 = .ok (record, dispatcher.header.size))
      (asked : Header.fields = earlier ++ field :: later)
      (before : ∀ other ∈ earlier, other.HeldBy record) (missing : ¬ field.HeldBy record) :
      Verdict room registry format dispatcher data
        (.error (.fieldNotFound field.name Header.layoutName))
  | unknown {header : Header} (opens : dispatcher.Opens room data header)
      (foreign : header.format ≠ format ∨ Kind.ofKey? header.key = none) :
      Verdict room registry format dispatcher data
        (.error (.unknownPacket header.format header.version header.id))
  | mismatched {header : Header} {kind : Kind} {layout : Layout}
      (opens : dispatcher.Opens room data header) (own : header.format = format)
      (known : Kind.ofKey? header.key = some kind)
      (declared : registry.get? kind.layoutName = some layout) (other : data.length ≠ layout.size) :
      Verdict room registry format dispatcher data
        (.error (.sizeMismatch layout.name layout.size data.length))
  | bodyLacksRoom {header : Header} {kind : Kind} {layout : Layout} {shortage : Shortage}
      (opens : dispatcher.Opens room data header) (own : header.format = format)
      (known : Kind.ofKey? header.key = some kind)
      (declared : registry.get? kind.layoutName = some layout) (exact : data.length = layout.size)
      (found : layout.shortage? room = some shortage)
      (lacking : room.holds shortage.length = false) :
      Verdict room registry format dispatcher data (.error (.outOfRoom shortage.length))
  | accepted {header : Header} {kind : Kind} {layout : Layout} {body : Record Value}
      (opens : dispatcher.Opens room data header) (own : header.format = format)
      (known : Kind.ofKey? header.key = some kind)
      (declared : registry.get? kind.layoutName = some layout) (exact : data.length = layout.size)
      (decoded : layout.decodeWithin room data 0 = .ok (body, layout.size)) :
      Verdict room registry format dispatcher data (.ok ⟨header, kind, body⟩)

section Compiled

variable {room : Room} {text : String} {registry : Registry} {format : Nat}
  {dispatcher : Dispatcher}

/-- Dispatching a datagram gives its verdict. -/
theorem verdict_dispatchWithin (compiled : Registry.compile text = .ok registry)
    (built : build registry format = .ok dispatcher) (room : Room) (data : List UInt8) :
    Verdict room registry format dispatcher data (dispatcher.dispatchWithin room data) := by
  obtain ⟨declared, routes⟩ := build_routes built
  by_cases short : data.length < dispatcher.header.size
  · rw [dispatchWithin_of_refused (decodeHeaderWithin_of_short short)]
    exact .truncated short
  -- Past the length check decoding stops for lack of room only, and then the fields may fail.
  have long := Nat.not_lt.mp short
  rcases decodeWithin_of_compile compiled declared long room with
    ⟨shortage, found, lacking, stopped⟩ | ⟨-, record, decoded⟩
  · rw [dispatchWithin_of_refused (decodeHeaderWithin_of_lacking long stopped)]
    exact .headerLacksRoom long found lacking
  have whole := decodeHeaderWithin_of_long long decoded
  rcases ofRecord_settles record with
    ⟨held, header, read⟩ | ⟨earlier, field, later, asked, before, missing, failed⟩
  · have opened := whole.trans read
    have opens : dispatcher.Opens room data header := ⟨long, ⟨record, decoded, held⟩, opened⟩
    obtain ⟨unrouted, routed⟩ := routes header.key
    by_cases own : header.format = format
    · cases known : Kind.ofKey? header.key with
      | none =>
        rw [dispatchWithin_of_unrouted opened (unrouted (.inr known))]
        exact .unknown opens (.inr known)
      | some kind =>
        obtain ⟨route, found, leads⟩ := routed kind own known
        by_cases exact : data.length = route.layout.size
        · rcases decodeWithin_of_compile compiled leads.layout (Nat.le_of_eq exact.symm) room with
            ⟨shortage, short, lacking, stopped⟩ | ⟨-, body, taken⟩
          · rw [dispatchWithin_of_lacking opened found exact stopped]
            exact .bodyLacksRoom opens own known leads.layout exact short lacking
          · rw [dispatchWithin_of_match opened found exact taken, leads.kind_eq]
            exact .accepted opens own known leads.layout exact taken
        · rw [dispatchWithin_of_mismatch opened found exact]
          exact .mismatched opens own known leads.layout exact
    · rw [dispatchWithin_of_unrouted opened (unrouted (.inl own))]
      exact .unknown opens (.inl own)
  · rw [dispatchWithin_of_refused (whole.trans failed)]
    exact .unreadable long decoded asked before missing

theorem verdict_dispatch (compiled : Registry.compile text = .ok registry)
    (built : build registry format = .ok dispatcher) (data : List UInt8) :
    Verdict .unlimited registry format dispatcher data (dispatcher.dispatch data) :=
  verdict_dispatchWithin compiled built .unlimited data

section Outcomes

variable (compiled : Registry.compile text = .ok registry)
  (built : build registry format = .ok dispatcher) {data : List UInt8}
include compiled built

theorem dispatchWithin_truncated_iff {needed available : Nat} :
    dispatcher.dispatchWithin room data = .error (.truncated needed available) ↔
      data.length < dispatcher.header.size ∧ needed = dispatcher.header.size ∧
        available = data.length := by
  constructor
  · intro dispatched
    have verdict := verdict_dispatchWithin compiled built room data
    rw [dispatched] at verdict
    cases verdict with
    | truncated short => exact ⟨short, rfl, rfl⟩
  · rintro ⟨short, rfl, rfl⟩
    exact dispatchWithin_of_refused (decodeHeaderWithin_of_short short)

theorem dispatchWithin_fieldNotFound_iff {record : Record Value}
    (long : dispatcher.header.size ≤ data.length)
    (decoded : dispatcher.header.decodeWithin room data 0 = .ok (record, dispatcher.header.size))
    {name context : String} :
    dispatcher.dispatchWithin room data = .error (.fieldNotFound name context) ↔
      ∃ earlier field later, Header.fields = earlier ++ field :: later ∧
        (∀ other ∈ earlier, other.HeldBy record) ∧ ¬ field.HeldBy record ∧
        name = field.name ∧ context = Header.layoutName := by
  constructor
  · intro dispatched
    have verdict := verdict_dispatchWithin compiled built room data
    rw [dispatched] at verdict
    cases verdict with
    | unreadable _ again asked before missing =>
      cases decoded.symm.trans again
      exact ⟨_, _, _, asked, before, missing, rfl, rfl⟩
  · rintro ⟨earlier, field, later, asked, before, missing, rfl, rfl⟩
    have failed := ofRecord_missing asked before missing
    exact dispatchWithin_of_refused ((decodeHeaderWithin_of_long long decoded).trans failed)

section Header

variable {header : Header} (opened : dispatcher.decodeHeaderWithin room data = .ok header)
include opened

theorem dispatchWithin_unknownPacket_iff {key : Key} :
    dispatcher.dispatchWithin room data =
        .error (.unknownPacket key.format key.version key.id) ↔
      (header.format ≠ format ∨ Kind.ofKey? header.key = none) ∧ header.key = key := by
  constructor
  · intro dispatched
    have verdict := verdict_dispatchWithin compiled built room data
    rw [dispatched] at verdict
    obtain ⟨other, version, id⟩ := key
    cases verdict with
    | unknown opens foreign =>
      cases opened.symm.trans opens.header_eq
      exact ⟨foreign, rfl⟩
  · rintro ⟨foreign, rfl⟩
    exact dispatchWithin_of_unrouted opened (((build_routes built).2 header.key).1 foreign)

/-- A header of a kind that is known leads to the layout of the kind, which the length and the room
decide on. -/
theorem dispatchWithin_known {kind : Kind} (own : header.format = format)
    (known : Kind.ofKey? header.key = some kind) :
    ∃ layout, registry.get? kind.layoutName = some layout ∧
      (∀ name expected actual,
        dispatcher.dispatchWithin room data = .error (.sizeMismatch name expected actual) ↔
          data.length ≠ layout.size ∧ name = layout.name ∧ expected = layout.size ∧
            actual = data.length) ∧
      (data.length = layout.size →
        (∀ shortage, layout.shortage? room = some shortage →
          dispatcher.dispatchWithin room data = .error (.outOfRoom shortage.length)) ∧
        (layout.shortage? room = none →
          ∃ body, layout.decodeWithin room data 0 = .ok (body, layout.size) ∧
            dispatcher.dispatchWithin room data = .ok ⟨header, kind, body⟩)) := by
  obtain ⟨route, found, leads⟩ := ((build_routes built).2 header.key).2 kind own known
  refine ⟨route.layout, leads.layout, fun name expected actual => ⟨fun dispatched => ?_, ?_⟩,
    fun exact => ?_⟩
  · have verdict := verdict_dispatchWithin compiled built room data
    rw [dispatched] at verdict
    cases verdict with
    | mismatched opens _ again required other =>
      cases opened.symm.trans opens.header_eq
      cases known.symm.trans again
      cases leads.layout.symm.trans required
      exact ⟨other, rfl, rfl, rfl⟩
  · rintro ⟨other, rfl, rfl, rfl⟩
    exact dispatchWithin_of_mismatch opened found other
  · rcases decodeWithin_of_compile compiled leads.layout (Nat.le_of_eq exact.symm) room with
      ⟨first, short, -, stopped⟩ | ⟨enough, body, taken⟩
    · refine ⟨fun shortage again => ?_, fun none => ?_⟩
      · cases short.symm.trans again
        exact dispatchWithin_of_lacking opened found exact stopped
      · cases short.symm.trans none
    · refine ⟨fun shortage again => ?_, fun _ => ⟨body, taken, ?_⟩⟩
      · cases enough.symm.trans again
      · rw [dispatchWithin_of_match opened found exact taken, leads.kind_eq]

end Header

end Outcomes

/-- **Every outcome of dispatching, told apart from those before it, with any room.** For lack of
room a datagram stops the process iff its header, or else its body, is to be decoded by a layout
with a shortage. No other fault of dispatching is fatal. -/
theorem dispatchWithin_verdict (room : Room) (text : String) (registry : Registry) (format : Nat)
    (dispatcher : Dispatcher) (compiled : Registry.compile text = .ok registry)
    (built : build registry format = .ok dispatcher) (data : List UInt8) :
    registry.get? Header.layoutName = some dispatcher.header ∧
    (∀ needed available,
      dispatcher.dispatchWithin room data = .error (.truncated needed available) ↔
        data.length < dispatcher.header.size ∧ needed = dispatcher.header.size ∧
          available = data.length) ∧
    (dispatcher.header.size ≤ data.length →
      (∀ shortage, dispatcher.header.shortage? room = some shortage →
        dispatcher.dispatchWithin room data = .error (.outOfRoom shortage.length)) ∧
      (dispatcher.header.shortage? room = none →
        ∃ record,
          dispatcher.header.decodeWithin room data 0 = .ok (record, dispatcher.header.size) ∧
        (∀ name context, dispatcher.dispatchWithin room data = .error (.fieldNotFound name context) ↔
          ∃ earlier field later, Header.fields = earlier ++ field :: later ∧
            (∀ other ∈ earlier, other.HeldBy record) ∧ ¬ field.HeldBy record ∧
            name = field.name ∧ context = Header.layoutName) ∧
        ((∀ field ∈ Header.fields, field.HeldBy record) →
          ∃ header, dispatcher.decodeHeaderWithin room data = .ok header ∧
          (∀ key : Key,
            dispatcher.dispatchWithin room data =
                .error (.unknownPacket key.format key.version key.id) ↔
              (header.format ≠ format ∨ Kind.ofKey? header.key = none) ∧ header.key = key) ∧
          ∀ kind, header.format = format → Kind.ofKey? header.key = some kind →
            ∃ layout, registry.get? kind.layoutName = some layout ∧
            (∀ name expected actual,
              dispatcher.dispatchWithin room data = .error (.sizeMismatch name expected actual) ↔
                data.length ≠ layout.size ∧ name = layout.name ∧ expected = layout.size ∧
                  actual = data.length) ∧
            (data.length = layout.size →
              (∀ shortage, layout.shortage? room = some shortage →
                dispatcher.dispatchWithin room data = .error (.outOfRoom shortage.length)) ∧
              (layout.shortage? room = none →
                ∃ body, layout.decodeWithin room data 0 = .ok (body, layout.size) ∧
                  dispatcher.dispatchWithin room data = .ok ⟨header, kind, body⟩))))) ∧
    ∀ fault, dispatcher.dispatchWithin room data = .error fault →
      (fault.isFatal = true ↔ ∃ length, fault = .outOfRoom length ∧ room.holds length = false) := by
  have declared := (build_routes built).1
  refine ⟨declared, fun _ _ => dispatchWithin_truncated_iff compiled built, fun long => ?_,
    fun fault failed => ?_⟩
  · rcases decodeWithin_of_compile compiled declared long room with
      ⟨first, found, -, stopped⟩ | ⟨enough, record, decoded⟩
    · refine ⟨fun shortage again => ?_, fun none => ?_⟩
      · cases found.symm.trans again
        exact dispatchWithin_of_refused (decodeHeaderWithin_of_lacking long stopped)
      · cases found.symm.trans none
    · refine ⟨fun shortage again => (by cases enough.symm.trans again), fun _ => ⟨record, decoded,
        fun _ _ => dispatchWithin_fieldNotFound_iff compiled built long decoded, fun held => ?_⟩⟩
      obtain ⟨header, read⟩ := exists_ofRecord_iff.mpr held
      have opened := (decodeHeaderWithin_of_long long decoded).trans read
      exact ⟨header, opened, fun _ => dispatchWithin_unknownPacket_iff compiled built opened,
        fun _ => dispatchWithin_known compiled built opened⟩
  · have verdict := verdict_dispatchWithin compiled built room data
    rw [failed] at verdict
    cases verdict with
    | headerLacksRoom long found lacking => exact iff_of_true rfl ⟨_, rfl, lacking⟩
    | bodyLacksRoom opens own known leads exact found lacking =>
      exact iff_of_true rfl ⟨_, rfl, lacking⟩
    | _ => exact iff_of_false Bool.false_ne_true fun ⟨_, same, _⟩ => by cases same

end Compiled

/-! ## A small season -/

/-- A specification with two cars, where the motion body holds the record of one car alone. -/
def smallSeason : String :=
  "struct PacketHeader \x7b
     uint16 m_packetFormat; uint8 m_gameMajorVersion; uint8 m_gameMinorVersion;
     uint8 m_packetVersion; uint8 m_packetId; uint64 m_sessionUID; float m_sessionTime;
     uint32 m_frameIdentifier; uint8 m_playerCarIndex; uint8 m_secondaryPlayerCarIndex; \x7d;
   struct Car \x7b uint8 m_speed; \x7d;
   struct PacketMotionData \x7b PacketHeader m_header; Car m_carMotionData; \x7d;
   struct PacketSessionData \x7b PacketHeader m_header; \x7d;
   struct PacketLapData \x7b PacketHeader m_header; Car m_lapData[2]; \x7d;
   struct PacketCarTelemetryData \x7b PacketHeader m_header; Car m_carTelemetryData[2]; \x7d;
   struct PacketCarStatusData \x7b PacketHeader m_header; Car m_carStatusData[2]; \x7d;
   struct PacketCarDamageData \x7b PacketHeader m_header; Car m_carDamageData[2]; \x7d;"

/-- The bytes of a header of session 7, with the number of a type. -/
def headerBytes (id : UInt8) : List UInt8 :=
  [0xe5, 0x07, 1, 16, 1, id, 7, 0, 0, 0, 0, 0, 0, 0, 0, 0, 128, 63, 9, 0, 0, 0, 0, 255]

/-- What is found when a text is compiled and a dispatcher built holds of both. -/
theorem exists_of_checked (holds : Registry → Dispatcher → Prop)
    [∀ registry, DecidablePred (holds registry)] {text : String} {chars : List Char}
    (spelt : text = String.ofList chars)
    (checked : (Registry.ofChars chars).toOption.any (fun registry =>
      (build registry 2021).toOption.any fun dispatcher => holds registry dispatcher) = true) :
    ∃ registry dispatcher, Registry.compile text = .ok registry ∧
      build registry 2021 = .ok dispatcher ∧ holds registry dispatcher := by
  cases compiled : Registry.ofChars chars with
  | error fault => simp [compiled, Except.toOption] at checked
  | ok registry =>
    cases built : build registry 2021 with
    | error fault => simp [compiled, built, Except.toOption] at checked
    | ok dispatcher =>
      refine ⟨registry, dispatcher, ?_, built, ?_⟩
      · rw [Registry.compile, spelt, String.toList_ofList, compiled]
      · simpa [compiled, built, Except.toOption] using checked

/-- A lap datagram of the small season. -/
def lapBytes : List UInt8 := headerBytes 2 ++ [200, 60]

set_option maxRecDepth 20000 in
theorem exists_smallSeason :
    ∃ registry dispatcher, Registry.compile smallSeason = .ok registry ∧
      build registry 2021 = .ok dispatcher ∧
      (dispatcher.header.size, dispatcher.header.shortage? .machine) = (24, none) ∧
      (registry.get? "PacketLapData").map
        (fun layout => (layout.name, layout.size, layout.shortage? .machine)) =
          some ("PacketLapData", 26, none) ∧
      ∀ data ∈ [lapBytes, headerBytes 2], (dispatcher.decodeHeaderWithin .machine data).toOption.map
        (fun header => (header.format, Kind.ofKey? header.key)) = some (2021, some .lapData) := by
  refine exists_of_checked
    (fun registry dispatcher =>
      (dispatcher.header.size, dispatcher.header.shortage? .machine) = (24, none) ∧
      (registry.get? "PacketLapData").map
        (fun layout => (layout.name, layout.size, layout.shortage? .machine)) =
          some ("PacketLapData", 26, none) ∧
      ∀ data ∈ [lapBytes, headerBytes 2], (dispatcher.decodeHeaderWithin .machine data).toOption.map
        (fun header => (header.format, Kind.ofKey? header.key)) = some (2021, some .lapData))
    rfl ?_
  decide +kernel

/-- Twenty-six bytes hold a lap datagram of the small season, no other number does. -/
theorem dispatchWithin_verdict_lap :
    ∃ registry dispatcher, Registry.compile smallSeason = .ok registry ∧
      build registry 2021 = .ok dispatcher ∧
      (∃ header body,
        dispatcher.dispatchWithin .machine lapBytes = .ok ⟨header, .lapData, body⟩) ∧
      dispatcher.dispatchWithin .machine (headerBytes 2) =
        .error (.sizeMismatch "PacketLapData" 26 24) ∧
      dispatcher.dispatchWithin .machine (lapBytes.take 23) = .error (.truncated 24 23) := by
  obtain ⟨registry, dispatcher, compiled, built, ofHeader, ofLap, headers⟩ := exists_smallSeason
  obtain ⟨headerSize, headerRoom⟩ := Prod.mk.inj ofHeader
  have verdict := dispatchWithin_verdict .machine smallSeason registry 2021 dispatcher compiled built
  -- what the theorem says of data with the header of a lap datagram
  have opened (data : List UInt8) (member : data ∈ [lapBytes, headerBytes 2])
      (long : 24 ≤ data.length) :
      (data.length = 26 →
          ∃ header body, dispatcher.dispatchWithin .machine data = .ok ⟨header, .lapData, body⟩) ∧
        (data.length ≠ 26 → dispatcher.dispatchWithin .machine data =
          .error (.sizeMismatch "PacketLapData" 26 data.length)) := by
    obtain ⟨-, -, whole, -⟩ := verdict data
    obtain ⟨record, decoded, -, held⟩ := (whole (headerSize ▸ long)).2 headerRoom
    have read := decodeHeaderWithin_of_long (headerSize ▸ long) decoded
    obtain ⟨header, found, key⟩ := toOption_map_eq_some_iff.mp (headers data member)
    obtain ⟨again, same, -, routed⟩ :=
      held (exists_ofRecord_iff.mp ⟨header, read.symm.trans found⟩)
    cases found.symm.trans same
    obtain ⟨format, kind⟩ := Prod.mk.inj key
    obtain ⟨layout, declared, mismatched, accepted⟩ := routed .lapData format kind
    rw [show registry.get? "PacketLapData" = some layout from declared] at ofLap
    obtain ⟨name, parts⟩ := Prod.mk.inj (Option.some.inj ofLap)
    obtain ⟨size, lapRoom⟩ := Prod.mk.inj parts
    rw [size] at mismatched accepted
    refine ⟨fun exact => ?_, fun other => (mismatched _ _ _).mpr ⟨other, name.symm, rfl, rfl⟩⟩
    obtain ⟨body, -, dispatched⟩ := (accepted exact).2 lapRoom
    exact ⟨header, body, dispatched⟩
  refine ⟨registry, dispatcher, compiled, built, ?_, ?_, ?_⟩
  · exact (opened lapBytes (by simp) (by decide)).1 rfl
  · exact (opened (headerBytes 2) (by simp) (by decide)).2 (by decide)
  · obtain ⟨-, truncated, -⟩ := verdict (lapBytes.take 23)
    exact (truncated 24 23).mpr ⟨by rw [headerSize]; decide, headerSize.symm, by decide⟩

/-! ## A season that no machine has room for -/

/-- A specification whose header ends in an array of empty records, more than there is room for. -/
def vastSeason : String :=
  "struct E \x7b \x7d;
   struct PacketHeader \x7b
     uint16 m_packetFormat; uint8 m_gameMajorVersion; uint8 m_gameMinorVersion;
     uint8 m_packetVersion; uint8 m_packetId; uint64 m_sessionUID; float m_sessionTime;
     uint32 m_frameIdentifier; uint8 m_playerCarIndex; uint8 m_secondaryPlayerCarIndex;
     E m_pad[1152921504606846976]; \x7d;
   struct Car \x7b uint8 m_speed; \x7d;
   struct PacketMotionData \x7b Car m_carMotionData[1]; \x7d;
   struct PacketSessionData \x7b uint8 m_weather; \x7d;
   struct PacketLapData \x7b Car m_lapData[1]; \x7d;
   struct PacketCarTelemetryData \x7b Car m_carTelemetryData[1]; \x7d;
   struct PacketCarStatusData \x7b Car m_carStatusData[1]; \x7d;
   struct PacketCarDamageData \x7b Car m_carDamageData[1]; \x7d;"

set_option maxRecDepth 20000 in
theorem exists_vastSeason :
    ∃ registry dispatcher, Registry.compile vastSeason = .ok registry ∧
      build registry 2021 = .ok dispatcher ∧ dispatcher.header.size = 24 ∧
      dispatcher.header.shortage? .machine = some ⟨24, 1152921504606846976⟩ := by
  refine exists_of_checked
    (fun _ dispatcher => dispatcher.header.size = 24 ∧
      dispatcher.header.shortage? .machine = some ⟨24, 1152921504606846976⟩)
    rfl ?_
  decide +kernel

/-- Twenty-four bytes are a whole header of the vast season, and no outcome but the end. -/
theorem dispatchWithin_machine_outOfRoom :
    ∃ registry dispatcher, Registry.compile vastSeason = .ok registry ∧
      build registry 2021 = .ok dispatcher ∧ dispatcher.header.size ≤ (headerBytes 2).length ∧
      dispatcher.dispatchWithin .machine (headerBytes 2) =
        .error (.outOfRoom 1152921504606846976) := by
  obtain ⟨registry, dispatcher, compiled, built, size, found⟩ := exists_vastSeason
  have long : dispatcher.header.size ≤ (headerBytes 2).length := by
    rw [size]
    decide
  refine ⟨registry, dispatcher, compiled, built, long, ?_⟩
  rcases decodeWithin_of_compile compiled (build_routes built).1 long .machine with
    ⟨shortage, again, -, stopped⟩ | ⟨enough, -⟩
  · cases found.symm.trans again
    exact dispatchWithin_of_refused (decodeHeaderWithin_of_lacking long stopped)
  · cases found.symm.trans enough

end Dispatcher

end LapTelemetry.Datagram
