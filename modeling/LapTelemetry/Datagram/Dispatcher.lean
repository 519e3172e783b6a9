import LapTelemetry.Datagram.Header
import LapTelemetry.Spec.Registry
import LapTelemetry.Wire.Layout.Decode

/-! # Dispatching datagrams

A dispatcher holds the layouts of the header and of every kind of one format. It
is built once from a registry, and building fails if a layout is missing or if a
body that should hold one record per car does not. A datagram is then decoded in
three steps: the header, the kind that its key selects, and the body, which must
be exactly as long as its layout.

Header and body are decoded with the room that the machine has for their arrays.
`dispatch` is `dispatchWithin` where there is always room: the collector goes by
it, since where there is none no collector is left to count anything. -/

namespace LapTelemetry.Datagram

open LapTelemetry.Spec LapTelemetry.Wire

set_option autoImplicit false

/-- A decoded datagram. -/
structure Packet where
  header : Header
  kind : Kind
  body : Record Value
  deriving Repr

/-- A kind and the layout of its body. -/
structure Route where
  kind : Kind
  layout : Layout
  deriving Repr

/-- The layouts of one format. -/
structure Dispatcher where
  header : Layout
  routes : List (Key × Route)
  deriving Repr

namespace Dispatcher

/-- Who asks for the layouts of a dispatcher. -/
def requester : String := "packet dispatcher"

/-- The route of a kind; a field with one record per car must be there and hold
records. -/
def route (registry : Registry) (entry : Key × Kind) : Except Fault (Key × Route) := do
  let (key, kind) := entry
  let layout ← registry.require kind.layoutName requester
  match kind.perCarField? with
  | some field =>
    if ((layout.field? field).bind LayoutField.nested?).isNone then
      throw (.config (.noPerCarArray layout.name field))
  | none => pure ()
  return (key, ⟨kind, layout⟩)

/-- The dispatcher of a format. -/
def build (registry : Registry) (format : Nat) : Except Fault Dispatcher := do
  let header ← registry.require Header.layoutName requester
  let routes ← (Kind.table.filter fun (key, _) => key.format == format).mapM (route registry)
  if routes.isEmpty then throw (.config (.unknownFormat format))
  return ⟨header, routes⟩

/-- The layout of a kind's body. -/
def layout? (dispatcher : Dispatcher) (kind : Kind) : Option Layout :=
  (dispatcher.routes.find? fun (_, route) => route.kind == kind).map (·.2.layout)

/-- Decode the header of a datagram, with so much room. -/
def decodeHeaderWithin (room : Room) (dispatcher : Dispatcher) (data : List UInt8) :
    Except Fault Header := do
  if data.length < dispatcher.header.size then
    throw (.truncated dispatcher.header.size data.length)
  let (record, _) ← dispatcher.header.decodeWithin room data 0
  Header.ofRecord record

/-- Decode a datagram, with so much room. -/
def dispatchWithin (room : Room) (dispatcher : Dispatcher) (data : List UInt8) :
    Except Fault Packet := do
  let header ← dispatcher.decodeHeaderWithin room data
  match dispatcher.routes.lookup header.key with
  | none => throw (.unknownPacket header.format header.version header.id)
  | some route =>
    if data.length ≠ route.layout.size then
      throw (.sizeMismatch route.layout.name route.layout.size data.length)
    let (body, taken) ← route.layout.decodeWithin room data 0
    if taken ≠ route.layout.size then
      throw (.sizeMismatch route.layout.name route.layout.size taken)
    return ⟨header, route.kind, body⟩

/-- Decode the header of a datagram. -/
def decodeHeader : Dispatcher → List UInt8 → Except Fault Header := decodeHeaderWithin .unlimited

/-- Decode a datagram. -/
def dispatch : Dispatcher → List UInt8 → Except Fault Packet := dispatchWithin .unlimited

end Dispatcher

end LapTelemetry.Datagram
