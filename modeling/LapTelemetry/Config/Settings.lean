import LapTelemetry.Collector
import LapTelemetry.Config.SocketAddress
import LapTelemetry.Spec.Season2021
import LapTelemetry.Text.Blank

/-! # Settings

What a collection runs with: where datagrams are received, by which specification
they are read and in which format they are, how long they may be, and where points
are delivered. Every setting has a standard value. `validate` refuses settings that
nothing can be collected with; of several reasons it names the first. -/

namespace LapTelemetry.Config

open LapTelemetry.Datagram LapTelemetry.Point LapTelemetry.Spec LapTelemetry.Text

set_option autoImplicit false

/-- The settings of a collection. -/
structure Settings where
  listen : SocketAddress
  /-- The path of the specification; the bundled one counts if there is none. -/
  spec : Option String
  /-- The format that datagrams are in. -/
  format : Nat
  /-- The size of the receive buffer in bytes. -/
  maxDatagramSize : Nat
  delivery : Delivery
  deriving DecidableEq, Repr

/-- What yields the content of a path or says why it cannot. -/
abbrev Content (m : Type → Type) := String → m (Except String String)

namespace Settings

/-- The settings that count where nothing else is said. -/
def standard : Settings where
  listen := .anywhere 20777
  spec := none
  format := 2021
  maxDatagramSize := 2048
  delivery := ⟨"f1-telemetry", none, .empty⟩

/-- Why nothing can be collected with the settings, if so. -/
def validate (settings : Settings) : Except Fault Unit :=
  if isBlankText settings.delivery.bucket then .error (.config .emptyBucket)
  else if settings.maxDatagramSize = 0 then .error (.config .zeroDatagramSize)
  else if settings.delivery.tags.entries.any fun tag => isBlankText tag.1 then
    .error (.config .emptyTagKey)
  else .ok ()

/-- The registry of the specification that the settings name. -/
def registry {m : Type → Type} [Monad m] (settings : Settings) (content : Content m) :
    m (Except Fault Registry) := do
  match settings.spec with
  | none => return Registry.compile season2021
  | some path =>
    match ← content path with
    | .ok text => return Registry.compile text
    | .error cause => return .error (.io (.readingSpec path) cause)

/-- A collector by the settings. -/
def collector {m : Type → Type} [Monad m] {σ : Type} (settings : Settings) (content : Content m)
    (sink : σ) : m (Except Fault (Collector σ)) := do
  let registry ← settings.registry content
  return registry.bind fun registry =>
    (Dispatcher.build registry settings.format).map fun dispatcher => .start dispatcher sink

end Settings

end LapTelemetry.Config
