import LapTelemetry.Point.LineProtocol
import LapTelemetry.Wire.Medium

/-! # Sinks

A sink takes writes one after the other. Each write may fail, and the outcome may
depend on everything the sink has seen before: a sink is a step on a state of its
own, and nothing else is assumed of it. Three sinks come with the library: one
that remembers every write, one that accepts none, and one that writes lines to a
text. -/

namespace LapTelemetry.Point

open LapTelemetry.Wire

set_option autoImplicit false

/-- What takes writes; `σ` is what it remembers. -/
structure Sink (σ : Type) where
  attempt : σ → Write → Except Fault Unit × σ

namespace Sink

/-- Remember every write in order. -/
def memory : Sink (List Write) := ⟨fun seen write => (.ok (), seen ++ [write])⟩

/-- Accept nothing. -/
def failing : Sink Unit := ⟨fun _ _ => (.error (.sink (.described "unreachable" none)), ())⟩

end Sink

/-- The text written so far, and how often the clock has been read. -/
structure Journal where
  text : List Char
  readings : Nat
  deriving DecidableEq, Repr

def Journal.empty : Journal := ⟨[], 0⟩

namespace Sink

/-- Write a line for each point, with the time that the clock shows at the n-th
reading. A write that fails half way may have left its line behind. -/
def lines (delivery : Delivery) (medium : Medium) (clock : Nat → Int) : Sink Journal :=
  ⟨fun journal write =>
    let read := { journal with readings := journal.readings + 1 }
    match LineProtocol.line delivery.pointTags (write.pointAt (clock journal.readings)) with
    | .error fault => (.error fault, read)
    | .ok line =>
      let output := line ++ ['\n']
      let written := { read with text := medium.hold journal.text output }
      if medium.vouches output then (.ok (), written)
      else (.error (.sink (.writeFailed medium.complaint)), written)⟩

end Sink

end LapTelemetry.Point
