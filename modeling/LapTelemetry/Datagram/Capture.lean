import LapTelemetry.Wire.ByteSource
import LapTelemetry.Wire.LittleEndian
import LapTelemetry.Wire.Medium
import LapTelemetry.Number.Power

/-! # Captures of datagrams

A capture is a row of frames. A frame is the length of a datagram in four
little-endian bytes and then the datagram, so a datagram of 2 ^ 32 bytes or more
has no frame. A capture may end after any frame; one that ends inside a prefix or
a body is truncated, and the fault tells how many bytes there should have been and
how many there were. -/

namespace LapTelemetry.Datagram.Capture

open LapTelemetry.Number LapTelemetry.Wire

set_option autoImplicit false

/-- The size of a length prefix. -/
def prefixSize : Nat := 4

/-- The frame of a datagram. -/
def frame (datagram : List UInt8) : Except Fault (List UInt8) :=
  if datagram.length < pow2 (8 * prefixSize) then
    .ok (LittleEndian.toBytes prefixSize datagram.length ++ datagram)
  else .error (.config (.oversizedDatagram datagram.length))

/-- The capture of datagrams. -/
def write : List (List UInt8) → Except Fault (List UInt8)
  | [] => .ok []
  | datagram :: others => do
    let first ← frame datagram
    return first ++ (← write others)

/-- Hand the capture of datagrams to a medium. -/
def writeTo (medium : Medium) (datagrams : List (List UInt8)) : Except Fault (List UInt8) := do
  let bytes ← write datagrams
  if medium.vouches bytes then return medium.hold [] bytes
  else throw (.io .writingCapture medium.complaint)

/-- The datagrams in the rest of a source that comes after `offset` bytes. -/
def readFrom (offset : Nat) (source : ByteSource) : Except Fault (List (List UInt8)) :=
  match _ : source.fill prefixSize with
  | .error fault => .error fault
  | .ok ([], _) => .ok []
  | .ok (first :: more, afterPrefix) =>
    let head := first :: more
    if head.length < prefixSize then
      .error (.truncated (offset + prefixSize) (offset + head.length))
    else
      let start := offset + prefixSize
      let size := LittleEndian.ofBytes head
      match _ : afterPrefix.fill size with
      | .error fault => .error fault
      | .ok (body, after) =>
        if body.length < size then .error (.truncated (start + size) (start + body.length))
        else (readFrom (start + size) after).map (body :: ·)
termination_by source.rest.length
decreasing_by
  rw [(ByteSource.rest_of_fill ‹source.fill prefixSize = _›).1,
    (ByteSource.rest_of_fill ‹afterPrefix.fill size = _›).1]
  simp only [List.length_append, List.length_cons]
  omega

/-- The datagrams of a capture that comes from a source. -/
def readSource (source : ByteSource) : Except Fault (List (List UInt8)) := readFrom 0 source

/-- The datagrams of a capture. -/
def read (bytes : List UInt8) : Except Fault (List (List UInt8)) := readSource (.whole bytes)

/-- The datagrams of a capture at a path; `content` yields what a path holds or says
why it cannot. -/
def load {m : Type → Type} [Monad m] (content : String → m (Except String (List UInt8)))
    (path : String) : m (Except Fault (List (List UInt8))) := do
  match ← content path with
  | .ok bytes => return read bytes
  | .error cause => return .error (.io (.openingCapture path) cause)

end LapTelemetry.Datagram.Capture
