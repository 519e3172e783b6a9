import LapTelemetry.Proofs.Datagram.CaptureFrames

/-! # Where a capture comes from

A capture may come in pieces of any sizes, and calls may be interrupted, within a prefix,
within a body or between two frames. Since a run makes but finitely many calls, a list of
turns can be as long as any reader needs it. None of this shows in what is read
(`readSource_turns`): the datagrams are the same, and so is the fault of a capture that
is cut.

A source that fails for good is never mistaken for one that has come to its end. As long
as it fails within the bytes it has, or at the very end of them, each piece is read as a
whole or not at all (`readFrom_of_limited`), and as a reader can tell the end of a capture
only by a call that gives nothing, there is a call that fails. That holds where the
bytes that were given end with a frame, too, so no capture is read as a shorter one. -/

namespace LapTelemetry.Datagram.Capture

open LapTelemetry.Wire

set_option autoImplicit false

/-- What is read from a source that never fails is read from its bytes at once. -/
theorem readSource_unlimited (bytes : List UInt8) (turns : List Turn) :
    readSource ⟨bytes, turns, none⟩ = read bytes := by
  obtain ⟨datagrams, tail, framable, rfl, ending⟩ := exists_framed_append bytes
  rcases ending with rfl | ⟨needed, cut⟩
  · rw [List.append_nil]
    have accepted (turns : List Turn) :
        readSource ⟨framed datagrams, turns, none⟩ = .ok datagrams :=
      (readSource_eq_ok_iff turns).mpr ⟨framable, rfl⟩
    exact (accepted turns).trans (accepted []).symm
  · have refused (turns : List Turn) := readSource_of_cut turns framable rfl cut
    exact (refused turns).trans (refused []).symm

/-- From a source that fails within its bytes nothing can be read. -/
theorem readFrom_of_limited {source : ByteSource} {left : Nat} (offset : Nat)
    (limited : source.allowance = some left) (within : left ≤ source.rest.length) :
    ∃ cause, readFrom offset source = .error (.io .readingCapture cause) := by
  -- on the allowance, of which every frame takes the prefix at least
  induction left using Nat.strongRecOn generalizing offset source with
  | _ left ih =>
    cases filled : source.fill prefixSize with
    | error fault =>
      obtain ⟨⟨cause, rfl⟩, -⟩ := ByteSource.fault_of_fill filled
      exact ⟨cause, readFrom_of_fault offset filled⟩
    | ok result =>
      obtain ⟨head, afterPrefix⟩ := result
      obtain ⟨whole, limitedBehind, withinBehind⟩ :=
        ByteSource.length_of_fill_of_limited limited within filled
      have enough : prefixSize ≤ left := by
        have allowed := (ByteSource.allowance_of_fill filled).2 left limited
        omega
      cases filledBody : afterPrefix.fill (LittleEndian.ofBytes head) with
      | error fault =>
        obtain ⟨⟨cause, rfl⟩, -⟩ := ByteSource.fault_of_fill filledBody
        exact ⟨cause, readFrom_of_failed_body offset whole filled filledBody⟩
      | ok result =>
        obtain ⟨body, after⟩ := result
        obtain ⟨announced, limitedAfter, withinAfter⟩ :=
          ByteSource.length_of_fill_of_limited limitedBehind withinBehind filledBody
        have positive : 0 < prefixSize := by decide
        have fewer : left - prefixSize - LittleEndian.ofBytes head < left := by omega
        obtain ⟨cause, failed⟩ := ih _ fewer _ limitedAfter withinAfter
        refine ⟨cause, ?_⟩
        rw [readFrom_of_whole_body offset whole filled filledBody announced, failed]
        rfl

/-- In what pieces a capture comes, and where calls are interrupted, makes no difference to what is
read; and when the source fails for good before its end could be noticed, that is what is
reported. -/
theorem readSource_turns (bytes : List UInt8) (turns : List Turn) :
    readSource ⟨bytes, turns, none⟩ = read bytes ∧
      ∀ limit ≤ bytes.length, ∃ cause,
        readSource ⟨bytes, turns, some limit⟩ = .error (.io .readingCapture cause) :=
  ⟨readSource_unlimited bytes turns, fun _ within => readFrom_of_limited 0 rfl within⟩

/-- A capture of two datagrams byte by byte, with an interruption in a prefix; and one that fails
between the frames, or at the end. -/
theorem readSource_turns_between :
    let capture : List UInt8 := [1, 0, 0, 0, 8, 2, 0, 0, 0, 8, 9]
    let turns : List Turn := [.give 1, .interrupt, .give 1, .give 1, .give 1, .interrupt]
    readSource ⟨capture, turns, none⟩ = read capture ∧
      (5 ≤ capture.length ∧ ∃ cause,
        readSource ⟨capture, turns, some 5⟩ = .error (.io .readingCapture cause)) ∧
      (11 ≤ capture.length ∧ ∃ cause,
        readSource ⟨capture, turns, some 11⟩ = .error (.io .readingCapture cause)) := by
  intro capture turns
  obtain ⟨same, fails⟩ := readSource_turns capture turns
  have between : 5 ≤ capture.length := by decide
  have atEnd : 11 ≤ capture.length := by decide
  exact ⟨same, ⟨between, fails 5 between⟩, atEnd, fails 11 atEnd⟩

end LapTelemetry.Datagram.Capture
