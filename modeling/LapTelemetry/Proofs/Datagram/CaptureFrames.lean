import LapTelemetry.Datagram.Capture
import LapTelemetry.Proofs.Outcome
import LapTelemetry.Proofs.Wire.Filling

/-! # Captures and their frames

A capture consists of frames, and `framed` says what bytes the frames of datagrams are.
Any bytes whatever are the frames of datagrams, in one way only, and behind them a tail
that is no whole frame: it is empty, or it ends inside of a length prefix or of a body
(`Cut`, `exists_framed_append`).

What a source that never fails is read as follows from the frames and the tail alone,
whatever its turns are (`readFrom_framed_append`): the datagrams if the tail is empty,
and otherwise a fault that says where the piece that is cut should have ended. A reader
stops at the first frame that is not whole and nowhere else, as a body that happens to
be empty is not the end of a capture, nor is a tail of a few bytes.

Datagrams are written as their frames and nothing else (`write_eq_ok_iff`), so what is
written reads back, and what can be read is what would be written
(`read_writeTo`). -/

namespace LapTelemetry.Datagram.Capture

open LapTelemetry.Number LapTelemetry.Wire

set_option autoImplicit false

/-! ## Frames -/

/-- A datagram has a frame if its length fits the prefix. -/
def Framable (datagram : List UInt8) : Prop := datagram.length < pow2 (8 * prefixSize)

/-- The frames of datagrams, one behind the other. -/
def framed (datagrams : List (List UInt8)) : List UInt8 :=
  datagrams.flatMap fun datagram => LittleEndian.toBytes prefixSize datagram.length ++ datagram

/-- Bytes that end inside of a frame, and how many there should be: the prefix if it is not
whole, and otherwise the prefix and the body that it announces. -/
inductive Cut : List UInt8 → Nat → Prop where
  | inPrefix {tail : List UInt8} (begun : tail ≠ []) (short : tail.length < prefixSize) :
      Cut tail prefixSize
  | inBody {head body : List UInt8} (whole : head.length = prefixSize)
      (short : body.length < LittleEndian.ofBytes head) :
      Cut (head ++ body) (prefixSize + LittleEndian.ofBytes head)

instance (datagram : List UInt8) : Decidable (Framable datagram) :=
  inferInstanceAs (Decidable (datagram.length < pow2 (8 * prefixSize)))

variable {datagram : List UInt8} {datagrams : List (List UInt8)} {bytes tail : List UInt8}
  {needed : Nat}

theorem framed_cons (datagram : List UInt8) (others : List (List UInt8)) :
    framed (datagram :: others) =
      LittleEndian.toBytes prefixSize datagram.length ++ (datagram ++ framed others) := by
  simp only [framed, List.flatMap_cons, List.append_assoc]

theorem framed_append (front back : List (List UInt8)) :
    framed (front ++ back) = framed front ++ framed back :=
  List.flatMap_append

theorem length_framed_cons (datagram : List UInt8) (others : List (List UInt8)) :
    (framed (datagram :: others)).length =
      prefixSize + datagram.length + (framed others).length := by
  rw [framed_cons]
  simp only [List.length_append, LittleEndian.length_toBytes, Nat.add_assoc]

/-- A cut tail is shorter than it should be, and not empty. -/
theorem Cut.bounds (cut : Cut tail needed) : 0 < tail.length ∧ tail.length < needed := by
  cases cut with
  | inPrefix begun short => exact ⟨List.length_pos_iff.mpr begun, short⟩
  | inBody whole short =>
    rw [List.length_append, whole]
    have positive : 0 < prefixSize := by decide
    omega

/-- A body with its prefix is the frame of the body, if the prefix tells its length. -/
theorem framable_and_prefix_of_announced {head body : List UInt8}
    (whole : head.length = prefixSize) (announced : body.length = LittleEndian.ofBytes head) :
    Framable body ∧ head = LittleEndian.toBytes prefixSize body.length := by
  refine ⟨?_, ?_⟩
  · show body.length < pow2 (8 * prefixSize)
    rw [announced, ← whole]
    exact LittleEndian.ofBytes_lt head
  · rw [announced, ← whole]
    exact (LittleEndian.toBytes_ofBytes head).symm

/-- Any bytes are frames of datagrams and a tail that is empty or cut. -/
theorem exists_framed_append (bytes : List UInt8) :
    ∃ datagrams tail, (∀ datagram ∈ datagrams, Framable datagram) ∧
      bytes = framed datagrams ++ tail ∧ (tail = [] ∨ ∃ needed, Cut tail needed) := by
  -- on the length, as a frame may take any number of bytes from the front
  induction size : bytes.length using Nat.strongRecOn generalizing bytes with
  | _ size ih =>
    subst size
    have nothing {datagram : List UInt8} (member : datagram ∈ ([] : List (List UInt8))) :
        Framable datagram := absurd member List.not_mem_nil
    by_cases short : bytes.length < prefixSize
    · by_cases ended : bytes = []
      · exact ⟨[], [], fun _ => nothing, ended, .inl rfl⟩
      · exact ⟨[], bytes, fun _ => nothing, rfl, .inr ⟨_, .inPrefix ended short⟩⟩
    · let head := bytes.take prefixSize
      let behind := bytes.drop prefixSize
      have made : bytes = head ++ behind := (List.take_append_drop prefixSize bytes).symm
      have whole : head.length = prefixSize := by
        rw [List.length_take]
        omega
      by_cases cut : behind.length < LittleEndian.ofBytes head
      · exact ⟨[], head ++ behind, fun _ => nothing, made, .inr ⟨_, .inBody whole cut⟩⟩
      · let body := behind.take (LittleEndian.ofBytes head)
        let rest := behind.drop (LittleEndian.ofBytes head)
        have split : behind = body ++ rest := (List.take_append_drop _ behind).symm
        have announced : body.length = LittleEndian.ofBytes head := by
          rw [List.length_take]
          omega
        have shorter : rest.length < bytes.length := by
          rw [made, split, List.length_append, List.length_append, whole]
          have positive : 0 < prefixSize := by decide
          omega
        obtain ⟨framable, frame⟩ := framable_and_prefix_of_announced whole announced
        obtain ⟨datagrams, tail, each, same, ending⟩ := ih rest.length shorter rest rfl
        refine ⟨body :: datagrams, tail, ?_, ?_, ending⟩
        · intro datagram member
          rcases List.mem_cons.mp member with rfl | other
          · exact framable
          · exact each datagram other
        · rw [framed_cons, ← frame, List.append_assoc, List.append_assoc, ← same, ← split]
          exact made

/-! ## Writing -/

/-- Datagrams are written as their frames, if they all have one. -/
theorem write_eq_ok_iff : write datagrams = .ok bytes ↔
    (∀ datagram ∈ datagrams, Framable datagram) ∧ bytes = framed datagrams := by
  induction datagrams generalizing bytes with
  | nil => simp [write, framed, eq_comm]
  | cons datagram others ih =>
    rw [write, framed_cons]
    by_cases fits : Framable datagram
    · have own : frame datagram =
          .ok (LittleEndian.toBytes prefixSize datagram.length ++ datagram) := if_pos fits
      rw [own, List.forall_mem_cons]
      constructor
      · intro written
        obtain ⟨first, same, written⟩ := bind_eq_ok.mp written
        obtain ⟨behind, rest, written⟩ := bind_eq_ok.mp written
        obtain ⟨each, rfl⟩ := ih.mp rest
        cases same
        cases written
        exact ⟨⟨fits, each⟩, List.append_assoc _ _ _⟩
      · rintro ⟨⟨-, each⟩, rfl⟩
        have rest : write others = .ok (framed others) := ih.mpr ⟨each, rfl⟩
        refine bind_eq_ok.mpr ⟨_, rfl, bind_eq_ok.mpr ⟨_, rest, ?_⟩⟩
        rw [List.append_assoc]
        rfl
    · have refused : frame datagram = .error (.config (.oversizedDatagram datagram.length)) :=
        if_neg fits
      rw [refused, List.forall_mem_cons]
      constructor
      · intro written
        cases written
      · rintro ⟨⟨held, -⟩, -⟩
        exact absurd held fits

/-- Where everything arrives, the capture arrives. -/
theorem writeTo_sound (datagrams : List (List UInt8)) :
    writeTo .sound datagrams = write datagrams := by
  unfold writeTo
  cases write datagrams with
  | error fault => rfl
  | ok bytes => rfl

/-! ## Reading -/

section Pieces

variable {source afterPrefix after : ByteSource} {head body : List UInt8} {fault : Fault}

/-- How the rest of a source is read, piece by piece. -/
theorem readFrom_eq (offset : Nat) (source : ByteSource) :
    readFrom offset source =
      match source.fill prefixSize with
      | .error fault => .error fault
      | .ok (head, afterPrefix) =>
        let start := offset + prefixSize
        let size := LittleEndian.ofBytes head
        if head = [] then .ok []
        else if head.length < prefixSize then .error (.truncated start (offset + head.length))
        else
          match afterPrefix.fill size with
          | .error fault => .error fault
          | .ok (body, after) =>
            if body.length < size then .error (.truncated (start + size) (start + body.length))
            else (readFrom (start + size) after).map (body :: ·) := by
  rw [readFrom]
  split
  · next failed => rw [failed]
  · next ended => rw [ended]; rfl
  · next first more afterPrefix filled =>
    rw [filled]
    dsimp only
    rw [if_neg (List.cons_ne_nil first more)]
    split
    · rfl
    · split
      · next failed => rw [failed]
      · next filledBody => rw [filledBody]

theorem readFrom_of_fault (offset : Nat) (failed : source.fill prefixSize = .error fault) :
    readFrom offset source = .error fault := by
  rw [readFrom_eq, failed]

theorem readFrom_of_end (offset : Nat) (ended : source.fill prefixSize = .ok ([], after)) :
    readFrom offset source = .ok [] := by
  rw [readFrom_eq, ended]
  exact if_pos rfl

theorem readFrom_of_short_prefix (offset : Nat) (begun : head ≠ [])
    (filled : source.fill prefixSize = .ok (head, afterPrefix))
    (short : head.length < prefixSize) :
    readFrom offset source =
      .error (.truncated (offset + prefixSize) (offset + head.length)) := by
  rw [readFrom_eq, filled]
  dsimp only
  rw [if_neg begun, if_pos short]

/-- Behind a whole prefix the body is asked for that the prefix announces. -/
theorem readFrom_of_head (offset : Nat) (whole : head.length = prefixSize)
    (filled : source.fill prefixSize = .ok (head, afterPrefix)) :
    readFrom offset source =
      match afterPrefix.fill (LittleEndian.ofBytes head) with
      | .error fault => .error fault
      | .ok (body, after) =>
        let stop := offset + prefixSize + LittleEndian.ofBytes head
        if body.length < LittleEndian.ofBytes head then
          .error (.truncated stop (offset + prefixSize + body.length))
        else (readFrom stop after).map (body :: ·) := by
  have begun : head ≠ [] := by
    intro nothing
    rw [nothing] at whole
    cases whole
  have complete : ¬ head.length < prefixSize := by omega
  rw [readFrom_eq, filled]
  dsimp only
  rw [if_neg begun, if_neg complete]

theorem readFrom_of_failed_body (offset : Nat) (whole : head.length = prefixSize)
    (filled : source.fill prefixSize = .ok (head, afterPrefix))
    (failed : afterPrefix.fill (LittleEndian.ofBytes head) = .error fault) :
    readFrom offset source = .error fault := by
  rw [readFrom_of_head offset whole filled, failed]

theorem readFrom_of_short_body (offset : Nat) (whole : head.length = prefixSize)
    (filled : source.fill prefixSize = .ok (head, afterPrefix))
    (filledBody : afterPrefix.fill (LittleEndian.ofBytes head) = .ok (body, after))
    (short : body.length < LittleEndian.ofBytes head) :
    readFrom offset source =
      .error (.truncated (offset + prefixSize + LittleEndian.ofBytes head)
        (offset + prefixSize + body.length)) := by
  rw [readFrom_of_head offset whole filled, filledBody]
  exact if_pos short

theorem readFrom_of_whole_body (offset : Nat) (whole : head.length = prefixSize)
    (filled : source.fill prefixSize = .ok (head, afterPrefix))
    (filledBody : afterPrefix.fill (LittleEndian.ofBytes head) = .ok (body, after))
    (announced : body.length = LittleEndian.ofBytes head) :
    readFrom offset source =
      (readFrom (offset + prefixSize + body.length) after).map (body :: ·) := by
  rw [readFrom_of_head offset whole filled, filledBody, announced]
  exact if_neg (Nat.not_lt.mpr (Nat.le_of_eq announced.symm))

end Pieces

section Unfailing

variable {source : ByteSource} (unlimited : source.allowance = none)

include unlimited

theorem readFrom_end (offset : Nat) (ended : source.rest = []) :
    readFrom offset source = .ok [] := by
  obtain ⟨after, filled, -, -⟩ := ByteSource.fill_of_unlimited unlimited prefixSize
  rw [ended] at filled
  exact readFrom_of_end offset filled

/-- Where a frame is cut the fault tells where it should have ended. -/
theorem readFrom_cut (offset : Nat) (cut : Cut source.rest needed) :
    readFrom offset source =
      .error (.truncated (offset + needed) (offset + source.rest.length)) := by
  obtain ⟨afterPrefix, filled, behind, unlimitedBehind⟩ :=
    ByteSource.fill_of_unlimited unlimited prefixSize
  generalize source.rest = tail at cut filled behind ⊢
  cases cut with
  | inPrefix begun short =>
    rw [List.take_of_length_le (Nat.le_of_lt short)] at filled
    exact readFrom_of_short_prefix offset begun filled short
  | @inBody head body whole short =>
    rw [List.take_left' whole] at filled
    rw [List.drop_left' whole] at behind
    obtain ⟨after, filledBody, -, -⟩ :=
      ByteSource.fill_of_unlimited unlimitedBehind (LittleEndian.ofBytes head)
    rw [behind, List.take_of_length_le (Nat.le_of_lt short)] at filledBody
    rw [readFrom_of_short_body offset whole filled filledBody short, List.length_append, whole,
      Nat.add_assoc, Nat.add_assoc]

/-- A whole frame is read, and what comes behind it is read by itself. -/
theorem readFrom_frame (offset : Nat) {more : List UInt8} (framable : Framable datagram)
    (held : source.rest =
      LittleEndian.toBytes prefixSize datagram.length ++ (datagram ++ more)) :
    ∃ after : ByteSource, after.rest = more ∧ after.allowance = none ∧
      readFrom offset source =
        (readFrom (offset + prefixSize + datagram.length) after).map (datagram :: ·) := by
  have whole : (LittleEndian.toBytes prefixSize datagram.length).length = prefixSize :=
    LittleEndian.length_toBytes _ _
  have announced := LittleEndian.ofBytes_toBytes framable
  obtain ⟨afterPrefix, filled, behind, unlimitedBehind⟩ :=
    ByteSource.fill_of_unlimited unlimited prefixSize
  rw [held, List.take_left' whole] at filled
  rw [held, List.drop_left' whole] at behind
  obtain ⟨after, filledBody, rest, unlimitedAfter⟩ :=
    ByteSource.fill_of_unlimited unlimitedBehind datagram.length
  rw [behind, List.take_left] at filledBody
  rw [behind, List.drop_left] at rest
  rw [← announced] at filledBody
  exact ⟨after, rest, unlimitedAfter,
    readFrom_of_whole_body offset whole filled filledBody announced.symm⟩

end Unfailing

/-- What a source that never fails is read as hangs on nothing but its bytes. -/
theorem readFrom_framed_append (source : ByteSource) (offset : Nat)
    (unlimited : source.allowance = none) (each : ∀ datagram ∈ datagrams, Framable datagram)
    (held : source.rest = framed datagrams ++ tail) :
    (tail = [] → readFrom offset source = .ok datagrams) ∧
      ∀ needed, Cut tail needed → readFrom offset source =
        .error (.truncated (offset + (framed datagrams).length + needed)
          (offset + source.rest.length)) := by
  induction datagrams generalizing offset source with
  | nil =>
    have same : source.rest = tail := held
    constructor
    · intro ended
      exact readFrom_end unlimited offset (same.trans ended)
    · intro needed cut
      exact readFrom_cut unlimited offset (same ▸ cut)
  | cons datagram others ih =>
    obtain ⟨framable, rest⟩ := List.forall_mem_cons.mp each
    have total : source.rest.length =
        prefixSize + datagram.length + (framed others ++ tail).length := by
      rw [held, List.length_append, length_framed_cons, List.length_append, Nat.add_assoc]
    rw [framed_cons, List.append_assoc, List.append_assoc] at held
    obtain ⟨after, behind, unlimitedAfter, read⟩ := readFrom_frame unlimited offset framable held
    obtain ⟨whole, cutShort⟩ :=
      ih after (offset + prefixSize + datagram.length) unlimitedAfter rest behind
    rw [read]
    constructor
    · intro ended
      rw [whole ended]
      rfl
    · intro needed cut
      rw [cutShort needed cut, behind, total, length_framed_cons]
      show Except.error _ = Except.error _
      congr 2
      · omega
      · omega

/-- Bytes that are frames and nothing more are read as their datagrams, and no others are. -/
theorem readSource_eq_ok_iff (turns : List Turn) : readSource ⟨bytes, turns, none⟩ = .ok datagrams ↔
    (∀ datagram ∈ datagrams, Framable datagram) ∧ bytes = framed datagrams := by
  constructor
  · intro read
    obtain ⟨found, tail, framable, held, ending⟩ := exists_framed_append bytes
    obtain ⟨whole, cutShort⟩ :=
      readFrom_framed_append ⟨bytes, turns, none⟩ 0 rfl framable held
    rcases ending with rfl | ⟨needed, cut⟩
    · have same : found = datagrams := Except.ok.inj ((whole rfl).symm.trans read)
      rw [List.append_nil] at held
      exact ⟨same ▸ framable, same ▸ held⟩
    · have refused := (cutShort needed cut).symm.trans read
      cases refused
  · rintro ⟨framable, rfl⟩
    have held : framed datagrams = framed datagrams ++ [] := (List.append_nil _).symm
    exact (readFrom_framed_append ⟨framed datagrams, turns, none⟩ 0 rfl framable held).1 rfl

/-- Bytes that end inside of a frame are refused with their number and the end of what is cut. -/
theorem readSource_of_cut (turns : List Turn)
    (framable : ∀ datagram ∈ datagrams, Framable datagram) (held : bytes = framed datagrams ++ tail)
    (cut : Cut tail needed) : readSource ⟨bytes, turns, none⟩ =
      .error (.truncated ((framed datagrams).length + needed) bytes.length) := by
  have refused :=
    (readFrom_framed_append ⟨bytes, turns, none⟩ 0 rfl framable held).2 needed cut
  rw [Nat.zero_add, Nat.zero_add] at refused
  exact refused

/-! ## There and back -/

/-- A capture reads as the datagrams it was written from, and datagrams that were read are written
as the capture they were read from. -/
theorem writeTo_read :
    (∀ datagrams : List (List UInt8), (∀ datagram ∈ datagrams, datagram.length < pow2 32) →
      ∃ capture, writeTo .sound datagrams = .ok capture ∧ read capture = .ok datagrams) ∧
    ∀ (bytes : List UInt8) (datagrams : List (List UInt8)), read bytes = .ok datagrams →
      writeTo .sound datagrams = .ok bytes := by
  constructor
  · intro datagrams each
    have framable : ∀ datagram ∈ datagrams, Framable datagram := each
    refine ⟨framed datagrams, ?_, ?_⟩
    · rw [writeTo_sound]
      exact write_eq_ok_iff.mpr ⟨framable, rfl⟩
    · exact (readSource_eq_ok_iff []).mpr ⟨framable, rfl⟩
  · intro bytes datagrams read
    rw [writeTo_sound]
    exact write_eq_ok_iff.mpr ((readSource_eq_ok_iff []).mp read)

/-- Three datagrams, of which one is empty. -/
theorem writeTo_read_empty :
    let datagrams : List (List UInt8) := [[1, 2, 3], [], [7]]
    let capture : List UInt8 := [3, 0, 0, 0, 1, 2, 3, 0, 0, 0, 0, 1, 0, 0, 0, 7]
    (∀ datagram ∈ datagrams, datagram.length < pow2 32) ∧ read capture = .ok datagrams ∧
      writeTo .sound datagrams = .ok capture := by
  intro datagrams capture
  have short : ∀ datagram ∈ datagrams, datagram.length < pow2 32 := by decide
  obtain ⟨written, wroteAgain⟩ := writeTo_read
  obtain ⟨bytes, wrote, read⟩ := written datagrams short
  have same : writeTo .sound datagrams = .ok capture := rfl
  have bytesSame : bytes = capture := Except.ok.inj (wrote.symm.trans same)
  rw [bytesSame] at read
  exact ⟨short, read, wroteAgain capture datagrams read⟩

end LapTelemetry.Datagram.Capture
