import LapTelemetry.Proofs.Datagram.CaptureFrames

/-! # Captures that are cut

A capture that is cut behind a frame is the capture of the datagrams before the cut. One
that is cut anywhere else ends inside of a frame (`boundary_or_inside`), and what is left
of that frame is a tail that is cut (`exists_cut_of_inside`).

For any bytes whatever, and for the rest of a capture too, reading comes to one of two
ends (`readSource_settled`). Bytes that are frames and nothing more are read as their
datagrams. Of others the fault tells how many there are and where the first frame that
is not whole should have ended, as far as this can be known: the end of its prefix if the
prefix is cut, and the end of the body that a whole prefix announces, which may lie
thousands of millions of bytes behind the last one there is. -/

namespace LapTelemetry.Datagram.Capture

open LapTelemetry.Number LapTelemetry.Wire

set_option autoImplicit false

variable {datagram : List UInt8} {datagrams : List (List UInt8)} {bytes tail : List UInt8}
  {needed cut : Nat}

/-! ## Places in a capture -/

/-- A place in a capture is the end of a frame or lies inside of one. -/
theorem boundary_or_inside (within : cut ≤ (framed datagrams).length) :
    (∃ count ≤ datagrams.length, cut = (framed (datagrams.take count)).length) ∨
      ∃ front datagram back, datagrams = front ++ datagram :: back ∧
        (framed front).length < cut ∧
        cut < (framed front).length + prefixSize + datagram.length := by
  induction datagrams generalizing cut with
  | nil => exact .inl ⟨0, Nat.le_refl 0, Nat.le_zero.mp within⟩
  | cons datagram others ih =>
    rw [length_framed_cons] at within
    -- before the first frame, inside of it, or behind it among the others
    rcases Nat.eq_zero_or_pos cut with atStart | positive
    · exact .inl ⟨0, Nat.zero_le _, atStart⟩
    rcases Nat.lt_or_ge cut (prefixSize + datagram.length) with early | late
    · refine .inr ⟨[], datagram, others, rfl, positive, ?_⟩
      show cut < 0 + prefixSize + datagram.length
      omega
    · have behind : cut - (prefixSize + datagram.length) ≤ (framed others).length := by omega
      rcases ih behind with ⟨count, few, place⟩ | ⟨front, inner, back, rfl, start, stop⟩
      · refine .inl ⟨count + 1, Nat.succ_le_succ few, ?_⟩
        rw [List.take_succ_cons, length_framed_cons]
        omega
      · refine .inr ⟨datagram :: front, inner, back, rfl, ?_, ?_⟩
        · rw [length_framed_cons]
          omega
        · rw [length_framed_cons]
          omega

/-- A part of a frame, neither empty nor whole, is a tail that is cut. -/
theorem exists_cut_of_inside {count : Nat} (framable : Framable datagram) (positive : 0 < count)
    (inside : count < prefixSize + datagram.length) :
    ∃ needed,
      Cut ((LittleEndian.toBytes prefixSize datagram.length ++ datagram).take count) needed := by
  have whole : (LittleEndian.toBytes prefixSize datagram.length).length = prefixSize :=
    LittleEndian.length_toBytes _ _
  rcases Nat.lt_or_ge count prefixSize with early | late
  · refine ⟨_, .inPrefix ?_ ?_⟩
    · intro nothing
      have empty := congrArg List.length nothing
      rw [List.length_take, List.length_append, whole] at empty
      simp only [List.length_nil] at empty
      omega
    · rw [List.length_take]
      omega
  · have announced := LittleEndian.ofBytes_toBytes framable
    rw [List.take_append, List.take_of_length_le (whole ▸ late), whole]
    refine ⟨_, .inBody whole ?_⟩
    rw [announced, List.length_take]
    omega

/-- The part of a capture that ends behind a frame. -/
theorem take_framed_boundary (datagrams : List (List UInt8)) (count : Nat) :
    (framed datagrams).take (framed (datagrams.take count)).length =
      framed (datagrams.take count) := by
  have split : framed datagrams =
      framed (datagrams.take count) ++ framed (datagrams.drop count) := by
    rw [← framed_append, List.take_append_drop]
  calc (framed datagrams).take (framed (datagrams.take count)).length
      = (framed (datagrams.take count) ++ framed (datagrams.drop count)).take
          (framed (datagrams.take count)).length := by rw [← split]
    _ = framed (datagrams.take count) := List.take_left

/-- The part of a capture that ends inside of a frame: the frames before it, and a tail. -/
theorem exists_take_framed_inside {front : List (List UInt8)} (back : List (List UInt8))
    (framable : Framable datagram)
    (start : (framed front).length < cut)
    (stop : cut < (framed front).length + prefixSize + datagram.length) :
    ∃ tail needed, (framed (front ++ datagram :: back)).take cut = framed front ++ tail ∧
      Cut tail needed := by
  have positive : 0 < cut - (framed front).length := by omega
  have inside : cut - (framed front).length < prefixSize + datagram.length := by omega
  obtain ⟨needed, cutShort⟩ := exists_cut_of_inside framable positive inside
  refine ⟨_, needed, ?_, cutShort⟩
  have shorter : cut - (framed front).length ≤
      (LittleEndian.toBytes prefixSize datagram.length ++ datagram).length := by
    rw [List.length_append, LittleEndian.length_toBytes]
    omega
  rw [framed_append, List.take_append, List.take_of_length_le (Nat.le_of_lt start), framed_cons,
    ← List.append_assoc, List.take_append_of_le_length shorter]

/-! ## Reading what is there -/

/-- Whatever the bytes are, a source that gives them is read as the datagrams of which they are the
frames, or refused for the first frame that is not whole; so a capture that is cut behind a frame
is read as the datagrams before the cut, and one that is cut elsewhere is refused. -/
theorem readSource_settled (bytes : List UInt8) (turns : List Turn) :
    let result := readSource ⟨bytes, turns, none⟩
    ((∃ datagrams, (∀ datagram ∈ datagrams, Framable datagram) ∧ bytes = framed datagrams ∧
        result = .ok datagrams) ∨
      ∃ datagrams tail needed, (∀ datagram ∈ datagrams, Framable datagram) ∧
        bytes = framed datagrams ++ tail ∧ Cut tail needed ∧
        bytes.length < (framed datagrams).length + needed ∧
        result = .error (.truncated ((framed datagrams).length + needed) bytes.length)) ∧
    (∀ datagrams, result = .ok datagrams ↔
      (∀ datagram ∈ datagrams, Framable datagram) ∧ bytes = framed datagrams) ∧
    ∀ datagrams, result = .ok datagrams → ∀ cut ≤ bytes.length,
      let part := readSource ⟨bytes.take cut, turns, none⟩
      (∀ count, cut = (framed (datagrams.take count)).length → part = .ok (datagrams.take count)) ∧
      ((∀ count ≤ datagrams.length, cut ≠ (framed (datagrams.take count)).length) →
        ∃ needed, cut < needed ∧ part = .error (.truncated needed cut)) := by
  intro result
  refine ⟨?_, fun datagrams => readSource_eq_ok_iff turns, ?_⟩
  · obtain ⟨datagrams, tail, framable, held, ending⟩ := exists_framed_append bytes
    rcases ending with rfl | ⟨needed, cut⟩
    · rw [List.append_nil] at held
      exact .inl ⟨datagrams, framable, held, (readSource_eq_ok_iff turns).mpr ⟨framable, held⟩⟩
    · have beyond : bytes.length < (framed datagrams).length + needed := by
        rw [held, List.length_append]
        exact Nat.add_lt_add_left cut.bounds.2 _
      exact .inr ⟨datagrams, tail, needed, framable, held, cut, beyond,
        readSource_of_cut turns framable held cut⟩
  · intro datagrams read cut within part
    obtain ⟨framable, rfl⟩ := (readSource_eq_ok_iff turns).mp read
    constructor
    · intro count place
      have before : ∀ datagram ∈ datagrams.take count, Framable datagram :=
        fun datagram member => framable datagram (List.mem_of_mem_take member)
      refine (readSource_eq_ok_iff turns).mpr ⟨before, ?_⟩
      rw [place]
      exact take_framed_boundary datagrams count
    · intro nowhere
      rcases boundary_or_inside within with ⟨count, few, place⟩ | inside
      · exact absurd place (nowhere count few)
      obtain ⟨front, datagram, back, rfl, start, stop⟩ := inside
      have own : Framable datagram :=
        framable datagram (List.mem_append_right _ List.mem_cons_self)
      have before : ∀ datagram ∈ front, Framable datagram :=
        fun datagram member => framable datagram (List.mem_append_left _ member)
      obtain ⟨tail, needed, held, cutShort⟩ :=
        exists_take_framed_inside back own start stop
      have size : ((framed (front ++ datagram :: back)).take cut).length = cut :=
        List.length_take_of_le within
      have refused := readSource_of_cut turns before held cutShort
      rw [size] at refused
      refine ⟨_, ?_, refused⟩
      have made := congrArg List.length held
      rw [size, List.length_append] at made
      have short := cutShort.bounds.2
      omega

/-- Three datagrams, of which one is empty: a cut behind the empty one, and one in its prefix. -/
theorem readSource_settled_empty :
    let datagrams : List (List UInt8) := [[1, 2, 3], [], [7]]
    let capture : List UInt8 := [3, 0, 0, 0, 1, 2, 3, 0, 0, 0, 0, 1, 0, 0, 0, 7]
    let turns : List Turn := [.give 2, .interrupt, .give 3]
    readSource ⟨capture, turns, none⟩ = .ok datagrams ∧
      readSource ⟨capture.take 11, turns, none⟩ = .ok [[1, 2, 3], []] ∧
      ∃ needed, 9 < needed ∧
        readSource ⟨capture.take 9, turns, none⟩ = .error (.truncated needed 9) := by
  intro datagrams capture turns
  obtain ⟨-, accepted, cuts⟩ := readSource_settled capture turns
  have read : readSource ⟨capture, turns, none⟩ = .ok datagrams :=
    (accepted datagrams).mpr ⟨by decide, by decide⟩
  obtain ⟨behind, -⟩ := cuts datagrams read 11 (by decide)
  obtain ⟨-, inside⟩ := cuts datagrams read 9 (by decide)
  exact ⟨read, behind 2 (by decide), inside (by decide)⟩

end LapTelemetry.Datagram.Capture
