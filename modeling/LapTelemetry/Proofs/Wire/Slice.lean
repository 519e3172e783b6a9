import LapTelemetry.Wire.Layout.Pack

/-! # Pieces of byte strings

A `slice` is what stands in a byte string from a position on, a `splice` a byte
string with bytes written over it. Slices and splices that follow each other join
(`slice_append`, `splice_append`), and of two fronts written at one place the longer
remains (`splice_take`). -/

namespace LapTelemetry.Wire

set_option autoImplicit false

/-! ## Slices -/

/-- So many bytes are there from a position on. -/
def Reaches (data : List UInt8) (position width : Nat) : Prop :=
  width = 0 ∨ position + width ≤ data.length

namespace Reaches

variable {data : List UInt8} {position first second : Nat}

theorem front (reaches : Reaches data position (first + second)) : Reaches data position first := by
  unfold Reaches at reaches ⊢
  omega

theorem back (reaches : Reaches data position (first + second)) :
    Reaches data (position + first) second := by
  unfold Reaches at reaches ⊢
  omega

theorem mono (reaches : Reaches data position second) (fewer : first ≤ second) :
    Reaches data position first := by
  unfold Reaches at reaches ⊢
  omega

theorem append (front : Reaches data position first)
    (back : Reaches data (position + first) second) :
    Reaches data position (first + second) := by
  unfold Reaches at front back ⊢
  omega

end Reaches

/-- The bytes from a position on, as many as are wanted and there. -/
def slice (data : List UInt8) (position width : Nat) : List UInt8 := (data.drop position).take width

@[simp] theorem slice_zero (data : List UInt8) (position : Nat) : slice data position 0 = [] :=
  List.take_zero

theorem slice_whole (data : List UInt8) : slice data 0 data.length = data := by
  rw [slice, List.drop_zero, List.take_length]

theorem length_slice {data : List UInt8} {position width : Nat}
    (reaches : Reaches data position width) : (slice data position width).length = width := by
  rw [slice, List.length_take, List.length_drop]
  unfold Reaches at reaches
  omega

theorem slice_append (data : List UInt8) (position first second : Nat) :
    slice data position first ++ slice data (position + first) second =
      slice data position (first + second) := by
  simp only [slice]
  rw [← List.drop_drop, List.take_add]

theorem slice_eq_append_iff {data front back : List UInt8} {position first second : Nat}
    (length : front.length = first) :
    slice data position (first + second) = front ++ back ↔
      slice data position first = front ∧ slice data (position + first) second = back := by
  constructor
  · intro same
    have fronts : slice data position first = front := by
      have cut := congrArg (List.take first) same
      rw [slice, List.take_take, Nat.min_eq_left (Nat.le_add_right _ _)] at cut
      rw [slice, cut, ← length, List.take_left]
    rw [← slice_append, fronts] at same
    exact ⟨fronts, List.append_cancel_left same⟩
  · rintro ⟨rfl, rfl⟩
    exact (slice_append data position first second).symm

/-! ## Splices -/

/-- A buffer with bytes written over it from a position on. -/
def splice (buffer : List UInt8) (position : Nat) (bytes : List UInt8) : List UInt8 :=
  buffer.take position ++ bytes ++ buffer.drop (position + bytes.length)

theorem overwrite_eq_splice {buffer bytes : List UInt8} {position : Nat}
    (fits : position + bytes.length ≤ buffer.length) :
    overwrite buffer position bytes = .ok (splice buffer position bytes) := by
  simp only [overwrite, splice, if_pos fits]

@[simp] theorem splice_nil (buffer : List UInt8) (position : Nat) :
    splice buffer position [] = buffer := by
  simp [splice]

/-- Writing over a whole buffer leaves nothing of it. -/
theorem splice_whole {buffer bytes : List UInt8} (whole : bytes.length = buffer.length) :
    splice buffer 0 bytes = bytes := by
  rw [splice, List.take_zero, List.nil_append, Nat.zero_add, whole, List.drop_length,
    List.append_nil]

theorem length_splice {buffer bytes : List UInt8} {position : Nat}
    (fits : position + bytes.length ≤ buffer.length) :
    (splice buffer position bytes).length = buffer.length := by
  simp only [splice, List.length_append, List.length_take, List.length_drop]
  omega

/-- What stands at an index after a write. -/
theorem getElem?_splice {buffer bytes : List UInt8} {position : Nat}
    (fits : position + bytes.length ≤ buffer.length) (index : Nat) :
    (splice buffer position bytes)[index]? =
      if index < position then buffer[index]?
      else if index < position + bytes.length then bytes[index - position]?
      else buffer[index]? := by
  have front : (buffer.take position).length = position := by
    rw [List.length_take]
    omega
  rw [splice, List.append_assoc]
  by_cases before : index < position
  · rw [if_pos before, List.getElem?_append_left (by omega), List.getElem?_take_of_lt before]
  rw [if_neg before, List.getElem?_append_right (by omega), front]
  by_cases inside : index < position + bytes.length
  · rw [if_pos inside, List.getElem?_append_left (by omega)]
  · rw [if_neg inside, List.getElem?_append_right (by omega), List.getElem?_drop]
    congr 1
    omega

/-- Two writes, the second right behind the first, are one. -/
theorem splice_append {buffer front back : List UInt8} {position : Nat}
    (fits : position + front.length + back.length ≤ buffer.length) :
    splice (splice buffer position front) (position + front.length) back =
      splice buffer position (front ++ back) := by
  have inner : position + front.length ≤ buffer.length := by omega
  apply List.ext_getElem?
  intro index
  rw [getElem?_splice (by rw [length_splice inner]; exact fits), getElem?_splice inner,
    getElem?_splice (by rw [List.length_append]; omega), List.length_append]
  by_cases before : index < position
  · rw [if_pos before, if_pos (by omega), if_pos before]
  rw [if_neg before, if_neg before]
  by_cases inFront : index < position + front.length
  · rw [if_pos inFront, if_pos inFront, if_pos (by omega), List.getElem?_append_left (by omega)]
  rw [if_neg inFront, if_neg inFront]
  by_cases inBack : index < position + front.length + back.length
  · rw [if_pos inBack, if_pos (by omega), List.getElem?_append_right (by omega)]
    congr 1
    omega
  · rw [if_neg inBack, if_neg (by omega)]

/-- Neighbouring slices of one byte string, written one behind the other. -/
theorem splice_slice_append {data buffer : List UInt8} {position target first second : Nat}
    (reaches : Reaches data position (first + second))
    (room : target + (first + second) ≤ buffer.length) :
    splice (splice buffer target (slice data position first)) (target + first)
        (slice data (position + first) second) =
      splice buffer target (slice data position (first + second)) := by
  have firstLength := length_slice reaches.front
  have secondLength := length_slice reaches.back
  have joined : splice (splice buffer target (slice data position first))
      (target + (slice data position first).length) (slice data (position + first) second) =
      splice buffer target (slice data position first ++ slice data (position + first) second) :=
    splice_append (by omega)
  rw [firstLength] at joined
  rw [joined, slice_append]

/-- Writing a longer and a shorter front of the same bytes at one position writes the
longer one, whichever comes first. -/
theorem splice_take {buffer bytes : List UInt8} {position first second : Nat}
    (fits : position + max first second ≤ buffer.length)
    (enough : max first second ≤ bytes.length) :
    splice (splice buffer position (bytes.take first)) position (bytes.take second) =
      splice buffer position (bytes.take (max first second)) := by
  have firstLength : (bytes.take first).length = first := by rw [List.length_take]; omega
  have secondLength : (bytes.take second).length = second := by rw [List.length_take]; omega
  have bothLength : (bytes.take (max first second)).length = max first second := by
    rw [List.length_take]; omega
  have inner : position + (bytes.take first).length ≤ buffer.length := by omega
  apply List.ext_getElem?
  intro index
  rw [getElem?_splice (by rw [length_splice inner]; omega), getElem?_splice inner,
    getElem?_splice (by omega), firstLength, secondLength, bothLength]
  by_cases before : index < position
  · rw [if_pos before, if_pos before, if_pos before]
  rw [if_neg before, if_neg before, if_neg before]
  by_cases inSecond : index < position + second
  · rw [if_pos inSecond, if_pos (by omega), List.getElem?_take_of_lt (by omega),
      List.getElem?_take_of_lt (by omega)]
  rw [if_neg inSecond]
  by_cases inFirst : index < position + first
  · rw [if_pos inFirst, if_pos (by omega), List.getElem?_take_of_lt (by omega),
      List.getElem?_take_of_lt (by omega)]
  · rw [if_neg inFirst, if_neg (by omega)]

end LapTelemetry.Wire
