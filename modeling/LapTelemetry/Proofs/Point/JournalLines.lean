import LapTelemetry.Point.Sink
import LapTelemetry.Proofs.Point.LineRoundTrip
import LapTelemetry.Proofs.Spec.Decision

/-! # One line for each point

A sink of lines on a sound medium answers each write by itself: a point that has a field to
write becomes one line and one newline at the end of what was written before, and any other
is refused and leaves what was written as it is (`lines_attempt`). No line has a newline
inside, whatever texts it is made of, because every text is escaped and numbers have none
(`newline_not_mem_line`). So what a run of writes leaves behind is the lines of the points
that were accepted, in order, with a newline behind each (`lines_attemptAll`).

The bytes are those of the UTF-8 encoding, in which the byte 10 stands for a newline and for
nothing else (`newline_of_mem_utf8EncodeChar`). -/

namespace LapTelemetry.Point

open LapTelemetry.Number LapTelemetry.Text LapTelemetry.Wire LapTelemetry.Spec

set_option autoImplicit false

/-! ## Points that can be written -/

namespace LineProtocol

/-- Fields of which none can be written: all of them are real numbers that are not finite. -/
def NothingWritable (fields : Fields) : Prop := ∀ field ∈ fields.entries, ¬ Writable field.2

theorem writable_real_iff {pattern : BitVec 64} :
    Writable (.real pattern) ↔ Binary.double.isFinite pattern.toNat = true := by
  constructor
  · exact fun writable => writable pattern rfl
  · rintro finite _ ⟨⟩
    exact finite

instance : DecidablePred Writable
  | .integer _ | .natural _ | .text _ => .isTrue fun _ other => by cases other
  | .real _ => decidable_of_iff _ writable_real_iff.symm

instance : DecidablePred NothingWritable := fun fields =>
  List.decidableBAll (fun field : String × FieldValue => ¬ Writable field.2) fields.entries

theorem fieldText?_eq_none {written : String × FieldValue} :
    fieldText? written = none ↔ ¬ Writable written.2 := by
  constructor
  · intro nothing writable
    obtain ⟨text, isText⟩ := exists_fieldText writable
    cases nothing.symm.trans isText
  · obtain ⟨key, value⟩ := written
    intro notWritable
    cases value with
    | real pattern =>
      have nothing : valueText? (.real pattern) = none := if_neg (mt writable_real_iff.mpr notWritable)
      rw [fieldText?, nothing]
      rfl
    | _ => exact absurd (fun _ other => by cases other) notWritable

variable {tags : Tags} {point : Point}

theorem line_of_nothingWritable (nothing : NothingWritable point.fields) :
    line tags point = .error (.sink (.nothingWritable point.measurement)) := by
  have noText : point.fields.entries.filterMap fieldText? = [] := by
    rw [List.filterMap_eq_nil_iff]
    exact fun written member => fieldText?_eq_none.mpr (nothing written member)
  rw [line, noText]

theorem exists_line (something : ¬ NothingWritable point.fields) :
    ∃ text, line tags point = .ok text := by
  cases listed : point.fields.entries.filterMap fieldText? with
  | nil =>
    rw [List.filterMap_eq_nil_iff] at listed
    exact absurd (fun written member => fieldText?_eq_none.mp (listed written member)) something
  | cons first others => exact ⟨_, by rw [line, listed]⟩

/-! ## Lines without newlines -/

theorem newline_not_mem_escape (special text : List Char) : '\n' ∉ escape special text := by
  induction text with
  | nil => exact List.not_mem_nil
  | cons c text ih =>
    rw [escape]
    split
    · simpa using ih
    · rename_i other
      split <;> simpa [Ne.symm other] using ih

theorem newline_not_mem_of_numerals {text : List Char} (numerals : ∀ c ∈ text, IsNumeral c) :
    '\n' ∉ text :=
  fun newline => (numerals _ newline).inert.1.2.1 rfl

theorem newline_not_mem_integer (i : Int) : '\n' ∉ (Decimal.ofInt i).toList := by
  rw [ofInt_toList]
  exact newline_not_mem_of_numerals fun c => numeral_of_mem_integerText

theorem newline_not_mem_valueText {value : FieldValue} {text : List Char}
    (isText : valueText? value = some text) : '\n' ∉ text := by
  cases value with
  | integer i =>
    cases isText
    simpa using newline_not_mem_integer i
  | natural n =>
    cases isText
    have digits := newline_not_mem_of_numerals fun c (member : c ∈ Decimal.digits n) =>
      .inl (Decimal.digit_of_mem_digits member)
    simpa using digits
  | real pattern =>
    obtain ⟨finite, same⟩ := Option.ite_none_right_eq_some.mp isText
    cases same
    exact newline_not_mem_of_numerals (numerals_of_finite finite).2
  | text s =>
    cases isText
    simpa [quote] using newline_not_mem_escape quotedSpecial s.toList

theorem newline_not_mem_fieldText {written : String × FieldValue} {text : List Char}
    (isText : fieldText? written = some text) : '\n' ∉ text := by
  obtain ⟨valueText, isValue, rfl⟩ := Option.map_eq_some_iff.mp isText
  simpa [newline_not_mem_escape] using newline_not_mem_valueText isValue

/-- **A line is one line**, whatever stands in the names and the texts that it is made of. -/
theorem newline_not_mem_line {text : List Char} (isLine : line tags point = .ok text) :
    '\n' ∉ text := by
  have inTags : '\n' ∉ tags.entries.flatMap tagText := by
    simp [tagText, newline_not_mem_escape]
  have inFields : ∀ field ∈ point.fields.entries.filterMap fieldText?, '\n' ∉ field := by
    intro field member
    obtain ⟨written, -, isText⟩ := List.mem_filterMap.mp member
    exact newline_not_mem_fieldText isText
  rw [line] at isLine
  split at isLine
  · cases isLine
  · rename_i first others listed
    rw [listed, List.forall_mem_cons] at inFields
    obtain ⟨inFirst, inOthers⟩ := inFields
    have inRow : '\n' ∉ others.flatMap fun field => ',' :: field := by
      simpa using inOthers
    cases isLine
    simp [newline_not_mem_escape, newline_not_mem_integer, inTags, inFirst, inRow]

end LineProtocol

/-! ## Bytes -/

/-- The bytes that a journal holds. -/
def Journal.bytes (journal : Journal) : List UInt8 := bytesOf (String.ofList journal.text)

/-- The byte 10 is a newline, and a part of no other character. -/
theorem newline_of_mem_utf8EncodeChar {c : Char} (newline : 10 ∈ String.utf8EncodeChar c) :
    c = '\n' := by
  have ten : (10 : UInt8).toNat = 10 := rfl
  rw [String.utf8EncodeChar] at newline
  split at newline
  · rename_i small
    rw [List.mem_singleton, ← UInt8.toNat_inj, ten, UInt8.toNat_ofNat'] at newline
    exact Char.ext (UInt32.toNat_inj.mp (show c.val.toNat = 10 by omega))
  · -- Every byte of a longer encoding has its highest bit set.
    split at newline
    · simp only [List.mem_cons, List.not_mem_nil, or_false, ← UInt8.toNat_inj, ten,
        UInt8.toNat_ofNat'] at newline
      omega
    · split at newline <;>
      · simp only [List.mem_cons, List.not_mem_nil, or_false, ← UInt8.toNat_inj, ten,
          UInt8.toNat_ofNat'] at newline
        omega

theorem newline_mem_bytesOf {text : String} (newline : 10 ∈ bytesOf text) : '\n' ∈ text.toList := by
  rw [bytesOf_eq] at newline
  obtain ⟨c, member, among⟩ := List.mem_flatMap.mp newline
  exact newline_of_mem_utf8EncodeChar among ▸ member

/-- Lines with a newline behind each, in bytes. -/
theorem bytes_append_lines (text : List Char) (readings : Nat) (lines : List String) :
    Journal.bytes ⟨text ++ lines.flatMap (fun line => line.toList ++ ['\n']), readings⟩ =
      bytesOf (String.ofList text) ++ lines.flatMap fun line => bytesOf line ++ [10] := by
  have newline : String.utf8EncodeChar '\n' = [10] := by decide
  simp only [Journal.bytes, bytesOf_eq, String.toList_ofList, List.flatMap_append,
    List.flatMap_assoc, List.flatMap_singleton, newline]

/-! ## Writes, one after the other -/

namespace Sink

/-- Ask a sink for one write after the other: every answer, and what the sink remembers in the
end. -/
def attemptAll {σ : Type} (into : Sink σ) : σ → List Write → List (Except Fault Unit) × σ
  | held, [] => ([], held)
  | held, write :: writes =>
    let (answer, next) := into.attempt held write
    Prod.map (answer :: ·) id (attemptAll into next writes)

/-- The points of writes, if the clock has been read so often before. -/
def pointsAfter (clock : Nat → Int) (readings : Nat) (writes : List Write) : List Point :=
  (writes.zipIdx readings).map fun (write, reading) => write.pointAt (clock reading)

/-- The lines of points; those that cannot be written have none. -/
def renderAll (delivery : Delivery) (points : List Point) : List String :=
  points.filterMap fun point => (LineProtocol.render delivery point).toOption

/-- What is said to a write: only fields of which none can be written are refused. -/
def answerTo (write : Write) : Except Fault Unit :=
  if LineProtocol.NothingWritable write.fields then
    .error (.sink (.nothingWritable write.measurement))
  else .ok ()

variable {delivery : Delivery} {clock : Nat → Int}

theorem attempt_of_nothingWritable {write : Write} (journal : Journal)
    (nothing : LineProtocol.NothingWritable write.fields) :
    (lines delivery .sound clock).attempt journal write =
      (.error (.sink (.nothingWritable write.measurement)),
        { journal with readings := journal.readings + 1 }) := by
  have refused : LineProtocol.line delivery.pointTags (write.pointAt (clock journal.readings)) =
      .error (.sink (.nothingWritable write.measurement)) :=
    LineProtocol.line_of_nothingWritable nothing
  simp only [lines, refused]

theorem attempt_of_line {journal : Journal} {write : Write} {text : List Char}
    (isLine : LineProtocol.line delivery.pointTags (write.pointAt (clock journal.readings)) =
      .ok text) :
    (lines delivery .sound clock).attempt journal write =
      (.ok (), ⟨journal.text ++ (text ++ ['\n']), journal.readings + 1⟩) := by
  simp only [lines, isLine, Medium.vouches, Medium.hold, if_true]

/-- **One write.** Whatever was written before, a write is answered by itself, and its line is added
with a newline, if there is one. -/
theorem lines_attempt (journal : Journal) (write : Write) :
    (lines delivery .sound clock).attempt journal write =
      (answerTo write,
        ⟨journal.text ++ (renderAll delivery [write.pointAt (clock journal.readings)]).flatMap
          fun line => line.toList ++ ['\n'], journal.readings + 1⟩) := by
  rw [answerTo, renderAll]
  by_cases nothing : LineProtocol.NothingWritable write.fields
  · rw [attempt_of_nothingWritable journal nothing, if_pos nothing, List.filterMap_cons_none,
      List.filterMap_nil, List.flatMap_nil, List.append_nil]
    rw [LineProtocol.render, LineProtocol.line_of_nothingWritable nothing]
    rfl
  · obtain ⟨text, isLine⟩ : ∃ text,
        LineProtocol.line delivery.pointTags (write.pointAt (clock journal.readings)) = .ok text :=
      LineProtocol.exists_line nothing
    rw [attempt_of_line isLine, if_neg nothing,
      List.filterMap_cons_some (by rw [LineProtocol.render, isLine]; rfl), List.filterMap_nil,
      List.flatMap_singleton, String.toList_ofList]

/-- A run of writes is answered one by one, and adds the lines of its points. -/
theorem attemptAll_lines (journal : Journal) (writes : List Write) :
    (lines delivery .sound clock).attemptAll journal writes =
      (writes.map answerTo,
        ⟨journal.text ++ (renderAll delivery (pointsAfter clock journal.readings writes)).flatMap
          fun line => line.toList ++ ['\n'], journal.readings + writes.length⟩) := by
  induction writes generalizing journal with
  | nil => simp [attemptAll, pointsAfter, renderAll]
  | cons write writes ih =>
    have points : pointsAfter clock journal.readings (write :: writes) =
        [write.pointAt (clock journal.readings)] ++
          pointsAfter clock (journal.readings + 1) writes := by
      rw [pointsAfter, List.zipIdx_cons]
      rfl
    rw [attemptAll, lines_attempt]
    dsimp only
    rw [ih, points, renderAll, renderAll, renderAll, List.filterMap_append, List.flatMap_append,
      ← List.append_assoc, List.length_cons, Nat.add_right_comm, Nat.add_assoc]
    rfl

theorem exists_render_iff {point : Point} :
    (∃ line, LineProtocol.render delivery point = .ok line) ↔
      ¬ LineProtocol.NothingWritable point.fields := by
  constructor
  · rintro ⟨line, rendered⟩ nothing
    rw [LineProtocol.render, LineProtocol.line_of_nothingWritable nothing] at rendered
    cases rendered
  · intro something
    obtain ⟨text, isLine⟩ := LineProtocol.exists_line something
    exact ⟨_, by rw [LineProtocol.render, isLine]; rfl⟩

theorem newline_not_mem_renderAll {points : List Point} {line : String}
    (member : line ∈ renderAll delivery points) : '\n' ∉ line.toList := by
  obtain ⟨point, -, rendered⟩ := List.mem_filterMap.mp member
  rw [LineProtocol.render] at rendered
  cases isLine : LineProtocol.line delivery.pointTags point with
  | error fault =>
    rw [isLine] at rendered
    cases rendered
  | ok text =>
    rw [isLine] at rendered
    cases rendered
    rw [String.toList_ofList]
    exact LineProtocol.newline_not_mem_line isLine

/-- **One line for each accepted point, and nothing else.** Whatever the settings, the clock and
what was written before, a run of writes adds the bytes of the lines of its points, in order
and each with a newline behind it, and none of the lines has a newline inside. A point has a
line, and is accepted, unless all of its fields are real numbers that are not finite. Such a
point is refused and leaves the journal as it is, but for the clock, which has been read. -/
theorem lines_attemptAll (delivery : Delivery) (clock : Nat → Int) (journal : Journal)
    (writes : List Write) :
    let into := lines delivery .sound clock
    let points := pointsAfter clock journal.readings writes
    let (answers, after) := into.attemptAll journal writes
    after.bytes =
        journal.bytes ++ (renderAll delivery points).flatMap (fun line => bytesOf line ++ [10]) ∧
      (∀ line ∈ renderAll delivery points, 10 ∉ bytesOf line) ∧
      answers = writes.map (fun write =>
        if LineProtocol.NothingWritable write.fields then
          .error (.sink (.nothingWritable write.measurement))
        else .ok ()) ∧
      (∀ point ∈ points, (∃ line, LineProtocol.render delivery point = .ok line) ↔
        ¬ LineProtocol.NothingWritable point.fields) ∧
      ∀ held write, LineProtocol.NothingWritable write.fields →
        into.attempt held write =
          (.error (.sink (.nothingWritable write.measurement)),
            { held with readings := held.readings + 1 }) := by
  intro into points
  rw [attemptAll_lines]
  refine ⟨bytes_append_lines _ _ _, fun line member newline => ?_, rfl,
    fun point _ => exists_render_iff, fun held write => attempt_of_nothingWritable held⟩
  exact newline_not_mem_renderAll member (newline_mem_bytesOf newline)

/-- Newlines in a tag and in a text, with a write between them that is refused. -/
theorem lines_attemptAll_stint :
    let delivery : Delivery := ⟨"b", none, .ofList [("rig\n1", "a b")]⟩
    let writes : List Write := [.live ⟨[("x", .natural 1)]⟩,
      .lap "S" 3 ⟨[("grip", .real 0x7FF8000000000000)]⟩, .lap "S" 3 ⟨[("note", .text "a\nb")]⟩]
    let (answers, after) :=
      (lines delivery .sound fun reading => 10 * reading).attemptAll .empty writes
    after.bytes = bytesOf
        "live,rig\\n1=a\\ b x=1u 0\nS-03,rig\\n1=a\\ b note=\"a\\nb\" 20\n" ∧
      answers = [.ok (), .error (.sink (.nothingWritable "S-03")), .ok ()] ∧
      ∀ held, (lines delivery .sound fun reading => 10 * reading).attempt held
          (.lap "S" 3 ⟨[("grip", .real 0x7FF8000000000000)]⟩) =
        (.error (.sink (.nothingWritable "S-03")),
          { held with readings := held.readings + 1 }) := by
  intro delivery writes
  obtain ⟨bytes, -, answers, -, refused⟩ :=
    lines_attemptAll delivery (fun reading => 10 * reading) .empty writes
  refine ⟨bytes.trans ?_, answers.trans ?_, fun held => (refused held _ ?_).trans ?_⟩
  · decide +kernel
  · decide +kernel
  · decide +kernel
  · have measured : lapMeasurement "S" 3 = "S-03" := by decide +kernel
    rw [← measured]
    rfl

end Sink

end LapTelemetry.Point
