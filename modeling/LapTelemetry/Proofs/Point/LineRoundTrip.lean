import LapTelemetry.Proofs.Point.LineNames
import LapTelemetry.Proofs.Point.TagOrder

/-! # Lines are read back as the points they were written from

A plain name, which has no backslash and no newline, is found again wherever it stands, so
the readers of a line find what was written (`reads_series`, `reads_fieldSet`). Where a
field can be written there is a line, and the whole of it is read back
(`readLine?_render`). -/

namespace LapTelemetry.Point.LineProtocol

open LapTelemetry.Number LapTelemetry.Text FrontReader

set_option autoImplicit false

/-- A text without backslashes and newlines. -/
def Plain (text : String) : Prop := ∀ c ∈ text.toList, c ≠ '\\' ∧ c ≠ '\n'

instance : DecidablePred Plain := fun text =>
  List.decidableBAll (fun c => c ≠ '\\' ∧ c ≠ '\n') text.toList

theorem Plain.oneLine {text : String} (plain : Plain text) : OneLine text :=
  fun newline => (plain _ newline).2 rfl

theorem Plain.endsBare {text : String} (plain : Plain text) : EndsBare text :=
  fun last => (plain _ (List.mem_of_getLast? last)).1 rfl

/-- The fields that are written stand in one row with what is read from each. -/
theorem exists_written (fields : List (String × FieldValue))
    (plain : ∀ written ∈ fields, Plain written.1) :
    ∃ listed : List (List Char × (String × ReadValue)),
      fields.filterMap fieldText? = listed.map (·.1) ∧
        fields.filterMap readField? = listed.map (·.2) ∧
        ∀ entry ∈ listed, field.Reads (StopsAt nameDelimiters) entry.1 entry.2 := by
  have plainRead : ∀ read ∈ fields.filterMap readField?, Plain read.1 := by
    intro read member
    obtain ⟨written, among, isRead⟩ := List.mem_filterMap.mp member
    obtain ⟨_, -, rfl⟩ := Option.map_eq_some_iff.mp isRead
    exact plain written among
  obtain ⟨listed, texts, reads, each⟩ :=
    exists_readsIff_written fields fun read member => (plainRead read member).oneLine
  refine ⟨listed, texts, reads, fun entry member => (each entry member).reads ?_⟩
  exact (plainRead entry.2 (reads ▸ List.mem_map_of_mem member)).endsBare

theorem reads_series {measurement : String} {tags : List (String × String)}
    (plain : Plain measurement) (plainTags : ∀ tag ∈ tags, Plain tag.1 ∧ Plain tag.2) :
    series.Reads AtSpace
      (escape measurementSpecial measurement.toList ++ tags.flatMap tagText)
      (measurement, tags) :=
  (readsIff_series plain.oneLine fun tag member =>
      (plainTags tag member).imp Plain.oneLine Plain.oneLine).reads
    ⟨plain.endsBare, fun tag member => (plainTags tag member).imp Plain.endsBare Plain.endsBare⟩

theorem reads_fieldSet {first : List Char × (String × ReadValue)}
    {others : List (List Char × (String × ReadValue))}
    (each : ∀ entry ∈ first :: others, field.Reads (StopsAt nameDelimiters) entry.1 entry.2) :
    fieldSet.Reads AtSpace (first.1 ++ others.flatMap fun entry => ',' :: entry.1)
      (first.2, others.map (·.2)) := by
  have all := readsIff_fieldSet fun entry member => ReadsIff.of_reads (each entry member)
  exact all.reads fun _ _ => trivial

/-- A value that can be written: any but a real number that is not finite. -/
def Writable (value : FieldValue) : Prop :=
  ∀ pattern, value = .real pattern → Binary.double.isFinite pattern.toNat = true

theorem exists_fieldText {written : String × FieldValue} (writable : Writable written.2) :
    ∃ text, fieldText? written = some text := by
  obtain ⟨key, value⟩ := written
  cases value with
  | real pattern =>
    have text : valueText? (.real pattern) = some (positionalText pattern.toNat).toList :=
      if_pos (writable pattern rfl)
    rw [fieldText?, text]
    exact ⟨_, rfl⟩
  | _ => exact ⟨_, rfl⟩

/-- **A line is read back as the point that it was written from.** Whatever the settings
and the point, if no name has a backslash or a newline and there is something to write,
the line has the measurement, the tags that the settings say in the order of their keys,
every field that can be written in its place, and the time. -/
theorem readLine?_render (delivery : Delivery) (point : Point)
    (ordered : Tags.Ordered delivery.tags.entries) (plainMeasurement : Plain point.measurement)
    (plainTags : ∀ tag ∈ delivery.pointTags.entries, Plain tag.1 ∧ Plain tag.2)
    (plainKeys : ∀ written ∈ point.fields.entries, Plain written.1)
    (writable : ∃ written ∈ point.fields.entries, Writable written.2) :
    ∃ line content, render delivery point = .ok line ∧ readLine? line = some content ∧
      content.measurement = point.measurement ∧
      (Tags.Ordered content.tags ∧
        ∀ key held, (key, held) ∈ content.tags ↔ delivery.Carries key held) ∧
      content.fields = point.fields.entries.filterMap readField? ∧
      content.timestamp = point.timestamp := by
  obtain ⟨listed, texts, reads, each⟩ := exists_written point.fields.entries plainKeys
  cases listed with
  | nil =>
    obtain ⟨written, member, isWritable⟩ := writable
    obtain ⟨text, isText⟩ := exists_fieldText isWritable
    have among : text ∈ point.fields.entries.filterMap fieldText? :=
      List.mem_filterMap.mpr ⟨written, member, isText⟩
    rw [texts] at among
    cases among
  | cons first others =>
    let tags := delivery.pointTags.entries
    let names := escape measurementSpecial point.measurement.toList ++ tags.flatMap tagText
    let fields := first.1 ++ others.flatMap fun entry => ',' :: entry.1
    let line :=
      String.ofList (names ++ ' ' :: fields ++ ' ' :: (Decimal.ofInt point.timestamp).toList)
    have rendered : render delivery point = .ok line := by
      rw [render, LineProtocol.line, texts, List.map_cons]
      show Except.ok _ = Except.ok _
      rw [List.flatMap_map]
    have wholeRead := (reads_series plainMeasurement plainTags).both
      (((reads_fieldSet each).behind ' ').before ' ' (fun _ => rfl) fun _ => True) fun _ _ => rfl
    have read : readLine? line =
        some ⟨point.measurement, tags, first.2 :: others.map (·.2), point.timestamp⟩ := by
      have split : line.toList =
          names ++ (' ' :: fields ++ [' ']) ++ (Decimal.ofInt point.timestamp).toList := by
        rw [String.toList_ofList]
        simp only [List.append_assoc, List.singleton_append]
      rw [readLine?, split, wholeRead _ trivial]
      show (readInteger? _).bind _ = _
      rw [ofInt_toList, readInteger?_integerText]
      rfl
    refine ⟨line, _, rendered, read, rfl, ⟨ordered_pointTags ordered, ?_⟩, reads.symm, rfl⟩
    exact fun key held => mem_pointTags_iff ordered

/-- Tags with delimiters and quotes in them; the organisation takes the place of one. -/
def pitDelivery : Delivery :=
  ⟨"telemetry", some "pit, lane", .ofList [("rig \"a\"", "sim,1"), ("org", "none"), ("k=v", "=")]⟩

/-- A field that is left out, between others. -/
def pitPoint : Point :=
  ⟨"Monza 2021=\"wet\"-03",
    ⟨[("note, \"1\"", .text "a,b = \"c\"\n\\"), ("grip", .real 0x7FF8000000000000),
      ("gear", .integer (-1)), ("throttle", .real 0x3FE0000000000000)]⟩, -7⟩

theorem readLine?_render_pit :
    ∃ line content, render pitDelivery pitPoint = .ok line ∧ readLine? line = some content ∧
      content.measurement = "Monza 2021=\"wet\"-03" ∧
      ("org", "pit, lane") ∈ content.tags ∧ ("org", "none") ∉ content.tags ∧
      ("rig \"a\"", "sim,1") ∈ content.tags ∧ Tags.Ordered content.tags ∧
      content.fields = [("note, \"1\"", .text "a,b = \"c\"\n\\"), ("gear", .integer (-1)),
        ("throttle", .real "0.5")] ∧
      content.timestamp = -7 := by
  have plainMeasurement : Plain pitPoint.measurement := by decide +kernel
  have plainTags : ∀ tag ∈ pitDelivery.pointTags.entries, Plain tag.1 ∧ Plain tag.2 := by
    decide +kernel
  have plainKeys : ∀ written ∈ pitPoint.fields.entries, Plain written.1 := by decide +kernel
  have writable : ∃ written ∈ pitPoint.fields.entries, Writable written.2 :=
    ⟨("gear", .integer (-1)), by decide +kernel, fun _ other => by cases other⟩
  obtain ⟨line, content, rendered, read, measurement, ⟨ordered, tags⟩, fields, timestamp⟩ :=
    readLine?_render pitDelivery pitPoint (Tags.ordered_ofList _) plainMeasurement plainTags
      plainKeys writable
  have written : pitPoint.fields.entries.filterMap readField? =
      [("note, \"1\"", .text "a,b = \"c\"\n\\"), ("gear", .integer (-1)),
        ("throttle", .real "0.5")] := by decide +kernel
  refine ⟨line, content, rendered, read, measurement, ?_, ?_, ?_, ordered, fields.trans written,
    timestamp⟩
  · exact (tags _ _).mpr rfl
  · intro configured
    exact absurd ((tags _ _).mp configured) (by show ¬ "none" = "pit, lane"; decide)
  · exact (tags _ _).mpr (by show ("rig \"a\"", "sim,1") ∈ pitDelivery.tags.entries; decide +kernel)

end LapTelemetry.Point.LineProtocol
