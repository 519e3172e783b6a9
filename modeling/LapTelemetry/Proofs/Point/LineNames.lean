import LapTelemetry.Proofs.Point.LineItems

/-! # The names in a line

A line is put together from names, values and the delimiters between them. Values are
always found again. A name is, unless it ends in a backslash: then the delimiter behind it
is read as a part of the name, and what was to follow is taken for something else. So a line
is read as the point that it was written from exactly if none of its names ends in a
backslash (`readLine?_render_iff`).

The condition is carried through the readers of a line by `FrontReader.ReadsIff`, which has
both halves: where it is met everything is found again, and where something is found
again it was met. -/

namespace LapTelemetry.Point.LineProtocol

open LapTelemetry.Number LapTelemetry.Text FrontReader

set_option autoImplicit false

/-- A text without newlines. -/
def OneLine (text : String) : Prop := '\n' ∉ text.toList

instance : DecidablePred OneLine := fun text => inferInstanceAs (Decidable ('\n' ∉ text.toList))

/-- A text that does not end in a backslash. -/
def EndsBare (text : String) : Prop := text.toList.getLast? ≠ some '\\'

instance : DecidablePred EndsBare := fun text =>
  inferInstanceAs (Decidable (text.toList.getLast? ≠ some '\\'))

/-! ## Names in their places -/

theorem readsIff_name {delimiters : List Char} (noBackslash : '\\' ∉ delimiters) {text : String}
    (oneLine : OneLine text) :
    (name delimiters).ReadsIff (StopsAt delimiters) (EndsBare text)
      (escape delimiters text.toList) text := by
  constructor
  · rintro endsBare rest ⟨c, delimiter, first⟩
    obtain ⟨rest, rfl⟩ := List.head?_eq_some_iff.mp first
    show some (Prod.map String.ofList id (readName _ _)) = _
    rw [readName_escape noBackslash oneLine delimiter, if_neg endsBare]
    exact congrArg (fun read => some (read, c :: rest)) String.ofList_toList
  · rintro rest after ⟨c, delimiter, first⟩ read last
    obtain ⟨rest, rfl⟩ := List.head?_eq_some_iff.mp first
    change some (Prod.map String.ofList id (readName _ _)) = _ at read
    rw [readName_escape noBackslash oneLine delimiter, if_pos last] at read
    -- The delimiter stands where the name has its backslash.
    have same := congrArg (fun read => read.1.toList) (Option.some.inj read)
    have split := List.dropLast_append_getLast? _ last
    simp only [Prod.map_fst, String.toList_ofList] at same
    rw [← split] at same
    simp only [List.dropLast_concat] at same
    obtain ⟨rfl, -⟩ := List.cons.inj (List.append_cancel_left same)
    exact noBackslash delimiter

theorem stopsAt_equals (rest : List Char) : StopsAt nameDelimiters ('=' :: rest) :=
  ⟨'=', by decide, rfl⟩

theorem stopsAt_comma (rest : List Char) : StopsAt nameDelimiters (',' :: rest) :=
  ⟨',', by decide, rfl⟩

/-- A key, its equals sign, and what is read behind them. -/
theorem readsIff_keyed {α : Type} {reader : FrontReader α} {key : String} {text : List Char}
    {read : α} {meets : List Char → Prop} {good : Prop} (oneLine : OneLine key)
    (readsIff : reader.ReadsIff meets good text read) :
    (((name nameDelimiters).before '=').both reader).ReadsIff meets (EndsBare key ∧ good)
      (escape tagSpecial key.toList ++ '=' :: text) (key, read) := by
  have keyReadsIff :=
    (readsIff_name noBackslash_names oneLine).before '=' stopsAt_equals fun _ => True
  have both := keyReadsIff.both readsIff fun _ _ => trivial
  rwa [List.append_assoc, List.singleton_append] at both

/-- The field that a reader finds where a field was written. -/
def readField? (written : String × FieldValue) : Option (String × ReadValue) :=
  (ReadValue.of? written.2).map fun read => (written.1, read)

/-- The fields that are written stand in one row with what is read from each. -/
theorem exists_readsIff_written (fields : List (String × FieldValue))
    (oneLine : ∀ read ∈ fields.filterMap readField?, OneLine read.1) :
    ∃ listed : List (List Char × (String × ReadValue)),
      fields.filterMap fieldText? = listed.map (·.1) ∧
        fields.filterMap readField? = listed.map (·.2) ∧
        ∀ entry ∈ listed,
          field.ReadsIff (StopsAt nameDelimiters) (EndsBare entry.2.1) entry.1 entry.2 := by
  induction fields with
  | nil => exact ⟨[], rfl, rfl, by simp⟩
  | cons written fields ih =>
    cases isText : valueText? written.2 with
    | none =>
      -- Only a real number that is not finite has no text.
      have unread : ReadValue.of? written.2 = none := by
        obtain ⟨key, value⟩ := written
        cases value with
        | real pattern =>
          rw [valueText?] at isText
          rw [ReadValue.of?]
          split
          · rename_i finite
            rw [if_pos finite] at isText
            cases isText
          · rfl
        | _ => cases isText
      have unreadField : readField? written = none := by rw [readField?, unread]; rfl
      rw [List.filterMap_cons_none unreadField] at oneLine ⊢
      rw [List.filterMap_cons_none (by rw [fieldText?, isText]; rfl)]
      exact ih oneLine
    | some text =>
      obtain ⟨read, isRead, readsValue⟩ := reads_value isText
      have readsField : readField? written = some (written.1, read) := by
        rw [readField?, isRead]; rfl
      rw [List.filterMap_cons_some readsField] at oneLine ⊢
      obtain ⟨keyInLine, others⟩ := List.forall_mem_cons.mp oneLine
      obtain ⟨listed, texts, reads, each⟩ := ih others
      have keyed := (readsIff_keyed keyInLine (.of_reads readsValue)).congr (.of_eq (and_true _))
      refine ⟨(escape tagSpecial written.1.toList ++ '=' :: text, (written.1, read)) :: listed,
        ?_, ?_, List.forall_mem_cons.mpr ⟨keyed, each⟩⟩
      · rw [List.filterMap_cons_some (by rw [fieldText?, isText]; rfl), texts]
        rfl
      · rw [reads]
        rfl

/-! ## The parts of a line -/

/-- A rest that starts with a space, which ends every part of a line. -/
def AtSpace (rest : List Char) : Prop := rest.head? = some ' '

theorem stopsAt_of_atSpace {rest : List Char} (space : AtSpace rest) :
    StopsAt nameDelimiters rest ∧ rest.head? ≠ some ',' := by
  refine ⟨⟨' ', by decide, space⟩, fun comma => ?_⟩
  cases space.symm.trans comma

theorem readsIff_series {measurement : String} {tags : List (String × String)}
    (oneLine : OneLine measurement) (oneLineTags : ∀ tag ∈ tags, OneLine tag.1 ∧ OneLine tag.2) :
    series.ReadsIff AtSpace
      (EndsBare measurement ∧ ∀ tag ∈ tags, EndsBare tag.1 ∧ EndsBare tag.2)
      (escape measurementSpecial measurement.toList ++ tags.flatMap tagText)
      (measurement, tags) := by
  -- Each tag with the text that it is written as, without its comma.
  let listed := tags.map fun tag =>
    (escape tagSpecial tag.1.toList ++ '=' :: escape tagSpecial tag.2.toList, tag)
  have each : ∀ entry ∈ listed, tag.ReadsIff (StopsAt nameDelimiters)
      (EndsBare entry.2.1 ∧ EndsBare entry.2.2) entry.1 entry.2 := by
    intro entry member
    obtain ⟨tag, among, rfl⟩ := List.mem_map.mp member
    obtain ⟨key, held⟩ := oneLineTags tag among
    exact readsIff_keyed key (readsIff_name noBackslash_names held)
  have texts : (listed.flatMap fun entry => ',' :: entry.1) = tags.flatMap tagText := by
    rw [List.flatMap_map]
    rfl
  have values : listed.map (·.2) = tags := by
    rw [List.map_map]
    exact List.map_id _
  have ends : (∀ entry ∈ listed, EndsBare entry.2.1 ∧ EndsBare entry.2.2) ↔
      ∀ tag ∈ tags, EndsBare tag.1 ∧ EndsBare tag.2 := List.forall_mem_map
  have tagsReadIff := ((ReadsIff.items each stopsAt_comma).imp
    fun rest => stopsAt_of_atSpace).congr ends
  rw [texts, values] at tagsReadIff
  refine (readsIff_name (by decide) oneLine).both tagsReadIff fun rest space => ?_
  -- A measurement ends at the comma of the first tag, or at the space if there is none.
  cases tags with
  | nil => exact ⟨' ', by decide, space⟩
  | cons tag tags => exact ⟨',', by decide, rfl⟩

theorem readsIff_fieldSet {first : List Char × (String × ReadValue)}
    {others : List (List Char × (String × ReadValue))}
    {goodField : List Char × (String × ReadValue) → Prop}
    (each : ∀ entry ∈ first :: others,
      field.ReadsIff (StopsAt nameDelimiters) (goodField entry) entry.1 entry.2) :
    fieldSet.ReadsIff AtSpace (∀ entry ∈ first :: others, goodField entry)
      (first.1 ++ others.flatMap fun entry => ',' :: entry.1) (first.2, others.map (·.2)) := by
  obtain ⟨readsFirst, readsOthers⟩ := List.forall_mem_cons.mp each
  have othersReadIff := (ReadsIff.items readsOthers stopsAt_comma).imp fun rest => stopsAt_of_atSpace
  refine (readsFirst.both othersReadIff fun rest space => ?_).congr List.forall_mem_cons.symm
  cases others with
  | nil => exact (stopsAt_of_atSpace space).1
  | cons next others => exact stopsAt_comma _

/-! ## Whole lines -/

/-- The names in a line: the measurement, the keys and values of the tags, and the keys of the
fields that are written. -/
def lineNames (delivery : Delivery) (point : Point) : List String :=
  point.measurement :: delivery.pointTags.entries.flatMap (fun tag => [tag.1, tag.2]) ++
    (point.fields.entries.filterMap readField?).map (·.1)

/-- What the line of a point is to say. -/
def lineContent (delivery : Delivery) (point : Point) : Content where
  measurement := point.measurement
  tags := delivery.pointTags.entries
  fields := point.fields.entries.filterMap readField?
  timestamp := point.timestamp

theorem forall_mem_lineNames {delivery : Delivery} {point : Point} {holds : String → Prop} :
    (∀ name ∈ lineNames delivery point, holds name) ↔
      (holds point.measurement ∧
        ∀ tag ∈ delivery.pointTags.entries, holds tag.1 ∧ holds tag.2) ∧
      ∀ read ∈ point.fields.entries.filterMap readField?, holds read.1 := by
  simp only [lineNames, List.forall_mem_append, List.forall_mem_cons, List.forall_mem_flatMap,
    List.forall_mem_map, List.not_mem_nil, false_imp_iff, implies_true, and_true]

/-- The line of a point, with what a reader of lines finds in it. -/
theorem exists_readsIff_of_render {delivery : Delivery} {point : Point} {line : String}
    (rendered : render delivery point = .ok line)
    (oneLine : ∀ name ∈ lineNames delivery point, OneLine name) :
    ∃ text first others, line.toList = text ++ (Decimal.ofInt point.timestamp).toList ∧
      point.fields.entries.filterMap readField? = first :: others ∧
      (series.both ((fieldSet.behind ' ').before ' ')).ReadsIff (fun _ => True)
        (∀ name ∈ lineNames delivery point, EndsBare name) text
        ((point.measurement, delivery.pointTags.entries), (first, others)) := by
  obtain ⟨⟨inMeasurement, inTags⟩, inKeys⟩ := forall_mem_lineNames.mp oneLine
  obtain ⟨listed, texts, reads, each⟩ := exists_readsIff_written point.fields.entries inKeys
  rw [render, LineProtocol.line, texts] at rendered
  cases listed with
  | nil => cases rendered
  | cons first others =>
    have whole := (readsIff_series inMeasurement inTags).both
      (((readsIff_fieldSet each).behind ' ').before ' ' (fun _ => rfl) fun _ => True) fun _ _ => rfl
    rw [List.map_cons] at reads
    refine ⟨_, first.2, others.map (·.2), ?_, reads, whole.congr ?_⟩
    · cases rendered
      rw [String.toList_ofList, List.flatMap_map]
      simp only [List.append_assoc, List.cons_append, List.nil_append]
    · rw [forall_mem_lineNames, reads, ← List.map_cons, List.forall_mem_map]

/-- A line is read as its point exactly if no name in it ends in a backslash. -/
theorem readLine?_iff {delivery : Delivery} {point : Point} {line : String}
    (rendered : render delivery point = .ok line)
    (oneLine : ∀ name ∈ lineNames delivery point, OneLine name) :
    readLine? line = some (lineContent delivery point) ↔
      ∀ name ∈ lineNames delivery point, EndsBare name := by
  obtain ⟨text, first, others, split, fields, readsIff⟩ := exists_readsIff_of_render rendered oneLine
  rw [readLine?, split]
  constructor
  · intro read
    obtain ⟨⟨⟨⟨measurement, tags⟩, key, more⟩, rest⟩, found, read⟩ :=
      Option.bind_eq_some_iff.mp read
    obtain ⟨timestamp, -, returned⟩ := Option.bind_eq_some_iff.mp read
    obtain ⟨rfl, rfl, same, -⟩ := Content.mk.inj (Option.some.inj returned)
    rw [fields] at same
    obtain ⟨rfl, rfl⟩ := List.cons.inj same
    exact readsIff.good_of_read trivial found
  · intro endsBare
    rw [readsIff.reads endsBare _ trivial]
    show (readInteger? _).bind _ = _
    rw [ofInt_toList, readInteger?_integerText]
    show some _ = some _
    rw [lineContent, fields]

/-- **No name but one that ends in a backslash can swallow a delimiter.** Whatever newline-free text
is escaped as a measurement, a key or a tag and stands in front of a delimiter, a reader of
names finds the text again and stops at the delimiter, unless the text ends in a backslash:
then the delimiter takes the place of the backslash, and the name goes on into the rest. So a
line is read back as the point that it was written from if and only if none of its names
ends in a backslash. -/
theorem readLine?_render_iff (delivery : Delivery) (point : Point) (line : String)
    (rendered : render delivery point = .ok line)
    (oneLine : ∀ name ∈ lineNames delivery point, OneLine name) :
    (∀ delimiters ∈ [measurementDelimiters, nameDelimiters], ∀ text, OneLine text →
      ∀ c ∈ delimiters, ∀ rest,
        readName delimiters (escape delimiters text.toList ++ c :: rest) =
          if EndsBare text then (text.toList, c :: rest)
          else Prod.map (text.toList.dropLast ++ c :: ·) id (readName delimiters rest)) ∧
      (readLine? line = some (lineContent delivery point) ↔
        ∀ name ∈ lineNames delivery point, EndsBare name) := by
  refine ⟨fun delimiters either text textInLine c delimiter rest => ?_,
    readLine?_iff rendered oneLine⟩
  have noBackslash : '\\' ∉ delimiters := by
    rcases List.mem_pair.mp either with rfl | rfl <;> decide
  rw [readName_escape noBackslash textInLine delimiter]
  by_cases endsBare : EndsBare text
  · rw [if_pos endsBare]
    exact if_neg endsBare
  · rw [if_neg endsBare]
    exact if_pos (not_not.mp endsBare)

/-- Backslashes inside of names, in front of delimiters too, are found again. -/
theorem readLine?_render_inner_backslashes :
    let delivery : Delivery := ⟨"telemetry", none, .ofList [("rig\\ a", "C:\\sim\\,1")]⟩
    let point : Point := ⟨"a\\,b", ⟨[("k\\=v", .natural 1)]⟩, 7⟩
    render delivery point = .ok "a\\\\,b,rig\\\\ a=C:\\sim\\\\,1 k\\\\=v=1u 7" ∧
      readLine? "a\\\\,b,rig\\\\ a=C:\\sim\\\\,1 k\\\\=v=1u 7" =
        some ⟨"a\\,b", [("rig\\ a", "C:\\sim\\,1")], [("k\\=v", .natural 1)], 7⟩ := by
  intro delivery point
  have rendered : render delivery point =
      .ok "a\\\\,b,rig\\\\ a=C:\\sim\\\\,1 k\\\\=v=1u 7" := by decide +kernel
  have oneLine : ∀ name ∈ lineNames delivery point, OneLine name := by decide +kernel
  have endsBare : ∀ name ∈ lineNames delivery point, EndsBare name := by decide +kernel
  exact ⟨rendered, (readLine?_render_iff delivery point _ rendered oneLine).2.mpr endsBare⟩

/-- A tag that ends in a backslash takes the space behind it into its value, and with it the
name of the field: nothing is left of the line to be read. Where the equals sign is
swallowed, two settings have one and the same line, so that no reader whatsoever can tell
them apart. -/
theorem render_swallows_delimiter :
    let live : Point := ⟨"live", ⟨[("x", .natural 1)]⟩, 0⟩
    let tagged (key held : String) : Delivery := ⟨"b", none, .ofList [(key, held)]⟩
    render (tagged "rig" "sim\\") live = .ok "live,rig=sim\\ x=1u 0" ∧
      readName nameDelimiters (escape tagSpecial "sim\\".toList ++ ' ' :: "x=1u 0".toList) =
        ("sim x".toList, "=1u 0".toList) ∧
      readLine? "live,rig=sim\\ x=1u 0" = none ∧
      render (tagged "a\\" "b=c") live = render (tagged "a=b\\" "c") live := by
  decide +kernel

end LapTelemetry.Point.LineProtocol
