import LapTelemetry.Proofs.Wire.DistinctNames

/-! # Merging records

A merge inserts the entries of the other record one by one, and three laws say how insertions
meet: the second value of a name replaces the first (`insert_insert`), insertions of two names
may change places once the first of them is held (`insert_comm`), and a value that is held
already changes nothing (`insert_of_get?_eq`). None of them needs distinct names. A name that
is not held yet is put at the end, so two new names may not change places.

From one insertion to many, by induction on what is inserted:

* a name has the value it was last given, or else the value it had (`get?_insertAll`);
* names that were held keep their places, and the others follow, each where it first came
  (`names_insertAll`);
* where every name has its last value already nothing changes (`insertAll_of_settled`), so a
  record merged once more is as it was.

A record that holds a name twice shows its first value and passes on its last one, so it may show
another value than the record it has been merged into. -/

namespace LapTelemetry.Wire.Record

set_option autoImplicit false

variable {α : Type}

/-- The value of the last entry of a name. -/
def lastIn? (entries : List (String × α)) (name : String) : Option α :=
  entries.reverse.lookup name

/-! ## Two insertions -/

theorem insert_insert (record : Record α) (name : String) (value later : α) :
    (record.insert name value).insert name later = record.insert name later := by
  obtain ⟨entries⟩ := record
  simp only [insert, mk.injEq]
  induction entries with
  | nil => simp [insertInto]
  | cons entry rest ih =>
    obtain ⟨key, held⟩ := entry
    by_cases taken : key = name
    · simp [insertInto, taken]
    · simp [insertInto, taken, ih]

/-- A name that is held keeps its place, whatever is inserted before or after it. -/
theorem insert_comm {record : Record α} {name other : String} (held : name ∈ record.names)
    (apart : name ≠ other) (value otherValue : α) :
    (record.insert name value).insert other otherValue =
      (record.insert other otherValue).insert name value := by
  obtain ⟨entries⟩ := record
  simp only [names, insert, mk.injEq] at held ⊢
  induction entries with
  | nil => cases held
  | cons entry rest ih =>
    obtain ⟨key, first⟩ := entry
    by_cases taken : key = name
    · simp [insertInto, taken, apart]
    · have later : name ∈ rest.map (·.1) := (List.mem_cons.mp held).resolve_left (Ne.symm taken)
      by_cases others : key = other
      · simp [insertInto, others, Ne.symm apart]
      · simp [insertInto, taken, others, ih later]

theorem insert_of_get?_eq {record : Record α} {name : String} {value : α}
    (held : record.get? name = some value) : record.insert name value = record := by
  obtain ⟨entries⟩ := record
  simp only [get?, insert, mk.injEq] at held ⊢
  induction entries with
  | nil => cases held
  | cons entry rest ih =>
    obtain ⟨key, first⟩ := entry
    rw [List.lookup_cons] at held
    by_cases taken : key = name
    · subst taken
      rw [beq_self_eq_true] at held
      rw [insertInto, if_pos rfl, Option.some.inj held]
    · rw [beq_eq_false_iff_ne.mpr (Ne.symm taken)] at held
      rw [insertInto, if_neg taken, ih held]

/-! ## The last value of a name -/

theorem lastIn?_cons (name other : String) (value : α) (rest : List (String × α)) :
    lastIn? ((name, value) :: rest) other =
      (lastIn? rest other).or (if other = name then some value else none) := by
  rw [lastIn?, lastIn?, List.reverse_cons, List.lookup_append, List.lookup_cons, List.lookup_nil]
  by_cases same : other = name
  · rw [if_pos same, beq_iff_eq.mpr same]
  · rw [if_neg same, beq_eq_false_iff_ne.mpr same]

/-- A name has a last value exactly if it has an entry. -/
theorem lastIn?_isSome_iff {entries : List (String × α)} {name : String} :
    (lastIn? entries name).isSome ↔ name ∈ entries.map (·.1) := by
  simp [lastIn?, List.lookup_isSome_iff]

theorem lastIn?_eq_none {entries : List (String × α)} {name : String}
    (absent : name ∉ entries.map (·.1)) : lastIn? entries name = none :=
  Option.not_isSome_iff_eq_none.mp (mt lastIn?_isSome_iff.mp absent)

theorem get?_isSome_iff {record : Record α} {name : String} :
    (record.get? name).isSome ↔ name ∈ record.names := by
  simp [get?, names, List.lookup_isSome_iff]

/-! ## Many insertions -/

/-- What is inserted counts by its last value, and the rest stays. -/
theorem get?_insertAll (record : Record α) (entries : List (String × α)) (name : String) :
    (record.insertAll entries).get? name =
      (lastIn? entries name).or (record.get? name) := by
  induction entries generalizing record with
  | nil => rfl
  | cons entry rest ih =>
    obtain ⟨key, value⟩ := entry
    calc (record.insertAll ((key, value) :: rest)).get? name
      _ = (lastIn? rest name).or ((record.insert key value).get? name) :=
        ih (record.insert key value)
      _ = (lastIn? rest name).or
            ((if name = key then some value else none).or (record.get? name)) := by
        rw [get?_insert]
        split
        · rfl
        · rfl
      _ = (lastIn? ((key, value) :: rest) name).or (record.get? name) := by
        rw [lastIn?_cons, Option.or_assoc]

/-- The names that were held keep their places, and the others follow where they first come. -/
theorem names_insertAll (record : Record α) (entries : List (String × α)) :
    (record.insertAll entries).names =
      record.names ++ ((entries.map (·.1)).filter (· ∉ record.names)).eraseDups := by
  induction entries generalizing record with
  | nil => exact (List.append_nil _).symm
  | cons entry rest ih =>
    obtain ⟨name, value⟩ := entry
    have later : (record.insertAll ((name, value) :: rest)).names = _ :=
      ih (record.insert name value)
    rw [later, names_insert, List.map_cons]
    by_cases held : name ∈ record.names
    · rw [if_pos held, List.filter_cons_of_neg (by simpa using held)]
    · rw [if_neg held, List.filter_cons_of_pos (by simpa using held), List.eraseDups_cons,
        List.filter_filter, List.append_assoc, List.singleton_append]
      have others : (fun other => decide (other ∉ record.names ++ [name])) =
          fun other => !other == name && decide (other ∉ record.names) := by
        funext other
        rw [Bool.eq_iff_iff]
        simp [and_comm]
      rw [others]

/-- A value is lost without a trace if its name is held and comes again. -/
theorem insertAll_insert {record : Record α} {name : String} (held : name ∈ record.names)
    {entries : List (String × α)} (again : name ∈ entries.map (·.1)) (value : α) :
    (record.insert name value).insertAll entries = record.insertAll entries := by
  induction entries generalizing record with
  | nil => cases again
  | cons entry rest ih =>
    obtain ⟨key, later⟩ := entry
    show ((record.insert name value).insert key later).insertAll rest =
      (record.insert key later).insertAll rest
    by_cases same : name = key
    · rw [same, insert_insert]
    · have still : name ∈ (record.insert key later).names := by
        rw [names_insert]
        split
        · exact held
        · exact List.mem_append_left _ held
      rw [insert_comm held same, ih still ((List.mem_cons.mp again).resolve_left same)]

/-- Where every name has its last value already, nothing changes. -/
theorem insertAll_of_settled {record : Record α} {entries : List (String × α)}
    (settled : ∀ name ∈ entries.map (·.1), record.get? name = lastIn? entries name) :
    record.insertAll entries = record := by
  induction entries with
  | nil => rfl
  | cons entry rest ih =>
    obtain ⟨name, value⟩ := entry
    have others : record.insertAll rest = record := by
      refine ih fun other later => ?_
      rw [settled other (List.mem_cons_of_mem _ later), lastIn?_cons,
        Option.or_of_isSome (lastIn?_isSome_iff.mpr later)]
    have own := settled name List.mem_cons_self
    show (record.insert name value).insertAll rest = record
    by_cases again : name ∈ rest.map (·.1)
    · have held : name ∈ record.names := by
        rw [← get?_isSome_iff, own]
        exact lastIn?_isSome_iff.mpr List.mem_cons_self
      rw [insertAll_insert held again, others]
    · rw [lastIn?_cons, lastIn?_eq_none again, if_pos rfl] at own
      rw [insert_of_get?_eq own, others]

theorem get?_merge (record other : Record α) (name : String) :
    (record.merge other).get? name =
      if name ∈ other.names then lastIn? other.entries name else record.get? name := by
  rw [merge, get?_insertAll]
  split
  · next held => exact Option.or_of_isSome (lastIn?_isSome_iff.mpr held)
  · next absent => rw [lastIn?_eq_none absent, Option.none_or]

theorem merge_merge (record other : Record α) :
    (record.merge other).merge other = record.merge other := by
  refine insertAll_of_settled fun name held => ?_
  rw [get?_merge]
  exact if_pos held

/-- **What is merged last wins.** A name of the record that is merged has the last value it has
there, and any other has the value it had. The names keep their places and new ones follow, each
once and where it first comes, so names are distinct after a merge exactly if they were before.
Merging once more changes nothing. Collecting entries puts every name once, where it first comes
and with its last value. -/
theorem merge_lastWins (record other : Record α) :
    (∀ name, (record.merge other).get? name =
        if name ∈ other.names then lastIn? other.entries name else record.get? name) ∧
      (record.merge other).names =
        record.names ++ (other.names.filter (· ∉ record.names)).eraseDups ∧
      ((record.merge other).Distinct ↔ record.Distinct) ∧
      (record.merge other).merge other = record.merge other ∧
      ∀ entries : List (String × α),
        (ofList entries).Distinct ∧
          (ofList entries).names = (entries.map (·.1)).eraseDups ∧
          ∀ name, (ofList entries).get? name = lastIn? entries name := by
  refine ⟨get?_merge record other, names_insertAll record other.entries,
    ⟨fun distinct => ?_, fun distinct => distinct.insertAll other.entries⟩,
    merge_merge record other, fun entries => ⟨distinct_ofList entries, ?_, fun name => ?_⟩⟩
  · unfold Distinct at distinct
    rw [merge, names_insertAll] at distinct
    exact (List.nodup_append.mp distinct).1
  · have collected := names_insertAll empty entries
    have allNew (names : List String) : names.filter (· ∉ (empty : Record α).names) = names :=
      List.filter_eq_self.mpr fun name _ => decide_eq_true List.not_mem_nil
    rw [allNew] at collected
    exact collected
  · exact (get?_insertAll empty entries name).trans Option.or_none

-- The second value of a name that comes twice stays where no merge can reach it.
example : (⟨[("gear", 1), ("speed", 2), ("gear", 3)]⟩ : Record Nat).merge
      ⟨[("drs", 4), ("gear", 5), ("drs", 6), ("gear", 7)]⟩ =
    ⟨[("gear", 7), ("speed", 2), ("gear", 3), ("drs", 6)]⟩ := by
  decide

end LapTelemetry.Wire.Record
