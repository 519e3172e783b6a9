import LapTelemetry.Wire.Record

/-! # Names that occur once

A record that is pushed together may hold a name twice. One that entries have only been
inserted into holds every name once (`distinct_ofList`): an insertion whose name is taken
changes no name, and any other puts its entry at the end. So inserting entries whose names
are all new appends them (`entries_insertAll`), and collecting the entries of a record with
distinct names gives the record back. What is held after insertions was held before or has
been inserted (`mem_insertAll`). -/

namespace LapTelemetry.Wire.Record

set_option autoImplicit false

variable {α β : Type}

/-- No name occurs twice. -/
def Distinct (record : Record α) : Prop := record.names.Nodup

/-! ## Inserting -/

theorem entries_insert_of_new {record : Record α} {name : String} (new : name ∉ record.names)
    (value : α) : (record.insert name value).entries = record.entries ++ [(name, value)] := by
  obtain ⟨entries⟩ := record
  simp only [names, insert] at new ⊢
  induction entries with
  | nil => rfl
  | cons entry rest ih =>
    obtain ⟨other, held⟩ := entry
    obtain ⟨differs, others⟩ := not_or.mp (fun taken => new (List.mem_cons.mpr taken))
    rw [insertInto, if_neg (Ne.symm differs), ih others, List.cons_append]

theorem mem_insert {record : Record α} {name : String} {value : α} {entry : String × α}
    (member : entry ∈ (record.insert name value).entries) :
    entry = (name, value) ∨ entry ∈ record.entries := by
  obtain ⟨entries⟩ := record
  simp only [insert] at member ⊢
  induction entries with
  | nil => exact .inl (List.mem_singleton.mp member)
  | cons first rest ih =>
    obtain ⟨other, held⟩ := first
    rw [insertInto] at member
    split at member
    · exact (List.mem_cons.mp member).imp_right (List.mem_cons_of_mem _)
    · rcases List.mem_cons.mp member with rfl | later
      · exact .inr List.mem_cons_self
      · exact (ih later).imp_right (List.mem_cons_of_mem _)

theorem Distinct.insert {record : Record α} (distinct : record.Distinct) (name : String)
    (value : α) : (record.insert name value).Distinct := by
  unfold Distinct
  rw [names_insert]
  split
  · exact distinct
  · next new =>
    refine List.nodup_append.mpr ⟨distinct, by simp, ?_⟩
    intro other taken last isLast same
    rw [List.mem_singleton.mp isLast] at same
    exact new (same ▸ taken)

/-! ## Inserting many -/

theorem insertAll_append (record : Record α) (front back : List (String × α)) :
    record.insertAll (front ++ back) = (record.insertAll front).insertAll back :=
  List.foldl_append

theorem Distinct.insertAll {record : Record α} (distinct : record.Distinct)
    (entries : List (String × α)) : (record.insertAll entries).Distinct := by
  induction entries generalizing record with
  | nil => exact distinct
  | cons entry rest ih => exact ih (distinct.insert entry.1 entry.2)

theorem distinct_empty : (empty : Record α).Distinct := List.nodup_nil

theorem distinct_ofList (entries : List (String × α)) : (ofList entries).Distinct :=
  distinct_empty.insertAll entries

theorem mem_insertAll {record : Record α} {entries : List (String × α)} {entry : String × α}
    (member : entry ∈ (record.insertAll entries).entries) :
    entry ∈ entries ∨ entry ∈ record.entries := by
  induction entries generalizing record with
  | nil => exact .inr member
  | cons first rest ih =>
    rcases ih member with later | held
    · exact .inl (List.mem_cons_of_mem _ later)
    · rcases mem_insert held with rfl | before
      · exact .inl List.mem_cons_self
      · exact .inr before

theorem mem_ofList {entries : List (String × α)} {entry : String × α}
    (member : entry ∈ (ofList entries).entries) : entry ∈ entries :=
  (mem_insertAll member).resolve_right List.not_mem_nil

/-- Entries of new names are appended. -/
theorem entries_insertAll {record : Record α} {entries : List (String × α)}
    (new : (record.names ++ entries.map (·.1)).Nodup) :
    (record.insertAll entries).entries = record.entries ++ entries := by
  induction entries generalizing record with
  | nil => exact (List.append_nil _).symm
  | cons entry rest ih =>
    obtain ⟨name, value⟩ := entry
    rw [List.map_cons] at new
    have absent : name ∉ record.names := fun taken =>
      (List.nodup_append.mp new).2.2 name taken name List.mem_cons_self rfl
    have appended := entries_insert_of_new absent value
    have next : ((record.insert name value).names ++ rest.map (·.1)).Nodup := by
      rw [names_insert, if_neg absent, List.append_assoc]
      exact new
    calc (record.insertAll ((name, value) :: rest)).entries
      _ = (record.insert name value).entries ++ rest := ih next
      _ = record.entries ++ (name, value) :: rest := by
        rw [appended, List.append_assoc, List.singleton_append]

theorem entries_ofList {entries : List (String × α)} (distinct : (entries.map (·.1)).Nodup) :
    (ofList entries).entries = entries := by
  have new : ((empty : Record α).names ++ entries.map (·.1)).Nodup := distinct
  exact entries_insertAll new

theorem ofList_of_distinct {record : Record α} (distinct : record.Distinct) :
    ofList record.entries = record := by
  obtain ⟨entries⟩ := record
  exact congrArg mk (entries_ofList distinct)

/-! ## Leaving entries out -/

theorem names_filterMap_sublist (record : Record α) (f : α → Option β) :
    (record.filterMap f).names.Sublist record.names := by
  obtain ⟨entries⟩ := record
  simp only [names, Record.filterMap]
  induction entries with
  | nil => exact .slnil
  | cons entry rest ih =>
    obtain ⟨name, value⟩ := entry
    rw [List.filterMap_cons, List.map_cons]
    cases f value with
    | none => exact ih.cons name
    | some image => exact ih.cons_cons name

theorem Distinct.filterMap {record : Record α} (distinct : record.Distinct) (f : α → Option β) :
    (record.filterMap f).Distinct :=
  distinct.sublist (names_filterMap_sublist record f)

end LapTelemetry.Wire.Record
