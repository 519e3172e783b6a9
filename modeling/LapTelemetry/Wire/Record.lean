/-! # Records: ordered named entries

A record is a list of named entries. The order is the order of declaration,
which is also the order on the wire, and a name may occur more than once when
entries are pushed. Look-up, replacement and removal act on the first entry of a
name. `insert` is the operation that keeps names distinct: it replaces in place
or appends, and `merge` and `ofList` are folds of it.

The record is generic in what it holds: decoded values, or the fields of a
point. -/

namespace LapTelemetry.Wire

set_option autoImplicit false

/-- Named entries in order. -/
structure Record (α : Type) where
  entries : List (String × α)
  deriving DecidableEq, Repr

namespace Record

variable {α β : Type}

/-- The record without entries. -/
def empty : Record α := ⟨[]⟩

instance : Inhabited (Record α) := ⟨empty⟩

/-- The names in order. -/
def names (record : Record α) : List String := record.entries.map (·.1)

/-- How many entries there are. -/
def size (record : Record α) : Nat := record.entries.length

/-- Append an entry, whether or not its name is taken. -/
def push (record : Record α) (name : String) (value : α) : Record α :=
  ⟨record.entries ++ [(name, value)]⟩

/-- Replace the first entry of a name, or append. -/
def insertInto (name : String) (value : α) : List (String × α) → List (String × α)
  | [] => [(name, value)]
  | (other, held) :: rest =>
    if other = name then (name, value) :: rest else (other, held) :: insertInto name value rest

/-- Set the entry of a name: in place if it exists, at the end otherwise. -/
def insert (record : Record α) (name : String) (value : α) : Record α :=
  ⟨insertInto name value record.entries⟩

/-- The value of the first entry of a name. -/
def get? (record : Record α) (name : String) : Option α := record.entries.lookup name

/-- Remove the first entry of a name. -/
def removeFrom (name : String) : List (String × α) → List (String × α)
  | [] => []
  | (other, held) :: rest => if other = name then rest else (other, held) :: removeFrom name rest

/-- The record without the first entry of a name; the removed value is `get?` of it. -/
def erase (record : Record α) (name : String) : Record α := ⟨removeFrom name record.entries⟩

/-- Insert every entry of a list in order. -/
def insertAll (record : Record α) (entries : List (String × α)) : Record α :=
  entries.foldl (fun acc (name, value) => acc.insert name value) record

/-- Set every entry of the other record, which wins where names meet. -/
def merge (record other : Record α) : Record α := record.insertAll other.entries

/-- Collect entries by inserting them, so that no name occurs twice. -/
def ofList (entries : List (String × α)) : Record α := empty.insertAll entries

/-- Keep the entries whose value has an image, in order. -/
def filterMap (f : α → Option β) (record : Record α) : Record β :=
  ⟨record.entries.filterMap fun (name, value) => (f value).map (name, ·)⟩

/-! ## What one insertion does -/

theorem get?_insert (record : Record α) (name other : String) (value : α) :
    (record.insert name value).get? other = if other = name then some value else record.get? other := by
  obtain ⟨entries⟩ := record
  simp only [get?, insert]
  induction entries with
  | nil =>
    rw [insertInto, List.lookup_cons, List.lookup_nil]
    by_cases h : other = name
    · rw [if_pos h, beq_iff_eq.mpr h]
    · rw [if_neg h, beq_eq_false_iff_ne.mpr h]
  | cons entry rest ih =>
    obtain ⟨key, held⟩ := entry
    rw [insertInto, List.lookup_cons]
    by_cases taken : key = name
    · rw [if_pos taken, List.lookup_cons, taken]
      by_cases h : other = name
      · rw [if_pos h, beq_iff_eq.mpr h]
      · rw [if_neg h, beq_eq_false_iff_ne.mpr h]
    · rw [if_neg taken, List.lookup_cons, ih]
      by_cases h : other = key
      · have differs : ¬ other = name := fun same => taken (h ▸ same)
        simp only [if_neg differs, beq_iff_eq.mpr h]
      · rw [beq_eq_false_iff_ne.mpr h]

theorem names_insert (record : Record α) (name : String) (value : α) :
    (record.insert name value).names =
      if name ∈ record.names then record.names else record.names ++ [name] := by
  obtain ⟨entries⟩ := record
  simp only [names, insert]
  induction entries with
  | nil => simp [insertInto]
  | cons entry rest ih =>
    obtain ⟨key, held⟩ := entry
    by_cases taken : key = name
    · subst taken; simp [insertInto]
    · have other : ¬ name = key := fun h => taken h.symm
      simp only [insertInto, taken, if_false, List.map_cons, ih, List.mem_cons, other, false_or]
      by_cases present : name ∈ rest.map (·.1) <;> simp [present]

end Record

end LapTelemetry.Wire
