import LapTelemetry.Point.Delivery

/-! # Tags in order

Tags stand in ascending order of their keys, and setting one keeps them so
(`Tags.ordered_setIn`). In order, setting a tag decides about its own key and leaves all
others (`Tags.mem_setIn_iff`). With that, the tags that a point carries are those that
the settings say (`mem_pointTags_iff`). -/

namespace LapTelemetry.Point

set_option autoImplicit false

namespace Tags

/-- Keys in ascending order, so that none of them occurs twice. -/
def Ordered (entries : List (String × String)) : Prop :=
  entries.Pairwise fun tag later => tag.1 < later.1

variable {entries : List (String × String)} {key value : String}

theorem lt_of_not_lt (notBefore : ¬ key < value) (other : key ≠ value) : value < key := by
  apply Decidable.byContradiction
  intro notBehind
  exact other (String.le_antisymm (String.not_lt.mp notBehind) (String.not_lt.mp notBefore))

/-- Setting a tag decides about its key, and about no other. -/
theorem mem_setIn_iff (ordered : Ordered entries) {other held : String} :
    (other, held) ∈ setIn key value entries ↔
      if other = key then held = value else (other, held) ∈ entries := by
  induction entries with
  | nil => by_cases same : other = key <;> simp [setIn, same]
  | cons tag rest ih =>
    obtain ⟨first, given⟩ := tag
    obtain ⟨behind, restOrdered⟩ := List.pairwise_cons.mp ordered
    rw [setIn]
    by_cases before : key < first
    · -- All keys are behind the new one, so it is not among them.
      have absent : (key, held) ∉ (first, given) :: rest := by
        intro member
        rcases List.mem_cons.mp member with same | later
        · cases same
          exact String.lt_irrefl _ before
        · exact String.lt_irrefl _ (String.lt_trans before (behind _ later))
      rw [if_pos before, List.mem_cons, Prod.mk.injEq]
      by_cases same : other = key
      · subst same
        simp [absent]
      · simp [same]
    rw [if_neg before]
    by_cases taken : key = first
    · subst taken
      have absent : (key, held) ∉ rest := fun later =>
        String.lt_irrefl key (behind (key, held) later)
      rw [if_pos rfl, List.mem_cons, List.mem_cons, Prod.mk.injEq, Prod.mk.injEq]
      by_cases same : other = key
      · subst same
        simp [absent]
      · simp [same]
    · rw [if_neg taken, List.mem_cons, List.mem_cons, Prod.mk.injEq, ih restOrdered]
      by_cases same : other = key
      · subst same
        simp [taken]
      · simp [same]

theorem ordered_setIn (ordered : Ordered entries) : Ordered (setIn key value entries) := by
  induction entries with
  | nil => exact List.pairwise_singleton _ _
  | cons tag rest ih =>
    obtain ⟨first, given⟩ := tag
    obtain ⟨behind, restOrdered⟩ := List.pairwise_cons.mp ordered
    rw [setIn]
    by_cases before : key < first
    · rw [if_pos before]
      refine List.pairwise_cons.mpr ⟨?_, ordered⟩
      refine List.forall_mem_cons.mpr ⟨before, fun later member => ?_⟩
      exact String.lt_trans before (behind later member)
    rw [if_neg before]
    by_cases taken : key = first
    · subst taken
      rw [if_pos rfl]
      exact List.pairwise_cons.mpr ⟨behind, restOrdered⟩
    · rw [if_neg taken]
      refine List.pairwise_cons.mpr ⟨?_, ih restOrdered⟩
      rintro ⟨other, held⟩ member
      by_cases same : other = key
      · rw [same]
        exact lt_of_not_lt before taken
      · have among := (mem_setIn_iff restOrdered).mp member
        rw [if_neg same] at among
        exact behind _ among

/-- Tags from a list are in order, whatever the order of the list. -/
theorem ordered_ofList (listed : List (String × String)) : Ordered (ofList listed).entries := by
  refine List.foldlRecOn (motive := fun tags : Tags => Ordered tags.entries) listed _ ?_ ?_
  · exact List.Pairwise.nil
  · intro tags ordered tag _
    exact ordered_setIn ordered

end Tags

/-- A tag that every point carries: the organisation, if there is one, under `org`, and the
configured tags under all other keys. -/
def Delivery.Carries (delivery : Delivery) (key value : String) : Prop :=
  match delivery.org with
  | some org => if key = "org" then value = org else (key, value) ∈ delivery.tags.entries
  | none => (key, value) ∈ delivery.tags.entries

theorem mem_pointTags_iff {delivery : Delivery} (ordered : Tags.Ordered delivery.tags.entries)
    {key value : String} :
    (key, value) ∈ delivery.pointTags.entries ↔ delivery.Carries key value := by
  rw [Delivery.pointTags, Delivery.Carries]
  cases delivery.org with
  | none => exact Iff.rfl
  | some org => exact Tags.mem_setIn_iff ordered

theorem ordered_pointTags {delivery : Delivery} (ordered : Tags.Ordered delivery.tags.entries) :
    Tags.Ordered delivery.pointTags.entries := by
  rw [Delivery.pointTags]
  cases delivery.org with
  | none => exact ordered
  | some org => exact Tags.ordered_setIn ordered

end LapTelemetry.Point
