/-! # An element in its place

A list split at an element shows what stands before the element and what behind it.
A list with one element more is split either at the new element or where it could be
split before (`split_concat`), and of two splits of one list the same place is meant
or each element stands beside the other (`split_cases`). Two elements stand side by side in a list
at its front or behind its first element (`pair_infix_cons_iff`). -/

namespace LapTelemetry

set_option autoImplicit false

variable {α : Type}

theorem split_concat {items before later : List α} {last item : α}
    (split : items ++ [last] = before ++ item :: later) :
    before = items ∧ item = last ∧ later = [] ∨
      ∃ rest, items = before ++ item :: rest ∧ later = rest ++ [last] := by
  rcases List.eq_nil_or_concat later with rfl | ⟨rest, final, rfl⟩
  · obtain ⟨same, final⟩ := List.append_inj' split rfl
    exact .inl ⟨same.symm, (List.singleton_inj.mp final).symm, rfl⟩
  · rw [List.concat_eq_append, ← List.cons_append, ← List.append_assoc] at split
    obtain ⟨same, final⟩ := List.append_inj' split rfl
    exact .inr ⟨rest, same, by rw [List.concat_eq_append, List.singleton_inj.mp final]⟩

theorem split_cases {before later before' later' : List α} {item item' : α}
    (splits : before ++ item :: later = before' ++ item' :: later') :
    (before = before' ∧ item = item' ∧ later = later') ∨ (item ∈ before' ∧ item' ∈ later) ∨
      (item' ∈ before ∧ item ∈ later') := by
  induction before generalizing before' with
  | nil =>
    cases before' with
    | nil => exact .inl ⟨rfl, List.cons.inj splits⟩
    | cons first others =>
      obtain ⟨rfl, rfl⟩ := List.cons.inj splits
      exact .inr (.inl ⟨List.mem_cons_self, List.mem_append_right _ List.mem_cons_self⟩)
  | cons first others ih =>
    cases before' with
    | nil =>
      obtain ⟨rfl, rfl⟩ := List.cons.inj splits
      exact .inr (.inr ⟨List.mem_cons_self, List.mem_append_right _ List.mem_cons_self⟩)
    | cons first' others' =>
      obtain ⟨rfl, rest⟩ := List.cons.inj splits
      rcases ih rest with ⟨rfl, same⟩ | ⟨early, late⟩ | ⟨early, late⟩
      · exact .inl ⟨rfl, same⟩
      · exact .inr (.inl ⟨List.mem_cons_of_mem _ early, late⟩)
      · exact .inr (.inr ⟨List.mem_cons_of_mem _ early, late⟩)

theorem pair_infix_cons_iff {first second item : α} {rest : List α} :
    [first, second] <:+: item :: rest ↔
      (item = first ∧ rest.head? = some second) ∨ [first, second] <:+: rest := by
  rw [List.infix_cons_iff, List.cons_prefix_cons, List.head?_eq_some_iff]
  refine or_congr_left (and_congr eq_comm ?_)
  exact ⟨fun ⟨tail, same⟩ => ⟨tail, same.symm⟩, fun ⟨tail, same⟩ => ⟨tail, same.symm⟩⟩

end LapTelemetry
