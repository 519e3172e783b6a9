import LapTelemetry.Proofs.Spec.FieldPrefix
import LapTelemetry.Proofs.Splits

/-! # Snake case

Snake case makes a small letter of every capital and puts an underscore in front of some of them,
and does nothing else to a name. Three things follow from how the underscores are put:

* they stand in front of a letter, and never behind another underscore, so two come together
  only where they do in the name (`doubled_snakeAfter_iff`);
* without them, and without those of the name, what is left is the name in small letters
  (`withoutUnderscores_snakeAfter`);
* a name without capitals gets none and stays as it is (`snakeAfter_append_of_small`), so snake
  case is what it would be made of again.

The start of a name is no place for an underscore, as if one stood in front of it already
(`snake_eq_snakeAfter`), so whatever holds behind any character holds of whole names. -/

namespace LapTelemetry.Spec.FieldName

open LapTelemetry.Text

set_option autoImplicit false

/-- A name without its underscores. -/
def withoutUnderscores (name : List Char) : List Char := name.filter (· != '_')

/-- A name without capitals. -/
def IsSmall (name : List Char) : Prop := ∀ c ∈ name, c.isUpper = false

variable {c previous : Char} {name rest : List Char}

theorem snake_eq_snakeAfter (name : List Char) : snake name = snakeAfter '_' name := by
  have same := snakeAfter_underscore '_' name
  rw [snakeAfter, if_neg (by simp)] at same
  exact (List.cons.inj same).2.symm

theorem snakeAfter_noWord (noWord : (c.isUpper && startsWord previous rest.head?) = false) :
    snakeAfter previous (c :: rest) = c.toLower :: snakeAfter c rest := by
  rw [snakeAfter, noWord]
  rfl

/-- What is put in front of a character, if anything is. -/
theorem snakeAfter_cases (previous c : Char) (rest : List Char) :
    (c.isUpper = true ∧ previous ≠ '_' ∧
        snakeAfter previous (c :: rest) = '_' :: c.toLower :: snakeAfter c rest) ∨
      snakeAfter previous (c :: rest) = c.toLower :: snakeAfter c rest := by
  cases word : c.isUpper && startsWord previous rest.head? with
  | false => exact .inr (snakeAfter_noWord word)
  | true =>
    obtain ⟨upper, word⟩ := Bool.and_eq_true_iff.mp word
    refine .inl ⟨upper, ?_, snakeAfter_word upper word⟩
    rintro rfl
    simp [startsWord] at word

theorem isSmall_snakeAfter (previous : Char) (name : List Char) :
    IsSmall (snakeAfter previous name) := by
  induction name generalizing previous with
  | nil => simp [IsSmall, snakeAfter]
  | cons c rest ih =>
    have lowered : IsSmall (c.toLower :: snakeAfter c rest) :=
      List.forall_mem_cons.mpr ⟨isUpper_toLower c, ih c⟩
    rcases snakeAfter_cases previous c rest with ⟨-, -, put⟩ | none
    · rw [put]
      exact List.forall_mem_cons.mpr ⟨rfl, lowered⟩
    · rw [none]
      exact lowered

theorem withoutUnderscores_snakeAfter (previous : Char) (name : List Char) :
    withoutUnderscores (snakeAfter previous name) = withoutUnderscores (name.map Char.toLower) := by
  induction name generalizing previous with
  | nil => rfl
  | cons c rest ih =>
    have lowered : withoutUnderscores (c.toLower :: snakeAfter c rest) =
        withoutUnderscores ((c :: rest).map Char.toLower) := by
      have later := ih c
      simp only [withoutUnderscores, List.map_cons, List.filter_cons] at later ⊢
      rw [later]
    rcases snakeAfter_cases previous c rest with ⟨-, -, put⟩ | none
    · rw [put, ← lowered]
      rfl
    · rw [none, lowered]

/-- **Two underscores come together only where they do in the name.** The character in front of the
name is looked at as well. -/
theorem doubled_snakeAfter_iff (previous : Char) (name : List Char) :
    ['_', '_'] <:+: previous.toLower :: snakeAfter previous name ↔
      ['_', '_'] <:+: previous :: name := by
  induction name generalizing previous with
  | nil => simp [pair_infix_cons_iff, snakeAfter]
  | cons c rest ih =>
    have inName : ['_', '_'] <:+: previous :: c :: rest ↔
        (previous = '_' ∧ c = '_') ∨ ['_', '_'] <:+: c :: rest := by
      rw [pair_infix_cons_iff, List.head?_cons, Option.some_inj]
    rcases snakeAfter_cases previous c rest with ⟨upper, apart, put⟩ | none
    · have letter : c ≠ '_' := by
        rintro rfl
        cases upper
      rw [put, pair_infix_cons_iff, pair_infix_cons_iff, ih, inName]
      simp [toLower_eq_underscore_iff, apart, letter]
    · rw [none, pair_infix_cons_iff, ih, inName]
      simp [toLower_eq_underscore_iff]

/-- Where there are no capitals nothing changes. -/
theorem snakeAfter_append_of_small (small : IsSmall name) (previous : Char) (rest : List Char) :
    snakeAfter previous (name ++ rest) = name ++ snakeAfter (name.getLastD previous) rest := by
  induction name generalizing previous with
  | nil => rfl
  | cons c name ih =>
    obtain ⟨first, others⟩ := List.forall_mem_cons.mp small
    have noWord (next? : Option Char) : (c.isUpper && startsWord previous next?) = false := by
      rw [first, Bool.false_and]
    rw [List.cons_append, snakeAfter_noWord (noWord _), ih others,
      toLower_eq_self first, List.getLastD_cons]
    rfl

theorem snake_of_small (small : IsSmall name) : snake name = name := by
  have same := snakeAfter_append_of_small small '_' []
  rwa [List.append_nil, snakeAfter, List.append_nil, ← snake_eq_snakeAfter] at same

/-- **Snake case has no capitals, keeps every other character in its place, and puts underscores
only where they stand alone.** A name stays as it is exactly if it has no capitals, and so does a
name in snake case. -/
theorem snake_keeps (name : List Char) :
    IsSmall (snake name) ∧
      withoutUnderscores (snake name) = withoutUnderscores (name.map Char.toLower) ∧
      (['_', '_'] <:+: snake name ↔ ['_', '_'] <:+: name) ∧
      (snake name = name ↔ IsSmall name) ∧ snake (snake name) = snake name := by
  have small : IsSmall (snake name) := by
    rw [snake_eq_snakeAfter]
    exact isSmall_snakeAfter '_' name
  refine ⟨small, ?_, ?_, ⟨fun same => same ▸ small, snake_of_small⟩, snake_of_small small⟩
  · rw [snake_eq_snakeAfter]
    exact withoutUnderscores_snakeAfter '_' name
  · cases name with
    | nil => rfl
    | cons c rest => exact doubled_snakeAfter_iff c rest

end LapTelemetry.Spec.FieldName
