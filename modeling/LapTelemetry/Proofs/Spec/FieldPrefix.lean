import LapTelemetry.Proofs.Text.Letters
import LapTelemetry.Spec.FieldName

/-! # The prefix of a field name

A field is named in snake case and without the prefix `m_` of its wire name. The prefix is
looked for in snake case, not in the wire name, so it is found in two sorts of names:

* in a wire name that has it: there the case is told apart in what is behind the prefix as if
  nothing were in front (`snakeAfter_underscore`), so it does not matter what is done first;
* in a wire name that only comes to have it, because snake case has made a small letter of
  `M` or put an underscore between the first letter and a capital (`gainsPrefix`). Such a name
  loses a letter of its own.

`normalize_eq_iff` says that these are all: without a name of the second sort, normalizing is
snake case of what is behind the prefix, and nothing else is lost. -/

namespace LapTelemetry.Spec.FieldName

open LapTelemetry.Text

set_option autoImplicit false

/-- Whether a wire name has the prefix, with something behind it. -/
def hasPrefix : List Char → Bool
  | 'm' :: '_' :: _ :: _ => true
  | _ => false

/-- A wire name without its prefix, unless nothing else is left. -/
def withoutPrefix : List Char → List Char
  | 'm' :: '_' :: c :: rest => c :: rest
  | name => name

/-- Whether a wire name without the prefix has it in snake case: `M_` becomes `m_`, and an
underscore goes between `m` and a capital, and between `M` and a capital in front of a small
letter. -/
def gainsPrefix : List Char → Bool
  | 'm' :: c :: _ => c.isUpper
  | 'M' :: '_' :: _ :: _ => true
  | 'M' :: c :: next :: _ => c.isUpper && next.isLower
  | _ => false

/-! ## Letters -/

variable {c : Char} {name rest : List Char}

theorem toLower_eq_underscore_iff : c.toLower = '_' ↔ c = '_' := by
  rw [← Char.toNat_inj, ← Char.toNat_inj, toNat_toLower]
  split
  · next upper =>
    have range := isUpper_iff.mp upper
    simp only [Char.reduceToNat]
    omega
  · rfl

theorem toLower_eq_m_iff : c.toLower = 'm' ↔ c = 'm' ∨ c = 'M' := by
  simp only [← Char.toNat_inj, toNat_toLower, Char.reduceToNat]
  split
  · next upper =>
    have range := isUpper_iff.mp upper
    omega
  · next other =>
    have outside : c.toNat ≠ 77 := fun capital => other (isUpper_iff.mpr (by omega))
    omega

/-! ## Snake case -/

/-- Behind an underscore snake case is as at the start of a name. -/
theorem snakeAfter_underscore (previous : Char) (rest : List Char) :
    snakeAfter previous ('_' :: rest) = '_' :: snake rest := by
  rw [snakeAfter, if_neg (by simp)]
  cases rest with
  | nil => rfl
  | cons c rest =>
    have noWord : startsWord '_' rest.head? = false := by simp [startsWord]
    rw [snakeAfter, noWord, Bool.and_false]
    rfl

theorem snakeAfter_word {previous : Char} (upper : c.isUpper = true)
    (word : startsWord previous rest.head? = true) :
    snakeAfter previous (c :: rest) = '_' :: c.toLower :: snakeAfter c rest := by
  rw [snakeAfter, upper, word]
  rfl

theorem snake_of_hasPrefix (held : hasPrefix name = true) :
    snake name = 'm' :: '_' :: snake (withoutPrefix name) ∧ withoutPrefix name ≠ [] := by
  unfold hasPrefix at held
  split at held
  · next c rest =>
    refine ⟨?_, List.cons_ne_nil c rest⟩
    rw [snake, snakeAfter_underscore]
    rfl
  · cases held

theorem snake_of_gainsPrefix (gained : gainsPrefix name = true) :
    ∃ c rest, snake name = 'm' :: '_' :: c :: rest := by
  unfold gainsPrefix at gained
  split at gained
  · next c rest =>
    rw [snake, snakeAfter_word gained rfl]
    exact ⟨_, _, rfl⟩
  · next c rest =>
    rw [snake, snakeAfter_underscore]
    exact ⟨_, _, rfl⟩
  · next c next rest _ =>
    obtain ⟨upper, lower⟩ := Bool.and_eq_true_iff.mp gained
    have word : startsWord 'M' (next :: rest).head? = true := by simp [startsWord, lower]
    rw [snake, snakeAfter_word upper word]
    exact ⟨_, _, rfl⟩
  · cases gained

/-- There is no other way to the prefix in snake case. -/
theorem prefix_of_snake {d : Char} (found : snake name = 'm' :: '_' :: d :: rest) :
    hasPrefix name = true ∨ gainsPrefix name = true := by
  cases name with
  | nil => cases found
  | cons first others =>
    rw [snake] at found
    obtain ⟨isM, found⟩ := List.cons.inj found
    cases others with
    | nil => cases found
    | cons c behind =>
      -- The underscore in second place stands in the wire name, or snake case has put it there.
      by_cases mark : c = '_'
      · subst mark
        rw [snakeAfter_underscore] at found
        cases behind with
        | nil => cases found
        | cons next later =>
          rcases toLower_eq_m_iff.mp isM with rfl | rfl
          · exact .inl rfl
          · exact .inr rfl
      · rw [snakeAfter] at found
        split at found
        · next word =>
          obtain ⟨upper, word⟩ := Bool.and_eq_true_iff.mp word
          right
          rcases toLower_eq_m_iff.mp isM with rfl | rfl
          · exact upper
          · cases behind with
            | nil => cases word
            | cons next later =>
              have lower : next.isLower = true := by simpa [startsWord] using word
              rw [gainsPrefix, upper, lower]
              · rfl
              · exact mark
        · exact absurd (toLower_eq_underscore_iff.mp (List.cons.inj found).1) mark

/-! ## Normalizing -/

theorem normalize_of_prefix {d : Char} (found : snake name = 'm' :: '_' :: d :: rest) :
    snake name = 'm' :: '_' :: normalize name := by
  rw [normalize, found]
  rfl

theorem normalize_of_hasPrefix (held : hasPrefix name = true) :
    normalize name = snake (withoutPrefix name) := by
  obtain ⟨found, something⟩ := snake_of_hasPrefix held
  obtain ⟨c, rest, behind⟩ := List.exists_cons_of_ne_nil something
  have stripped := normalize_of_prefix (found.trans (by rw [behind, snake]))
  rw [found] at stripped
  exact (List.cons.inj (List.cons.inj stripped).2).2.symm

theorem normalize_of_gainsPrefix (gained : gainsPrefix name = true) :
    snake name = 'm' :: '_' :: normalize name := by
  obtain ⟨c, rest, found⟩ := snake_of_gainsPrefix gained
  exact normalize_of_prefix found

theorem normalize_of_neither (noPrefix : hasPrefix name = false)
    (notGained : gainsPrefix name = false) : normalize name = snake name := by
  rw [normalize]
  split
  · next found =>
    rcases prefix_of_snake found with held | gained
    · exact absurd (noPrefix.symm.trans held) Bool.false_ne_true
    · exact absurd (notGained.symm.trans gained) Bool.false_ne_true
  · rfl

theorem withoutPrefix_of_not_hasPrefix (noPrefix : hasPrefix name = false) :
    withoutPrefix name = name := by
  unfold withoutPrefix
  split
  · cases noPrefix
  · rfl

theorem gainsPrefix_of_hasPrefix (held : hasPrefix name = true) : gainsPrefix name = false := by
  unfold hasPrefix at held
  split at held
  · rfl
  · cases held

/-- Without `gainsPrefix` it does not matter whether the prefix is taken from the wire name or from
its snake case; with it, it does. -/
theorem normalize_eq_snake_withoutPrefix_iff :
    normalize name = snake (withoutPrefix name) ↔ gainsPrefix name = false := by
  by_cases held : hasPrefix name = true
  · simp only [normalize_of_hasPrefix held, gainsPrefix_of_hasPrefix held]
  · have noPrefix := eq_false_of_ne_true held
    rw [withoutPrefix_of_not_hasPrefix noPrefix]
    by_cases gained : gainsPrefix name = true
    · -- Two characters are gone that the other way round would be there.
      have shorter := congrArg List.length (normalize_of_gainsPrefix gained)
      simp only [List.length_cons] at shorter
      refine iff_of_false (fun same => ?_) (by simp [gained])
      rw [same] at shorter
      omega
    · have notGained := eq_false_of_ne_true gained
      exact iff_of_true (normalize_of_neither noPrefix notGained) notGained

/-- What snake case has more than the name of the field. -/
theorem snake_eq_append_normalize : snake name =
    (if hasPrefix name ∨ gainsPrefix name then ['m', '_'] else []) ++ normalize name := by
  split
  · next either =>
    rcases either with held | gained
    · rw [normalize_of_hasPrefix held]
      exact (snake_of_hasPrefix held).1
    · exact normalize_of_gainsPrefix gained
  · next neither =>
    obtain ⟨noPrefix, notGained⟩ := not_or.mp neither
    exact (normalize_of_neither (eq_false_of_ne_true noPrefix)
      (eq_false_of_ne_true notGained)).symm

/-- The name of a field is the snake case of what stands behind the prefix of its wire name if and
only if the wire name does not come to have the prefix in snake case alone. Against snake case a
name loses `m_` and nothing else, and only if the wire name has it or comes to have it, which are
never both. -/
theorem normalize_eq_iff (name : String) :
    (onText normalize name = onText (fun wire => snake (withoutPrefix wire)) name ↔
        gainsPrefix name.toList = false) ∧
      onText snake name =
        (if hasPrefix name.toList ∨ gainsPrefix name.toList then "m_" else "") ++
          onText normalize name ∧
      ¬ (hasPrefix name.toList ∧ gainsPrefix name.toList) := by
  refine ⟨?_, ?_, ?_⟩
  · rw [onText, onText, String.ofList_inj]
    exact normalize_eq_snake_withoutPrefix_iff
  · rw [onText, snake_eq_append_normalize, String.ofList_append]
    split <;> rfl
  · rintro ⟨held, gained⟩
    exact absurd ((gainsPrefix_of_hasPrefix held).symm.trans gained) Bool.false_ne_true

/-- A wire name without the prefix loses its first letter, since a capital follows it. -/
theorem normalize_takes_first_letter :
    hasPrefix "mTemp".toList = false ∧ onText normalize "mTemp" = "temp" ∧
      onText (fun wire => snake (withoutPrefix wire)) "mTemp" = "m_temp" := by
  decide

end LapTelemetry.Spec.FieldName
