/-! # Capitals and small letters

The classes of letters are two ranges of characters, and a change of case is a step of 32 from one
into the other. Said of the numbers of characters (`toNat_toLower`, `toNat_toUpper`), this leaves
arithmetic of everything else about case; characters outside the ranges stay what they are. -/

namespace LapTelemetry.Text

set_option autoImplicit false

variable {c : Char}

/-! ## Ranges -/

theorem isUpper_iff : c.isUpper = true ↔ 65 ≤ c.toNat ∧ c.toNat ≤ 90 := by
  refine decide_eq_true_iff.trans ?_
  simp [UInt32.le_iff_toNat_le]

theorem isLower_iff : c.isLower = true ↔ 97 ≤ c.toNat ∧ c.toNat ≤ 122 := by
  refine Bool.and_eq_true_iff.trans ?_
  simp [UInt32.le_iff_toNat_le]

theorem isUpper_of_isLower (lower : c.isLower = true) : c.isUpper = false := by
  refine eq_false_of_ne_true fun upper => ?_
  obtain ⟨low, -⟩ := isLower_iff.mp lower
  obtain ⟨-, high⟩ := isUpper_iff.mp upper
  omega

theorem isAlpha_of_isLower (lower : c.isLower = true) : c.isAlpha = true :=
  Bool.or_eq_true_iff.mpr (Or.inr lower)

theorem isAlpha_of_isDigit (digit : c.isDigit = true) : c.isAlpha = false := by
  have high : c.toNat ≤ 57 := (Char.isDigit_iff_toNat.mp digit).2
  refine Bool.or_eq_false_iff.mpr ⟨eq_false_of_ne_true fun upper => ?_,
    eq_false_of_ne_true fun lower => ?_⟩
  · obtain ⟨above, -⟩ := isUpper_iff.mp upper
    omega
  · obtain ⟨above, -⟩ := isLower_iff.mp lower
    omega

/-! ## Change of case -/

theorem toNat_toLower (c : Char) :
    c.toLower.toNat = if c.isUpper then c.toNat + 32 else c.toNat := by
  unfold Char.toLower
  split
  · next inside =>
    have upper : c.isUpper = true := decide_eq_true inside
    have high := (isUpper_iff.mp upper).2
    rw [if_pos upper]
    calc (c.val + 32).toNat
      _ = (c.toNat + 32) % 4294967296 := UInt32.toNat_add c.val 32
      _ = c.toNat + 32 := Nat.mod_eq_of_lt (by omega)
  · next outside =>
    have other : ¬ c.isUpper = true := fun upper => outside (of_decide_eq_true upper)
    rw [if_neg other]

theorem toNat_toUpper (c : Char) :
    c.toUpper.toNat = if c.isLower then c.toNat - 32 else c.toNat := by
  unfold Char.toUpper
  split
  · next inside =>
    have lower : c.isLower = true := (Bool.decide_and ..).symm.trans (decide_eq_true inside)
    have within := isLower_iff.mp lower
    have small := c.val.toNat_lt
    rw [if_pos lower]
    calc (c.val + (65 - 97)).toNat
      _ = (c.toNat + 4294967264) % 4294967296 := UInt32.toNat_add c.val (65 - 97)
      _ = c.toNat - 32 := by omega
  · next outside =>
    have other : ¬ c.isLower = true := fun lower =>
      outside (of_decide_eq_true ((Bool.decide_and ..).trans lower))
    rw [if_neg other]

theorem toLower_eq_self (other : c.isUpper = false) : c.toLower = c := by
  apply Char.toNat_inj.mp
  rw [toNat_toLower, other, if_neg Bool.false_ne_true]

theorem toUpper_eq_self (other : c.isLower = false) : c.toUpper = c := by
  apply Char.toNat_inj.mp
  rw [toNat_toUpper, other, if_neg Bool.false_ne_true]

theorem isUpper_toLower (c : Char) : c.toLower.isUpper = false := by
  refine eq_false_of_ne_true fun upper => ?_
  have range := isUpper_iff.mp upper
  rw [toNat_toLower] at range
  split at range
  · next capital =>
    have own := isUpper_iff.mp capital
    omega
  · next other => exact other (isUpper_iff.mpr range)

theorem isUpper_toUpper (lower : c.isLower = true) : c.toUpper.isUpper = true := by
  have range := isLower_iff.mp lower
  rw [isUpper_iff, toNat_toUpper, if_pos lower]
  omega

theorem toLower_toUpper (lower : c.isLower = true) : c.toUpper.toLower = c := by
  have range := isLower_iff.mp lower
  apply Char.toNat_inj.mp
  rw [toNat_toLower, isUpper_toUpper lower, if_pos rfl, toNat_toUpper, if_pos lower]
  omega

end LapTelemetry.Text
