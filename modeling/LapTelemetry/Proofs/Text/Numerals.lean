import Mathlib.Algebra.GroupWithZero.Nat
import Mathlib.Data.List.Induction
import LapTelemetry.Text.Decimal

/-! # Which texts are the texts of numbers

Every text that reads as a number is that number padded to the length of the text
(`padded_of_value?`): the last digit is the remainder by ten, what stands before it reads as the
quotient, and where the quotient is zero it is all zeros. From this one fact the two ways of
writing a number are told by looks:

* without padding, a number is the text that reads as it and has no zero in front of another
  digit (`isUnpadded_iff`);
* padded to a width that is large enough, it is the text of that width that reads as it
  (`hasWidth_iff`).

How large a width must be is a matter of the number alone: a number has at most so many digits as
the power of ten it is below (`length_digits_le`), and a text of so many digits reads as no larger
number (`value?_lt`). -/

namespace LapTelemetry.Text.Decimal

set_option autoImplicit false

variable {text : List Char} {n : Nat}

/-! ## One digit more -/

theorem digits_of_small {d : Nat} (small : d < 10) : digits d = [digitChar d] := by
  rw [digits, if_pos small]

theorem digits_zero : digits 0 = ['0'] := digits_of_small (by decide)

theorem digits_ten_mul_add {k d : Nat} (positive : 0 < k) (small : d < 10) :
    digits (10 * k + d) = digits k ++ [digitChar d] := by
  have quotient : (10 * k + d) / 10 = k := by omega
  have remainder : (10 * k + d) % 10 = d := by omega
  rw [digits, if_neg (by omega), quotient, remainder]

theorem digit_of_digitValue? {c : Char} {d : Nat} (reads : digitValue? c = some d) :
    d < 10 ∧ digitChar d = c := by
  rw [digitValue?] at reads
  split at reads
  · next within =>
    have above : 48 ≤ c.toNat := UInt32.le_iff_toNat_le.mp within.1
    have below : c.toNat ≤ 57 := UInt32.le_iff_toNat_le.mp within.2
    obtain rfl := Option.some.inj reads
    refine ⟨by omega, ?_⟩
    rw [digitChar, Nat.add_sub_cancel' above, Char.ofNat_toNat]
  · cases reads

theorem exists_of_readFrom_concat {front : List Char} {c : Char} {start : Nat}
    (reads : readFrom start (front ++ [c]) = some n) :
    ∃ k d, readFrom start front = some k ∧ d < 10 ∧ c = digitChar d ∧ n = 10 * k + d := by
  rw [readFrom_append] at reads
  obtain ⟨k, readsFront, last⟩ := Option.bind_eq_some_iff.mp reads
  obtain ⟨d, readsLast, total⟩ := Option.bind_eq_some_iff.mp last
  obtain ⟨small, isDigit⟩ := digit_of_digitValue? readsLast
  exact ⟨k, d, readsFront, small, isDigit.symm, (Option.some.inj total).symm⟩

/-! ## Zeros and digits -/

theorem zeros_digits_of_readFrom (nonempty : text ≠ []) (reads : readFrom 0 text = some n) :
    List.replicate (text.length - (digits n).length) '0' ++ digits n = text := by
  induction text using List.reverseRecOn generalizing n with
  | nil => exact absurd rfl nonempty
  | append_singleton front c ih =>
    obtain ⟨k, d, readsFront, small, rfl, rfl⟩ := exists_of_readFrom_concat reads
    rw [List.length_append, List.length_singleton]
    by_cases only : front = []
    · subst only
      obtain rfl : 0 = k := Option.some.inj readsFront
      rw [Nat.mul_zero, Nat.zero_add, digits_of_small small]
      rfl
    · have before := ih only readsFront
      rcases Nat.eq_zero_or_pos k with rfl | positive
      · -- The front is zeros only, and the last of them is the digit of its number.
        rw [digits_zero] at before
        have zeros : List.replicate front.length '0' = front := by
          calc List.replicate front.length '0'
            _ = List.replicate (front.length - 1 + 1) '0' := by
              rw [Nat.sub_add_cancel (List.length_pos_iff.mpr only)]
            _ = List.replicate (front.length - 1) '0' ++ ['0'] := List.replicate_succ'
            _ = front := before
        rw [Nat.mul_zero, Nat.zero_add, digits_of_small small, List.length_singleton,
          Nat.add_sub_cancel, zeros]
      · rw [digits_ten_mul_add positive small, List.length_append, List.length_singleton,
          Nat.add_sub_add_right, ← List.append_assoc, before]

theorem toList_padded (width n : Nat) : (padded width n).toList =
    List.replicate (width - (digits n).length) '0' ++ digits n :=
  String.toList_ofList

/-- A text that reads as a number is the number padded to the length of the text. -/
theorem padded_of_value? (reads : value? text = some n) :
    (padded text.length n).toList = text := by
  rw [toList_padded]
  cases text with
  | nil => cases reads
  | cons c rest => exact zeros_digits_of_readFrom (List.cons_ne_nil c rest) reads

theorem digit_of_value? (reads : value? text = some n) : ∀ c ∈ text, '0' ≤ c ∧ c ≤ '9' := by
  intro c member
  rw [← padded_of_value? reads] at member
  exact digit_of_mem_padded member

/-! ## How many digits a number has -/

/-- A number below a power of ten has no more digits. Even zero has one, so widths start there. -/
theorem length_digits_le {width : Nat} (fits : n < 10 ^ (width + 1)) :
    (digits n).length ≤ width + 1 := by
  induction width generalizing n with
  | zero =>
    rw [digits_of_small fits]
    exact Nat.le_refl 1
  | succ width ih =>
    rw [digits]
    split
    · exact Nat.le_add_left 1 (width + 1)
    · rw [List.length_append, List.length_singleton]
      refine Nat.succ_le_succ (ih (Nat.div_lt_of_lt_mul ?_))
      rwa [← Nat.pow_succ']

theorem readFrom_lt {start : Nat} (reads : readFrom start text = some n) :
    n < (start + 1) * 10 ^ text.length := by
  induction text generalizing start with
  | nil =>
    obtain rfl := Option.some.inj reads
    simp
  | cons c rest ih =>
    obtain ⟨d, readsFirst, readsRest⟩ := Option.bind_eq_some_iff.mp reads
    have small : d < 10 := (digit_of_digitValue? readsFirst).1
    calc n
      _ < (10 * start + d + 1) * 10 ^ rest.length := ih readsRest
      _ ≤ ((start + 1) * 10) * 10 ^ rest.length := Nat.mul_le_mul_right _ (by omega)
      _ = (start + 1) * 10 ^ (c :: rest).length := by
        rw [List.length_cons, Nat.pow_succ', Nat.mul_assoc]

theorem value?_lt (reads : value? text = some n) : n < 10 ^ text.length := by
  cases text with
  | nil => cases reads
  | cons c rest => simpa using readFrom_lt reads

/-! ## The two ways of writing a number -/

/-- A number without padding: no zero stands in front of another digit. -/
structure IsUnpadded (text : List Char) (n : Nat) : Prop where
  reads : value? text = some n
  bare : text.head? = some '0' → text = ['0']

/-- A number with exactly so many digits. -/
structure HasWidth (width : Nat) (text : List Char) (n : Nat) : Prop where
  reads : value? text = some n
  length_eq : text.length = width

theorem bare_digits {n : Nat} (zero : (digits n).head? = some '0') : digits n = ['0'] := by
  induction n using Nat.strongRecOn with
  | ind n ih =>
    rw [digits] at zero ⊢
    split at zero
    · next small =>
      rw [if_pos small, Option.some.inj zero]
    · next large =>
      rw [List.head?_append, Option.or_of_isSome (List.isSome_head?.mpr (digits_ne_nil (n / 10)))]
        at zero
      have read := value?_digits (n / 10)
      rw [ih (n / 10) (by omega) zero] at read
      have none : 0 = n / 10 := Option.some.inj read
      omega

theorem isUnpadded_iff : IsUnpadded text n ↔ text = digits n := by
  refine ⟨fun ⟨reads, bare⟩ => ?_, ?_⟩
  · have shape := padded_of_value? reads
    rw [toList_padded] at shape
    cases zeros : text.length - (digits n).length with
    | zero =>
      rw [zeros] at shape
      exact shape.symm
    | succ count =>
      rw [zeros, List.replicate_succ, List.cons_append] at shape
      subst shape
      have nothing := (List.cons.inj (bare rfl)).2
      exact absurd (List.append_eq_nil_iff.mp nothing).2 (digits_ne_nil n)
  · rintro rfl
    exact ⟨value?_digits n, bare_digits⟩

theorem hasWidth_iff {width : Nat} :
    HasWidth (width + 1) text n ↔ n < 10 ^ (width + 1) ∧ text = (padded (width + 1) n).toList := by
  constructor
  · rintro ⟨reads, length⟩
    rw [← length]
    exact ⟨value?_lt reads, (padded_of_value? reads).symm⟩
  · rintro ⟨fits, rfl⟩
    refine ⟨value?_padded (width + 1) n, ?_⟩
    rw [toList_padded, List.length_append, List.length_replicate,
      Nat.sub_add_cancel (length_digits_le fits)]

end LapTelemetry.Text.Decimal
