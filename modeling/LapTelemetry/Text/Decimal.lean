/-! # Whole numbers as decimal text

Numbers are written with the digits `0` to `9`, most significant first, without
a leading zero. `padded` fills up with zeros on the left and never cuts.
`value?` reads digits back: it accepts leading zeros and refuses everything that
is not a digit, so no sign, separator or foreign digit passes. Whatever is written
consists of digits (`digit_of_mem_padded`) and reads back (`value?_digits`,
`value?_padded`). -/

namespace LapTelemetry.Text.Decimal

set_option autoImplicit false

/-- The character for a digit below ten. -/
def digitChar (d : Nat) : Char := Char.ofNat (48 + d)

/-- The decimal digits of a number; zero is the single digit `0`. -/
def digits (n : Nat) : List Char :=
  if n < 10 then [digitChar n] else digits (n / 10) ++ [digitChar (n % 10)]
termination_by n
decreasing_by omega

/-- The decimal text of a number. -/
def ofNat (n : Nat) : String := String.ofList (digits n)

/-- The decimal text of an integer: a minus sign in front of a negative one. -/
def ofInt (i : Int) : String := if i < 0 then "-" ++ ofNat i.natAbs else ofNat i.natAbs

/-- At least `width` digits, with zeros in front. -/
def padded (width n : Nat) : String :=
  let text := digits n
  String.ofList (List.replicate (width - text.length) '0' ++ text)

/-- The value of a digit character. -/
def digitValue? (c : Char) : Option Nat :=
  if '0' ≤ c ∧ c ≤ '9' then some (c.toNat - 48) else none

/-- Digits read after the number `acc`. -/
def readFrom (acc : Nat) : List Char → Option Nat
  | [] => some acc
  | c :: rest => (digitValue? c).bind fun d => readFrom (10 * acc + d) rest

/-- The number a nonempty list of digits spells. -/
def value? : List Char → Option Nat
  | [] => none
  | digits => readFrom 0 digits

theorem digits_ne_nil (n : Nat) : digits n ≠ [] := by
  rw [digits]; split <;> simp

theorem readFrom_append (acc : Nat) (front back : List Char) :
    readFrom acc (front ++ back) = (readFrom acc front).bind fun mid => readFrom mid back := by
  induction front generalizing acc with
  | nil => rfl
  | cons c rest ih =>
    simp only [List.cons_append, readFrom]
    cases digitValue? c with
    | none => rfl
    | some d => exact ih _

theorem digitValue?_digitChar {d : Nat} (small : d < 10) : digitValue? (digitChar d) = some d := by
  match d, small with
  | 0, _ | 1, _ | 2, _ | 3, _ | 4, _ | 5, _ | 6, _ | 7, _ | 8, _ | 9, _ => decide

/-- The digits of a number read back as that number. -/
theorem readFrom_digits (n : Nat) : readFrom 0 (digits n) = some n := by
  induction n using Nat.strongRecOn with
  | ind n ih =>
    rw [digits]
    split
    · rename_i small
      simp [readFrom, digitValue?_digitChar small]
    · rename_i large
      rw [readFrom_append, ih (n / 10) (by omega)]
      simp [readFrom, digitValue?_digitChar (Nat.mod_lt n (by omega : 10 > 0))]
      omega

theorem value?_digits (n : Nat) : value? (digits n) = some n := by
  have read := readFrom_digits n
  cases h : digits n with
  | nil => exact absurd h (digits_ne_nil n)
  | cons c rest => rw [h] at read; exact read

/-! ## Padding -/

/-- Zeros in front say nothing. -/
theorem readFrom_zeros (count : Nat) (rest : List Char) :
    readFrom 0 (List.replicate count '0' ++ rest) = readFrom 0 rest := by
  induction count with
  | zero => rfl
  | succ count ih => exact ih

/-- A padded number reads back, whatever its width. -/
theorem value?_padded (width n : Nat) : value? (padded width n).toList = some n := by
  rw [padded, String.toList_ofList]
  have read := (readFrom_zeros (width - (digits n).length) (digits n)).trans (readFrom_digits n)
  cases h : List.replicate (width - (digits n).length) '0' ++ digits n with
  | nil => exact absurd (List.append_eq_nil_iff.mp h).2 (digits_ne_nil n)
  | cons c rest => rw [h] at read; exact read

theorem digit_of_mem_digits {n : Nat} {c : Char} (member : c ∈ digits n) :
    '0' ≤ c ∧ c ≤ '9' := by
  have ofDigitChar {d : Nat} (small : d < 10) : '0' ≤ digitChar d ∧ digitChar d ≤ '9' := by
    match d, small with
    | 0, _ | 1, _ | 2, _ | 3, _ | 4, _ | 5, _ | 6, _ | 7, _ | 8, _ | 9, _ => decide
  induction n using Nat.strongRecOn with
  | ind n ih =>
    rw [digits] at member
    split at member
    · rename_i small
      rw [List.mem_singleton.mp member]
      exact ofDigitChar small
    · rcases List.mem_append.mp member with front | last
      · exact ih (n / 10) (by omega) front
      · rw [List.mem_singleton.mp last]
        exact ofDigitChar (Nat.mod_lt n (by omega))

theorem digit_of_mem_padded {width n : Nat} {c : Char} (member : c ∈ (padded width n).toList) :
    '0' ≤ c ∧ c ≤ '9' := by
  rw [padded, String.toList_ofList] at member
  rcases List.mem_append.mp member with zero | digit
  · rw [List.eq_of_mem_replicate zero]
    decide
  · exact digit_of_mem_digits digit

end LapTelemetry.Text.Decimal
