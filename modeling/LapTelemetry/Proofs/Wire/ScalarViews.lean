import Mathlib.Algebra.BigOperators.Intervals
import Mathlib.Algebra.BigOperators.Ring.Finset
import Mathlib.Tactic.Ring
import LapTelemetry.Point.Basic

/-! # One integer and its views

The bytes of a number on the wire spell a natural number in which the `i`-th byte counts
`256 ^ i` (`spelled`). Of an unsigned type that number is the integer that is meant; of a
signed type it is read in two's complement at the width of the type (`twosComplement`).
Reading finds this integer in the first bytes and looks at no others
(`isInteger_of_read?`, `read?_take`).

A value that holds an integer shows it in three ways, and what each of them shows is the
integer itself or nothing:

* as a natural number, exactly if it is not negative (`natural?_eq_some_iff`);
* as an integer of sixty-four bits, exactly if it is below `2 ^ 63` (`integer?_eq_some_iff`);
* as the field of a point, always, and with the sort of its type. -/

namespace LapTelemetry.Wire

open LapTelemetry.Number LapTelemetry.Point

set_option autoImplicit false

/-! ## Bytes -/

/-- The natural number that bytes spell, of which the `i`-th counts `256 ^ i`. -/
def spelled (bytes : List UInt8) : Nat :=
  ∑ i ∈ Finset.range bytes.length, (bytes.getD i 0).toNat * 256 ^ i

/-- The integer of so many bits in two's complement: the upper half of the numbers stand for
negative ones. -/
def twosComplement (bits n : Nat) : Int := if 2 * n < 2 ^ bits then n else n - 2 ^ bits

theorem twosComplement_toNat {width : Nat} (bits : BitVec width) :
    twosComplement width bits.toNat = bits.toInt := by
  rw [BitVec.toInt_eq_toNat_cond, twosComplement]
  push_cast
  rfl

theorem ofBytes_eq_spelled (bytes : List UInt8) : LittleEndian.ofBytes bytes = spelled bytes := by
  induction bytes with
  | nil => rfl
  | cons first rest ih =>
    have later (i : Nat) : ((first :: rest).getD (i + 1) 0).toNat * 256 ^ (i + 1) =
        256 * ((rest.getD i 0).toNat * 256 ^ i) := by
      rw [List.getD_cons_succ]
      ring
    rw [LittleEndian.ofBytes, ih, spelled, spelled, List.length_cons, Finset.sum_range_succ',
      Finset.sum_congr rfl fun i _ => later i, ← Finset.mul_sum, List.getD_cons_zero]
    ring

theorem Scalar.read?_take (type : Primitive) (bytes : List UInt8) :
    Scalar.read? type (bytes.take type.size) = Scalar.read? type bytes := by
  simp only [Scalar.read?, List.take_take, min_self]

/-- The bits that are read are the number that the first bytes spell. -/
theorem Scalar.toNat_of_read? {type : Primitive} {bytes : List UInt8} {s : Scalar}
    (read : Scalar.read? type bytes = some s) :
    s.type = type ∧ s.bits.toNat = spelled (bytes.take type.size) := by
  obtain ⟨sameType, own⟩ := Scalar.bytes_of_read? read
  refine ⟨sameType, ?_⟩
  rw [← ofBytes_eq_spelled, ← own, Scalar.bytes, LittleEndian.ofBytes_toBytes s.bits.isLt]

/-! ## Integers -/

namespace Value

/-- A value holds an integer if it is a scalar of an unsigned or signed type with the bits of the
integer. -/
inductive IsInteger : Value → Reading → Int → Prop where
  | unsigned {s : Scalar} (reading : s.type.reading = .unsigned) :
      IsInteger (.scalar s) .unsigned s.bits.toNat
  | signed {s : Scalar} (reading : s.type.reading = .signed) :
      IsInteger (.scalar s) .signed (twosComplement s.type.bitWidth s.bits.toNat)

variable {value : Value} {reading : Reading} {i : Int}

/-- The integer that a value holds is the one that its scalar stands for. -/
theorem isInteger_iff : value.IsInteger reading i ↔
    ∃ s : Scalar, value = .scalar s ∧ s.type.reading = reading ∧ s.whole? = some i := by
  constructor
  · rintro (unsigned | signed)
    · exact ⟨_, rfl, unsigned, by rw [Scalar.whole?, unsigned]⟩
    · exact ⟨_, rfl, signed, by rw [Scalar.whole?, signed, twosComplement_toNat]⟩
  · rintro ⟨s, rfl, rfl, whole⟩
    rw [Scalar.whole?] at whole
    split at whole
    · next unsigned =>
      obtain rfl := Option.some.inj whole
      exact unsigned ▸ .unsigned unsigned
    · next signed =>
      obtain rfl := Option.some.inj whole
      rw [← twosComplement_toNat]
      exact signed ▸ .signed signed
    · cases whole

/-- No width is above sixty-four bits, so every integer is one of a machine word. -/
theorem IsInteger.range (isInteger : value.IsInteger reading i) :
    (reading = .unsigned → 0 ≤ i ∧ i < 2 ^ 64) ∧
      (reading = .signed → -2 ^ 63 ≤ i ∧ i < 2 ^ 63) := by
  have atMost (type : Primitive) : type.bitWidth ≤ 64 := by cases type <;> decide
  cases isInteger with
  | @unsigned s _ =>
    refine ⟨fun _ => ⟨Int.natCast_nonneg _, ?_⟩, nofun⟩
    have bits : s.bits.toNat < 2 ^ 64 :=
      s.bits.isLt.trans_le (Nat.pow_le_pow_right (by decide) (atMost s.type))
    exact_mod_cast bits
  | @signed s _ =>
    refine ⟨nofun, fun _ => ?_⟩
    have half : s.type.bitWidth - 1 ≤ 63 := Nat.sub_le_sub_right (atMost s.type) 1
    have within : (2 : Int) ^ (s.type.bitWidth - 1) ≤ 2 ^ 63 := by
      exact_mod_cast Nat.pow_le_pow_right (by decide : 0 < 2) half
    rw [twosComplement_toNat]
    exact ⟨(neg_le_neg within).trans (BitVec.le_toInt s.bits),
      (BitVec.toInt_lt).trans_le within⟩

theorem IsInteger.natural?_eq_some_iff (isInteger : value.IsInteger reading i) {n : Nat} :
    value.natural? = some n ↔ i = n := by
  obtain ⟨s, rfl, -, whole⟩ := isInteger_iff.mp isInteger
  have view : natural? (.scalar s) = if 0 ≤ i then some i.toNat else none := by
    show s.whole?.bind _ = _
    rw [whole, Option.bind_some]
  rw [view]
  split
  · rw [Option.some.injEq]
    omega
  · next negative =>
    simp only [reduceCtorEq, false_iff]
    omega

theorem IsInteger.integer?_eq_some_iff (isInteger : value.IsInteger reading i) {j : Int} :
    value.integer? = some j ↔ i = j ∧ i < 2 ^ 63 := by
  obtain ⟨s, rfl, -, whole⟩ := isInteger_iff.mp isInteger
  have view : integer? (.scalar s) = if i < 2 ^ 63 then some i else none := by
    show s.whole?.bind _ = _
    rw [whole, Option.bind_some]
    rfl
  rw [view]
  split
  · next small => rw [Option.some.injEq, and_iff_left small]
  · next large => simp only [reduceCtorEq, large, and_false]

/-- The field of an integer has the sort of the type and the same integer. -/
theorem IsInteger.ofValue?_eq (isInteger : value.IsInteger reading i) :
    (reading = .unsigned → FieldValue.ofValue? value = some (.natural i.toNat)) ∧
      (reading = .signed → FieldValue.ofValue? value = some (.integer i)) := by
  cases isInteger with
  | unsigned unsigned =>
    refine ⟨fun _ => ?_, nofun⟩
    show some (FieldValue.ofScalar _) = _
    rw [FieldValue.ofScalar, unsigned, Int.toNat_natCast]
  | signed signed =>
    refine ⟨nofun, fun _ => ?_⟩
    show some (FieldValue.ofScalar _) = _
    rw [FieldValue.ofScalar, signed, twosComplement_toNat]

end Value

/-! ## Reading -/

/-- What is read of an integer type holds the integer of its own bytes. -/
theorem Value.isInteger_of_read? {type : Primitive} {bytes : List UInt8} {value : Value}
    (read : Value.read? type bytes = some value) :
    (type.reading = .unsigned →
        value.IsInteger .unsigned (spelled (bytes.take type.size))) ∧
      (type.reading = .signed →
        value.IsInteger .signed
          (twosComplement type.bitWidth (spelled (bytes.take type.size)))) := by
  obtain ⟨s, readScalar, rfl⟩ := Option.map_eq_some_iff.mp read
  obtain ⟨rfl, bits⟩ := Scalar.toNat_of_read? readScalar
  rw [← bits]
  exact ⟨.unsigned, .signed⟩

/-- Reading fails exactly if there are fewer bytes than the type has, and looks at no others. Of an
unsigned type it gives the number that the bytes spell as a natural number, of a signed type the
two's complement of that number as an integer. Whatever integer a value holds, the views show that
integer wherever it is within their bounds and nothing otherwise, and as a field it stays the same
integer, with the sort of its type. -/
theorem Value.views_of_read? :
    (∀ (type : Primitive) (bytes : List UInt8),
      (Value.read? type bytes = none ↔ bytes.length < type.size) ∧
        Value.read? type (bytes.take type.size) = Value.read? type bytes ∧
        ∀ value, Value.read? type bytes = some value →
          (type.reading = .unsigned →
            value.IsInteger .unsigned (spelled (bytes.take type.size)) ∧
              value.natural? = some (spelled (bytes.take type.size))) ∧
          (type.reading = .signed →
            value.IsInteger .signed
                (twosComplement type.bitWidth (spelled (bytes.take type.size))) ∧
              value.integer? =
                some (twosComplement type.bitWidth (spelled (bytes.take type.size))))) ∧
      ∀ (value : Value) (reading : Reading) (i : Int), value.IsInteger reading i →
        (∀ n : Nat, value.natural? = some n ↔ i = n) ∧
        (∀ j : Int, value.integer? = some j ↔ i = j ∧ i < 2 ^ 63) ∧
        (reading = .unsigned → (0 ≤ i ∧ i < 2 ^ 64) ∧
          FieldValue.ofValue? value = some (.natural i.toNat)) ∧
        (reading = .signed → (-2 ^ 63 ≤ i ∧ i < 2 ^ 63) ∧
          FieldValue.ofValue? value = some (.integer i)) := by
  refine ⟨fun type bytes => ⟨?_, ?_, fun value read => ?_⟩, fun value reading i isInteger => ?_⟩
  · rw [Value.read?, Option.map_eq_none_iff]
    exact Scalar.read?_eq_none_iff
  · rw [Value.read?, Value.read?, Scalar.read?_take]
  · obtain ⟨natural, integer⟩ := Value.isInteger_of_read? read
    refine ⟨fun unsigned => ⟨natural unsigned, ?_⟩, fun signed => ⟨integer signed, ?_⟩⟩
    · exact (natural unsigned).natural?_eq_some_iff.mpr rfl
    · exact (integer signed).integer?_eq_some_iff.mpr ⟨rfl, ((integer signed).range.2 rfl).2⟩
  · obtain ⟨unsignedRange, signedRange⟩ := isInteger.range
    obtain ⟨natural, integer⟩ := isInteger.ofValue?_eq
    exact ⟨fun n => isInteger.natural?_eq_some_iff, fun j => isInteger.integer?_eq_some_iff,
      fun unsigned => ⟨unsignedRange unsigned, natural unsigned⟩,
      fun signed => ⟨signedRange signed, integer signed⟩⟩

/-- Two bytes below zero, of which the natural view shows nothing, and a number too large for the
integer view. -/
theorem Value.views_of_read?_beyond :
    (∃ value, Value.read? .int16 [0xFE, 0xFF, 0x07] = some value ∧ value.IsInteger .signed (-2) ∧
      (∀ n, value.natural? ≠ some n) ∧ value.integer? = some (-2) ∧
      FieldValue.ofValue? value = some (.integer (-2))) ∧
    ∃ value, Value.read? .uint64 (List.replicate 8 0xFF) = some value ∧
      value.natural? = some (2 ^ 64 - 1) ∧ (∀ j, value.integer? ≠ some j) ∧
      FieldValue.ofValue? value = some (.natural (2 ^ 64 - 1)) := by
  obtain ⟨reads, views⟩ := Value.views_of_read?
  constructor
  · obtain ⟨-, -, found⟩ := reads .int16 [0xFE, 0xFF, 0x07]
    have read : Value.read? .int16 [0xFE, 0xFF, 0x07] = some (.scalar ⟨.int16, 0xFFFE⟩) := by rfl
    obtain ⟨holds, integer⟩ := (found _ read).2 rfl
    have minusTwo : twosComplement Primitive.int16.bitWidth
        (spelled ([0xFE, 0xFF, 0x07].take Primitive.int16.size)) = -2 := by decide
    rw [minusTwo] at holds integer
    obtain ⟨natural, -, -, field⟩ := views _ _ _ holds
    refine ⟨_, read, holds, fun n shown => ?_, integer, (field rfl).2⟩
    have isNatural := (natural n).mp shown
    omega
  · obtain ⟨-, -, found⟩ := reads .uint64 (List.replicate 8 0xFF)
    have read : Value.read? .uint64 (List.replicate 8 0xFF) =
        some (.scalar ⟨.uint64, 0xFFFFFFFFFFFFFFFF⟩) := by rfl
    obtain ⟨holds, natural⟩ := (found _ read).1 rfl
    have most : spelled ((List.replicate 8 0xFF).take Primitive.uint64.size) = 2 ^ 64 - 1 := by
      decide
    rw [most] at holds natural
    obtain ⟨-, integer, field, -⟩ := views _ _ _ holds
    refine ⟨_, read, natural, fun j shown => ?_, (field rfl).2⟩
    have small := ((integer j).mp shown).2
    omega

end LapTelemetry.Wire
