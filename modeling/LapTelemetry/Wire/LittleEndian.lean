import LapTelemetry.Number.Power

/-! # Little-endian words

The first byte of a word is its least significant one. `ofBytes` reads a list of
bytes of any length, `toBytes` writes a number in a given number of bytes and
drops what does not fit. The two are inverse on words that fit their width:
`ofBytes_toBytes` and `toBytes_ofBytes`. -/

namespace LapTelemetry.Wire.LittleEndian

open LapTelemetry.Number

set_option autoImplicit false

/-- The number that a list of bytes spells, least significant byte first. -/
def ofBytes : List UInt8 → Nat
  | [] => 0
  | b :: rest => b.toNat + 256 * ofBytes rest

/-- The lowest `width` bytes of a number, least significant byte first. -/
def toBytes : Nat → Nat → List UInt8
  | 0, _ => []
  | width + 1, n => UInt8.ofNat n :: toBytes width (n / 256)

/-- A word of one more byte. -/
theorem pow2_bytes (count : Nat) : pow2 (8 * (count + 1)) = 256 * pow2 (8 * count) := by
  rw [Nat.mul_succ, pow2_add, Nat.mul_comm]
  rfl

theorem ofBytes_lt (bytes : List UInt8) : ofBytes bytes < pow2 (8 * bytes.length) := by
  induction bytes with
  | nil => exact Nat.zero_lt_one
  | cons b rest ih =>
    have small := b.toNat_lt
    rw [ofBytes, List.length_cons, pow2_bytes]
    omega

@[simp] theorem length_toBytes (width n : Nat) : (toBytes width n).length = width := by
  induction width generalizing n with
  | zero => rfl
  | succ width ih => simp [toBytes, ih]

/-- A number that fits its width reads back. -/
theorem ofBytes_toBytes {width n : Nat} (fits : n < pow2 (8 * width)) :
    ofBytes (toBytes width n) = n := by
  induction width generalizing n with
  | zero =>
    obtain rfl : n = 0 := Nat.lt_one_iff.mp fits
    rfl
  | succ width ih =>
    rw [pow2_bytes] at fits
    have high : n / 256 < pow2 (8 * width) := Nat.div_lt_of_lt_mul fits
    rw [toBytes, ofBytes, ih high, UInt8.toNat_ofNat']
    omega

/-- Bytes are written back as they were read. -/
theorem toBytes_ofBytes (bytes : List UInt8) : toBytes bytes.length (ofBytes bytes) = bytes := by
  induction bytes with
  | nil => rfl
  | cons b rest ih =>
    have small := b.toNat_lt
    have high : (b.toNat + 256 * ofBytes rest) / 256 = ofBytes rest := by omega
    have low : UInt8.ofNat (b.toNat + 256 * ofBytes rest) = b := by
      apply UInt8.toNat_inj.mp
      rw [UInt8.toNat_ofNat']
      omega
    simp only [List.length_cons, ofBytes, toBytes, high, low, ih]

end LapTelemetry.Wire.LittleEndian
