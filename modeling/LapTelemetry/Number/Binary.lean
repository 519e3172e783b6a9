import LapTelemetry.Number.Power

/-! # Binary floating formats

A binary format is fixed by the widths of its exponent and its fraction; a
number of the format is its bit pattern, a natural number. `classify` takes a
pattern apart into sign, significand and a power of two, `round` puts a quotient
of powers of two into the nearest pattern, a tie going to the even one, and the
two together give every conversion: between the formats, from integers, and to
integers by cutting toward zero.

A NaN keeps its sign and the top of its payload under conversion and becomes
quiet. -/

namespace LapTelemetry.Number

set_option autoImplicit false

/-- The widths that fix a binary format. -/
structure Binary where
  exponentBits : Nat
  fractionBits : Nat
  deriving DecidableEq, Repr

/-- A number of a binary format, taken apart. -/
inductive Parts where
  /-- `significand · 2 ^ exponent`, with a sign that zero has as well. -/
  | finite (negative : Bool) (significand : Nat) (exponent : Int)
  | infinite (negative : Bool)
  | nan (negative : Bool) (payload : Nat)
  deriving DecidableEq, Repr

namespace Binary

/-- The format of four bytes. -/
def single : Binary := ⟨8, 23⟩

/-- The format of eight bytes. -/
def double : Binary := ⟨11, 52⟩

/-- How many bits a pattern has. -/
def width (format : Binary) : Nat := 1 + format.exponentBits + format.fractionBits

/-- The exponent field of infinities and NaNs. -/
def topExponent (format : Binary) : Nat := pow2 format.exponentBits - 1

/-- The power of two that the last bit of the smallest numbers stands for. -/
def leastExponent (format : Binary) : Int :=
  2 - (pow2 (format.exponentBits - 1) : Nat) - format.fractionBits

/-- The pattern of the sign bit. -/
def signPattern (format : Binary) (negative : Bool) : Nat :=
  if negative then pow2 (format.exponentBits + format.fractionBits) else 0

/-- The pattern of positive infinity. -/
def infinityPattern (format : Binary) : Nat := format.topExponent * pow2 format.fractionBits

/-- Take a pattern apart. -/
def classify (format : Binary) (pattern : Nat) : Parts :=
  let fraction := pattern % pow2 format.fractionBits
  let exponent := pattern / pow2 format.fractionBits % pow2 format.exponentBits
  let negative := pattern / pow2 (format.exponentBits + format.fractionBits) % 2 = 1
  if exponent = format.topExponent then
    if fraction = 0 then .infinite negative else .nan negative fraction
  else if exponent = 0 then
    .finite negative fraction format.leastExponent
  else
    .finite negative (pow2 format.fractionBits + fraction) (format.leastExponent + (exponent - 1 : Nat))

/-- The quotient rounded to the nearest whole number, a tie to the even one. -/
def divideToEven (numerator denominator : Nat) : Nat :=
  let quotient := numerator / denominator
  let twice := 2 * (numerator % denominator)
  if twice < denominator ∨ (twice = denominator ∧ quotient % 2 = 0) then quotient else quotient + 1

/-- The pattern nearest to `significand · 2 ^ exponent`. A carry out of the
fraction raises the exponent field by one, as it should, and a pattern at or
above that of infinity is infinity. -/
def round (format : Binary) (negative : Bool) (significand : Nat) (exponent : Int) : Nat :=
  if significand = 0 then format.signPattern negative
  else
    let top := exponent + (Nat.log2 significand : Int) - format.fractionBits
    let unit := max top format.leastExponent
    let scaled :=
      if unit ≤ exponent then significand * pow2 (exponent - unit).toNat
      else divideToEven significand (pow2 (unit - exponent).toNat)
    let magnitude := (unit - format.leastExponent).toNat * pow2 format.fractionBits + scaled
    format.signPattern negative + min magnitude format.infinityPattern

/-- The pattern of a quiet NaN whose payload has the given highest bits. -/
def quietNan (format : Binary) (negative : Bool) (payload : Nat) : Nat :=
  let quiet := pow2 (format.fractionBits - 1)
  format.signPattern negative + format.infinityPattern + (quiet ||| payload)

/-- A pattern of one format as a pattern of another. -/
def convert (source target : Binary) (pattern : Nat) : Nat :=
  match source.classify pattern with
  | .finite negative significand exponent => target.round negative significand exponent
  | .infinite negative => target.signPattern negative + target.infinityPattern
  | .nan negative payload =>
    target.quietNan negative (payload * pow2 target.fractionBits / pow2 source.fractionBits)

/-- The pattern nearest to an integer. -/
def ofInt (format : Binary) (i : Int) : Nat := format.round (i < 0) i.natAbs 0

/-- The integer part of a number, cut toward zero; a NaN counts as zero and an
infinity as the bound on its side. -/
def truncateWithin (format : Binary) (low high : Int) (pattern : Nat) : Int :=
  match format.classify pattern with
  | .nan _ _ => 0
  | .infinite negative => if negative then low else high
  | .finite negative significand exponent =>
    let magnitude : Nat :=
      if 0 ≤ exponent then significand * pow2 exponent.toNat
      else significand / pow2 (-exponent).toNat
    let whole : Int := if negative then -magnitude else magnitude
    max low (min high whole)

/-- Whether a pattern is that of a NaN. -/
def isNan (format : Binary) (pattern : Nat) : Bool :=
  match format.classify pattern with
  | .nan _ _ => true
  | _ => false

/-- Whether a pattern is that of a finite number. -/
def isFinite (format : Binary) (pattern : Nat) : Bool :=
  match format.classify pattern with
  | .finite _ _ _ => true
  | _ => false

example : double.round false 1 0 = 0x3FF0000000000000 := by decide
example : single.round true 1 (-1) = 0xBF000000 := by decide
example : single.convert double 0x00000001 = 0x36A0000000000000 := by decide
example : double.convert single 0x36A0000000000000 = 0x00000001 := by decide
example : single.convert double 0x7F800001 = 0x7FF8000020000000 := by decide
example : double.ofInt (pow2 64 - 1) = 0x43F0000000000000 := by decide
example : double.truncateWithin 0 255 0x4072C00000000000 = 255 := by decide

end Binary

end LapTelemetry.Number
