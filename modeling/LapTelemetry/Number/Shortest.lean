import LapTelemetry.Number.Binary
import LapTelemetry.Text.Decimal

/-! # The shortest decimal of a floating number

A positive number of a binary format is the middle of an interval of reals that
all round to it; the ends belong to the interval when the significand is even.
`shortest` looks for the coarsest grid of powers of ten that has a point in the
interval, and takes the point of that grid nearest to the number; of two points
equally near, the larger. Everything is exact arithmetic on natural numbers.

`positional` writes the digits without an exponent: an integral number has no
point, and a fraction starts with a zero in front of the point. -/

namespace LapTelemetry.Number

open LapTelemetry.Text

set_option autoImplicit false

/-- A decimal `digits · 10 ^ exponent`. -/
structure Scientific where
  digits : Nat
  exponent : Int
  deriving DecidableEq, Repr

/-- A number and the interval that rounds to it, as numerators over one
denominator. -/
structure Interval where
  low : Nat
  value : Nat
  high : Nat
  denominator : Nat
  closed : Bool
  deriving DecidableEq, Repr

namespace Interval

/-- Whether a numerator lies in the interval. -/
def contains (i : Interval) (numerator : Nat) : Bool :=
  if i.closed then i.low ≤ numerator && numerator ≤ i.high
  else i.low < numerator && numerator < i.high

/-- The multiple of `unit` in the interval that is nearest to the value, if one
of its two neighbours on that grid lies in the interval. -/
def onGrid? (i : Interval) (unit : Nat) : Option Nat :=
  let below := i.value / unit
  let above := below + 1
  match i.contains (below * unit), i.contains (above * unit) with
  | true, true => if 2 * (i.value % unit) < unit then some below else some above
  | true, false => some below
  | false, true => some above
  | false, false => none

/-- Ten times the interval. -/
def timesTen (i : Interval) : Interval :=
  ⟨10 * i.low, 10 * i.value, 10 * i.high, i.denominator, i.closed⟩

/-- Search the grids of `10 ^ steps` down to one. -/
def coarsest? (i : Interval) : Nat → Option Scientific
  | 0 => (i.onGrid? i.denominator).map fun digits => ⟨digits, 0⟩
  | steps + 1 =>
    match i.onGrid? (Nat.pow 10 (steps + 1) * i.denominator) with
    | some digits => some ⟨digits, steps + 1⟩
    | none => i.coarsest? steps

/-- Search the grids finer than one; `places` is the number of decimal places
already ruled out, and the first argument bounds the search. -/
def finest? (i : Interval) (places : Nat) : Nat → Option Scientific
  | 0 => none
  | fuel + 1 =>
    match i.timesTen.onGrid? i.denominator with
    | some digits => some ⟨digits, -(places + 1 : Nat)⟩
    | none => i.timesTen.finest? (places + 1) fuel

/-- The interval of a positive significand. Its lower half is only half as wide
where the significand is the least one of its exponent. -/
def around (format : Binary) (significand : Nat) (exponent : Int) : Interval :=
  let narrow := significand = pow2 format.fractionBits ∧ format.leastExponent < exponent
  let closed := significand % 2 = 0
  let scale : Nat := pow2 (exponent - 2).toNat
  let denominator : Nat := pow2 (2 - exponent).toNat
  ⟨(4 * significand - if narrow then 1 else 2) * scale, 4 * significand * scale,
    (4 * significand + 2) * scale, denominator, closed⟩

end Interval

/-- The shortest decimal that rounds to `significand · 2 ^ exponent`. Ten to the
number of digits of the whole part is above the interval, and as many decimal
places as the denominator has bits leave no remainder, so the search ends. -/
def shortest (format : Binary) (significand : Nat) (exponent : Int) : Scientific :=
  let i := Interval.around format significand exponent
  let wholeDigits := (Decimal.digits (i.high / i.denominator)).length
  match i.coarsest? wholeDigits with
  | some decimal => decimal
  | none => (i.finest? 0 (Nat.log2 i.denominator + 1)).getD ⟨0, 0⟩

/-- Digits with the point in its place. -/
def Scientific.positional (decimal : Scientific) : List Char :=
  let digits := Decimal.digits decimal.digits
  if 0 ≤ decimal.exponent then
    if decimal.digits = 0 then digits else digits ++ List.replicate decimal.exponent.toNat '0'
  else
    let places := decimal.exponent.natAbs
    let filled := List.replicate (places + 1 - digits.length) '0' ++ digits
    filled.take (filled.length - places) ++ '.' :: filled.drop (filled.length - places)

/-- The text of a number of eight bytes, in positional notation with the fewest
digits. Zero keeps its sign. -/
def positionalText (pattern : Nat) : String :=
  let signed (negative : Bool) (text : List Char) : String :=
    String.ofList (if negative then '-' :: text else text)
  match Binary.double.classify pattern with
  | .nan _ _ => "NaN"
  | .infinite negative => signed negative "inf".toList
  | .finite negative significand exponent =>
    if significand = 0 then signed negative ['0']
    else signed negative (shortest .double significand exponent).positional

end LapTelemetry.Number
