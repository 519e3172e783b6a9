/-! # Powers of two

`pow2 bits` is the number of words of a width, so a number fits the width if it is
below. `pow2_add` says how widths add up. -/

namespace LapTelemetry.Number

set_option autoImplicit false

/-- How many words of `bits` bits there are. -/
def pow2 (bits : Nat) : Nat := Nat.pow 2 bits

theorem pow2_add (first second : Nat) : pow2 (first + second) = pow2 first * pow2 second :=
  Nat.pow_add 2 first second

theorem pow2_pos (bits : Nat) : 0 < pow2 bits := Nat.two_pow_pos bits

end LapTelemetry.Number
