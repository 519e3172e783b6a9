/-! # Where output goes

Output is handed to a medium and may get lost there. A rejecting medium takes
nothing, which is noticed as soon as there is something to take; an unflushable one
takes everything and can never vouch for it. -/

namespace LapTelemetry.Wire

set_option autoImplicit false

/-- How a place that output goes to behaves. -/
inductive Medium where
  /-- Everything arrives. -/
  | sound
  /-- Nothing is taken. -/
  | rejecting
  /-- Everything arrives, and making it permanent fails. -/
  | unflushable
  deriving DecidableEq, Repr

namespace Medium

variable {α : Type}

/-- What a medium holds after more output. -/
def hold : Medium → List α → List α → List α
  | .rejecting, held, _ => held
  | _, held, output => held ++ output

/-- Whether a medium vouches for output. -/
def vouches : Medium → List α → Bool
  | .sound, _ => true
  | .rejecting, output => output.isEmpty
  | .unflushable, _ => false

/-- What a medium that does not vouch for output says. -/
def complaint : Medium → String
  | .unflushable => "flush refused"
  | _ => "write refused"

end Medium

end LapTelemetry.Wire
