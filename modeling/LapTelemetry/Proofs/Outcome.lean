import LapTelemetry.Fault

/-! # Outcomes of steps that may fail

A step that may fail followed by another gives a result if both do, and steps that
begin alike have outcomes that differ as their ends do. What is known of a result, if
there is one, is known with the result. -/

namespace LapTelemetry

set_option autoImplicit false

variable {α β γ : Type} {step : Except Fault α}

theorem bind_eq_ok {next : α → Except Fault β} {result : β} :
    (step >>= next) = .ok result ↔ ∃ value, step = .ok value ∧ next value = .ok result := by
  cases step with
  | error fault => simp [bind, Except.bind]
  | ok value => simp [bind, Except.bind]

theorem toOption_map_eq_some_iff {f : α → β} {result : β} :
    step.toOption.map f = some result ↔ ∃ value, step = .ok value ∧ f value = result := by
  cases step with
  | error fault => simp [Except.toOption]
  | ok value => simp [Except.toOption]

/-- What follows a step is compared at results of the step only. -/
theorem bind_eq_bind {first second : α → Except Fault β}
    (each : ∀ value, step = .ok value → first value = second value) :
    (step >>= first) = (step >>= second) := by
  cases step with
  | error fault => rfl
  | ok value => exact each value rfl

theorem bind_eq_map {first : α → Except Fault γ} {second : α → Except Fault β} {f : β → γ}
    (each : ∀ value, first value = (second value).map f) :
    (step >>= first) = (step >>= second).map f := by
  cases step with
  | error fault => rfl
  | ok value => exact each value

end LapTelemetry
