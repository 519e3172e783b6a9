import LapTelemetry.Point.Basic

/-! # Weather

A session body reports the weather and a forecast. The forecast announces how many
of its samples count; at most four of those are reported, each under its own index,
so that a sample which says nothing leaves a gap. An unknown code drops the field
that it is for and no other. -/

namespace LapTelemetry.Session

open LapTelemetry.Point LapTelemetry.Text LapTelemetry.Wire

set_option autoImplicit false

inductive Weather where
  | clear
  | lightCloud
  | overcast
  | lightRain
  | heavyRain
  | storm
  deriving DecidableEq, Repr

namespace Weather

/-- The weather of a code. -/
def ofCode? : Nat → Option Weather
  | 0 => some .clear
  | 1 => some .lightCloud
  | 2 => some .overcast
  | 3 => some .lightRain
  | 4 => some .heavyRain
  | 5 => some .storm
  | _ => none

def label : Weather → String
  | .clear => "Clear"
  | .lightCloud => "Light Cloud"
  | .overcast => "Overcast"
  | .lightRain => "Light Rain"
  | .heavyRain => "Heavy Rain"
  | .storm => "Storm"

/-- The weather of a forecast, with the chance of rain on a second line if there
is one. -/
def forecastLabel (weather : Weather) (rain : Nat) : String :=
  if rain = 0 then weather.label else weather.label ++ "\n(" ++ Decimal.ofNat rain ++ "%)"

end Weather

/-- At most this many samples of a forecast are reported. -/
def maxForecastSamples : Nat := 4

/-- The field of one sample of a forecast. -/
def forecastField? (sample : Value × Nat) : Option (String × FieldValue) := do
  let fields ← sample.1.record?
  let weather ← Weather.ofCode? (← fields.natural? "weather")
  let rain := (fields.natural? "rain_percentage").getD 0
  return ("forecast_" ++ Decimal.ofNat sample.2, .text (weather.forecastLabel rain))

/-- The fields that a session body reports. -/
def weatherFields (body : Record Value) : Fields :=
  let now := ((body.natural? "weather").bind Weather.ofCode?).map fun weather =>
    ("weather", FieldValue.text weather.label)
  let announced := (body.natural? "num_weather_forecast_samples").getD 0
  let samples := (body.array? "weather_forecast_samples").getD []
  ⟨now.toList ++ ((samples.take (min announced maxForecastSamples)).zipIdx.filterMap forecastField?)⟩

end LapTelemetry.Session
