import Mathlib.Data.List.Range
import LapTelemetry.Session.Weather

/-! # What a session body reports of the weather

A body may report up to five fields: the weather, and the first four samples of the forecast,
as far as the body announces them and has them. `Reports` says which of them are there and
with which text, each from its own part of the body. `weatherFields_reports` shows that these
are the fields that are built, and in what order.

A sample that cannot be told leaves a gap: the samples behind it keep their names, since a
name holds the index at which the sample stands (`forecastName`). So two bodies that differ in
one sample differ in the field of that index at most (`forecastFields_set`). -/

namespace LapTelemetry.Session

open LapTelemetry.Point LapTelemetry.Text LapTelemetry.Wire

set_option autoImplicit false

/-! ## Texts -/

/-- The labels of the weather codes, from zero on. -/
def weatherLabels : List String :=
  ["Clear", "Light Cloud", "Overcast", "Light Rain", "Heavy Rain", "Storm"]

theorem label_of_code (code : Nat) :
    (Weather.ofCode? code).map Weather.label = weatherLabels[code]? := by
  match code with
  | 0 | 1 | 2 | 3 | 4 | 5 => rfl
  | code + 6 => rfl

/-- The label of the weather whose code a record has under `weather`. -/
def weatherTold? (record : Record Value) : Option String :=
  (record.natural? "weather").bind fun code => weatherLabels[code]?

/-- The text of a forecast: the label, with the chance of rain on a second line if there is one. -/
def forecastText (label : String) : Option Nat → String
  | none | some 0 => label
  | some rain => label ++ "\n(" ++ Decimal.ofNat rain ++ "%)"

theorem forecastLabel_eq (weather : Weather) (rain : Option Nat) :
    weather.forecastLabel (rain.getD 0) = forecastText weather.label rain := by
  match rain with
  | none | some 0 => rfl
  | some (_ + 1) => rfl

/-- The name of a sample of the forecast: its index is where it stands among all samples. -/
def forecastName (i : Nat) : String := "forecast_" ++ Decimal.ofNat i

/-! ## What is reported -/

/-- What a body reports under a name: the weather if its code is known, and as many samples of the
forecast as are announced, at most four, each one that is a record with a known code. -/
inductive Reports (body : Record Value) : String → FieldValue → Prop where
  | now {label : String} (told : weatherTold? body = some label) :
      Reports body "weather" (.text label)
  | forecast {samples : List Value} {announced i : Nat} {sample : Record Value} {label : String}
      (listed : body.array? "weather_forecast_samples" = some samples)
      (counted : body.natural? "num_weather_forecast_samples" = some announced)
      (within : i < min announced 4)
      (stands : samples[i]? = some (.record sample))
      (told : weatherTold? sample = some label) :
      Reports body (forecastName i)
        (.text (forecastText label (sample.natural? "rain_percentage")))

/-- Every name that a body may report, in the order of the report. -/
def reportNames : List String := ["weather", "forecast_0", "forecast_1", "forecast_2", "forecast_3"]

variable {name : String} {value : FieldValue}

theorem told_eq (record : Record Value) :
    ((record.natural? "weather").bind Weather.ofCode?).map Weather.label = weatherTold? record := by
  rw [weatherTold?, Option.map_bind]
  exact congrArg _ (funext label_of_code)

theorem forecastField?_eq (sample : Value) (i : Nat) : forecastField? (sample, i) =
    sample.record?.bind fun fields => (weatherTold? fields).map fun label =>
      (forecastName i, .text (forecastText label (fields.natural? "rain_percentage"))) := by
  rw [forecastField?]
  cases sample.record? with
  | none => rfl
  | some fields =>
    simp only [Option.bind_eq_bind, Option.bind_some, ← told_eq, Option.map_map]
    cases fields.natural? "weather" with
    | none => rfl
    | some code =>
      rw [Option.bind_some, Option.bind_some]
      cases Weather.ofCode? code with
      | none => rfl
      | some weather =>
        exact congrArg (fun text => some (forecastName i, FieldValue.text text))
          (forecastLabel_eq weather _)

theorem forecastField?_eq_some_iff {sample : Value} {i : Nat} :
    forecastField? (sample, i) = some (name, value) ↔
      ∃ fields label, sample = .record fields ∧ weatherTold? fields = some label ∧
        name = forecastName i ∧
        value = .text (forecastText label (fields.natural? "rain_percentage")) := by
  have record (fields : Record Value) : sample.record? = some fields ↔ sample = .record fields := by
    cases sample <;> simp [Value.record?]
  simp only [forecastField?_eq, Option.bind_eq_some_iff, Option.map_eq_some_iff, record,
    Prod.mk.injEq]
  constructor
  · rintro ⟨fields, isRecord, label, told, sameName, sameValue⟩
    exact ⟨fields, label, isRecord, told, sameName.symm, sameValue.symm⟩
  · rintro ⟨fields, label, isRecord, told, rfl, rfl⟩
    exact ⟨fields, isRecord, label, told, rfl, rfl⟩

/-! ## The fields -/

/-- The fields of samples that stand from an index on. -/
def forecastFields (samples : List Value) (first : Nat) : List (String × FieldValue) :=
  (samples.zipIdx first).filterMap forecastField?

/-- The samples that are reported. -/
def reportedSamples (body : Record Value) : List Value :=
  ((body.array? "weather_forecast_samples").getD []).take
    (min ((body.natural? "num_weather_forecast_samples").getD 0) maxForecastSamples)

theorem entries_weatherFields (body : Record Value) : (weatherFields body).entries =
    ((weatherTold? body).map fun label => ("weather", FieldValue.text label)).toList ++
      forecastFields (reportedSamples body) 0 := by
  rw [← told_eq, Option.map_map]
  rfl

theorem mem_forecastFields_iff {samples : List Value} :
    (name, value) ∈ forecastFields samples 0 ↔
      ∃ (i : Nat) (sample : Value), samples[i]? = some sample ∧
        forecastField? (sample, i) = some (name, value) := by
  rw [forecastFields, List.mem_filterMap]
  constructor
  · rintro ⟨⟨sample, i⟩, stands, told⟩
    exact ⟨i, sample, List.mk_mem_zipIdx_iff_getElem?.mp stands, told⟩
  · rintro ⟨i, sample, stands, told⟩
    exact ⟨(sample, i), List.mk_mem_zipIdx_iff_getElem?.mpr stands, told⟩

theorem forecastFields_cons (sample : Value) (rest : List Value) (first : Nat) :
    forecastFields (sample :: rest) first =
      (forecastField? (sample, first)).toList ++ forecastFields rest (first + 1) := by
  rw [forecastFields, List.zipIdx_cons, List.filterMap_cons]
  cases forecastField? (sample, first) <;> rfl

theorem name_of_mem_forecastField? {sample : Value} {i : Nat} {field : String × FieldValue}
    (member : field ∈ (forecastField? (sample, i)).toList) : field.1 = forecastName i := by
  obtain ⟨-, -, -, -, sameName, -⟩ := forecastField?_eq_some_iff.mp (Option.mem_toList.mp member)
  exact sameName

/-- The names of forecast fields are in the order of their indices. -/
theorem names_forecastFields (samples : List Value) (first : Nat) :
    ((forecastFields samples first).map (·.1)).Sublist
      ((List.range' first samples.length).map forecastName) := by
  induction samples generalizing first with
  | nil => exact .slnil
  | cons sample rest ih =>
    rw [forecastFields_cons, List.map_append, List.length_cons, List.range'_succ, List.map_cons]
    cases told : forecastField? (sample, first) with
    | none => exact (ih (first + 1)).cons _
    | some field =>
      have name : field.1 = forecastName first :=
        name_of_mem_forecastField? (Option.mem_toList.mpr told)
      rw [Option.toList_some, List.map_singleton, name]
      exact (ih (first + 1)).cons_cons _

/-- Another sample at an index changes no field but the one with the name of that index. -/
theorem forecastFields_set (samples : List Value) (first i : Nat) (sample : Value) :
    (forecastFields (samples.set i sample) first).filter (·.1 ≠ forecastName (first + i)) =
      (forecastFields samples first).filter (·.1 ≠ forecastName (first + i)) := by
  induction samples generalizing first i with
  | nil => rfl
  | cons other rest ih =>
    cases i with
    | zero =>
      -- Whatever sample stands here, its field has the name that is left out.
      have own (sample : Value) : (forecastField? (sample, first)).toList.filter
          (·.1 ≠ forecastName (first + 0)) = [] := by
        rw [List.filter_eq_nil_iff]
        intro field member
        simp [name_of_mem_forecastField? member]
      rw [List.set_cons_zero, forecastFields_cons, forecastFields_cons, List.filter_append,
        List.filter_append, own, own]
    | succ i =>
      have later := ih (first + 1) i
      rw [show first + 1 + i = first + (i + 1) by omega] at later
      rw [List.set_cons_succ, forecastFields_cons, forecastFields_cons, List.filter_append,
        List.filter_append, later]

/-! ## The report -/

theorem mem_weatherFields_iff {body : Record Value} :
    (name, value) ∈ (weatherFields body).entries ↔ Reports body name value := by
  rw [entries_weatherFields, List.mem_append, mem_forecastFields_iff]
  constructor
  · rintro (now | ⟨i, sample, stands, field⟩)
    · obtain ⟨label, told, same⟩ := Option.map_eq_some_iff.mp (Option.mem_toList.mp now)
      cases same
      exact .now told
    · obtain ⟨fields, label, rfl, told, rfl, rfl⟩ := forecastField?_eq_some_iff.mp field
      rw [reportedSamples, List.getElem?_take] at stands
      split at stands
      · next within =>
        cases listed : body.array? "weather_forecast_samples" with
        | none => simp [listed] at stands
        | some samples =>
          cases counted : body.natural? "num_weather_forecast_samples" with
          | none => simp [counted] at within
          | some announced =>
            rw [listed] at stands
            rw [counted] at within
            exact .forecast listed counted within stands told
      · cases stands
  · rintro (told | ⟨listed, counted, within, stands, told⟩)
    · left
      rw [told]
      exact List.mem_singleton.mpr rfl
    · right
      refine ⟨_, _, ?_, forecastField?_eq_some_iff.mpr ⟨_, _, rfl, told, rfl, rfl⟩⟩
      rw [reportedSamples, listed, counted, List.getElem?_take]
      exact (if_pos within).trans stands

theorem names_weatherFields (body : Record Value) :
    (weatherFields body).names.Sublist reportNames := by
  have count : (reportedSamples body).length ≤ 4 := by
    rw [reportedSamples, List.length_take]
    exact (min_le_left _ _).trans (min_le_right _ _)
  have now : (((weatherTold? body).map fun label =>
      ("weather", FieldValue.text label)).toList.map (·.1)).Sublist ["weather"] := by
    cases weatherTold? body with
    | none => exact List.nil_sublist _
    | some label => exact List.Sublist.refl _
  have four : (List.range' 0 4).map forecastName =
      ["forecast_0", "forecast_1", "forecast_2", "forecast_3"] := by decide +kernel
  have forecast := (names_forecastFields (reportedSamples body) 0).trans
    ((List.range'_sublist_right.mpr count).map forecastName)
  rw [four] at forecast
  rw [Record.names, entries_weatherFields, List.map_append]
  exact now.append forecast

/-- A body with another value in place of one sample of its forecast. -/
def withSample (body : Record Value) (i : Nat) (sample : Value) : Record Value :=
  match body.array? "weather_forecast_samples" with
  | some samples => body.insert "weather_forecast_samples" (.array (samples.set i sample))
  | none => body

variable {body : Record Value} {i : Nat} {sample : Value}

theorem get?_withSample {other : String} (differs : other ≠ "weather_forecast_samples") :
    (withSample body i sample).get? other = body.get? other := by
  unfold withSample
  split
  · rw [Record.get?_insert, if_neg differs]
  · rfl

theorem weatherTold?_withSample : weatherTold? (withSample body i sample) = weatherTold? body := by
  rw [weatherTold?, Record.natural?, get?_withSample (by decide)]
  rfl

theorem reportedSamples_withSample :
    reportedSamples (withSample body i sample) = (reportedSamples body).set i sample := by
  have listed : ((withSample body i sample).array? "weather_forecast_samples").getD [] =
      ((body.array? "weather_forecast_samples").getD []).set i sample := by
    unfold withSample
    cases held : body.array? "weather_forecast_samples" with
    | none => simp [held]
    | some samples => simp [Record.array?, Record.get?_insert, Value.array?]
  rw [reportedSamples, listed, Record.natural?, get?_withSample (by decide), List.take_set]
  rfl

/-- A session body reports exactly the fields that it should: the weather if its code is known, and
under its own index each sample of the forecast that is announced, among the first four, and a
record with a known code. They stand in the order of the body, no name occurs twice, and there are
at most five. Another value in place of one sample leaves every field as it is but the one of the
index of that sample. -/
theorem weatherFields_reports (body : Record Value) :
    (∀ name value, (name, value) ∈ (weatherFields body).entries ↔ Reports body name value) ∧
      (weatherFields body).names.Sublist reportNames ∧
      (weatherFields body).names.Nodup ∧ (weatherFields body).size ≤ 5 ∧
      ∀ (i : Nat) (sample : Value),
        (weatherFields (withSample body i sample)).entries.filter (·.1 ≠ forecastName i) =
          (weatherFields body).entries.filter (·.1 ≠ forecastName i) := by
  have ordered := names_weatherFields body
  refine ⟨fun name value => mem_weatherFields_iff, ordered,
    ordered.nodup (by decide), ?_, fun i sample => ?_⟩
  · have atMost := ordered.length_le
    rwa [Record.names, List.length_map] at atMost
  · have others := forecastFields_set (reportedSamples body) 0 i sample
    rw [Nat.zero_add] at others
    rw [entries_weatherFields, entries_weatherFields, weatherTold?_withSample,
      reportedSamples_withSample, List.filter_append, List.filter_append, others]

-- The first sample has no code that is known and leaves its name unused.
example : weatherFields ⟨[("num_weather_forecast_samples", .natural .uint8 2),
      ("weather_forecast_samples", .array [.record ⟨[("weather", .natural .uint8 7)]⟩,
        .record ⟨[("weather", .natural .uint8 5), ("rain_percentage", .natural .uint8 80)]⟩])]⟩ =
    ⟨[("forecast_1", .text "Storm\n(80%)")]⟩ := by
  decide +kernel

end LapTelemetry.Session
