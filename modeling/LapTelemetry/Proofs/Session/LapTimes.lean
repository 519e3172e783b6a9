import LapTelemetry.Session.LapTime
import LapTelemetry.Proofs.Text.Numerals

/-! # Reading lap times

A lap time is shown as minutes, seconds and milliseconds (`ShowsTime`): the minutes without
padding, however many there are, the seconds with two digits and below sixty, the milliseconds
with three. Nothing else has this form but the texts of lap times, and the three numbers are the
ones that the time is made of (`showsTime_iff`).

The numbers are digits only, so the first colon of such a text is the one behind its minutes and
the first point behind it the one behind its seconds. `readLapTime?` cuts a text there and counts
its milliseconds. It asks for no widths, but what shows a time it reads as that time
(`readLapTime?_of_showsTime`), so no two times have one text. -/

namespace LapTelemetry.Session

open LapTelemetry.Text

set_option autoImplicit false

variable {text : String} {minutes seconds millis : Nat}

/-- A text that shows minutes without padding, seconds with two digits and below sixty, and
milliseconds with three digits. -/
structure ShowsTime (text : String) (minutes seconds millis : Nat) : Prop where
  spelled : ∃ m s l : List Char, text.toList = m ++ ':' :: (s ++ '.' :: l) ∧
    Decimal.IsUnpadded m minutes ∧ Decimal.HasWidth 2 s seconds ∧ Decimal.HasWidth 3 l millis
  below : seconds < 60

/-- What stands in front of a character where it first comes, and what stands behind it. -/
def cutAt (stop : Char) (text : List Char) : List Char × List Char :=
  (text.takeWhile (· ≠ stop), (text.dropWhile (· ≠ stop)).drop 1)

/-- The milliseconds that a text of minutes, seconds and milliseconds counts. -/
def readLapTime? (text : String) : Option Nat := do
  let (minutes, behind) := cutAt ':' text.toList
  let (seconds, millis) := cutAt '.' behind
  return ((← Decimal.value? minutes) * 60 + (← Decimal.value? seconds)) * 1000 +
    (← Decimal.value? millis)

/-! ## What is written -/

theorem toList_lapTimeText (minutes : Nat) (below : seconds < 60) (fits : millis < 1000) :
    (lapTimeText ((minutes * 60 + seconds) * 1000 + millis)).toList =
      Decimal.digits minutes ++ ':' :: ((Decimal.padded 2 seconds).toList ++
        '.' :: (Decimal.padded 3 millis).toList) := by
  have whole : ((minutes * 60 + seconds) * 1000 + millis) / 1000 / 60 = minutes := by omega
  have rest : ((minutes * 60 + seconds) * 1000 + millis) / 1000 % 60 = seconds := by omega
  have last : ((minutes * 60 + seconds) * 1000 + millis) % 1000 = millis := by omega
  simp only [lapTimeText, whole, rest, last, Decimal.ofNat, String.toList_append,
    String.toList_ofList, List.append_assoc]
  rfl

/-- **The texts of lap times are the texts that show a time**, each the time that it shows. -/
theorem showsTime_iff : ShowsTime text minutes seconds millis ↔
    seconds < 60 ∧ millis < 1000 ∧
      text = lapTimeText ((minutes * 60 + seconds) * 1000 + millis) := by
  constructor
  · rintro ⟨⟨m, s, l, shape, ofMinutes, ofSeconds, ofMillis⟩, below⟩
    obtain rfl := Decimal.isUnpadded_iff.mp ofMinutes
    obtain ⟨-, rfl⟩ := Decimal.hasWidth_iff.mp ofSeconds
    obtain ⟨fits, rfl⟩ := Decimal.hasWidth_iff.mp ofMillis
    refine ⟨below, fits, String.toList_inj.mp ?_⟩
    rw [shape, toList_lapTimeText minutes below fits]
  · rintro ⟨below, fits, rfl⟩
    exact ⟨⟨_, _, _, toList_lapTimeText minutes below fits, Decimal.isUnpadded_iff.mpr rfl,
      Decimal.hasWidth_iff.mpr ⟨by omega, rfl⟩, Decimal.hasWidth_iff.mpr ⟨fits, rfl⟩⟩, below⟩

theorem showsTime_lapTimeText (ms : Nat) :
    ShowsTime (lapTimeText ms) (ms / 60000) (ms / 1000 % 60) (ms % 1000) := by
  have parts : (ms / 60000 * 60 + ms / 1000 % 60) * 1000 + ms % 1000 = ms := by omega
  exact showsTime_iff.mpr ⟨Nat.mod_lt _ (by decide), Nat.mod_lt _ (by decide), by rw [parts]⟩

/-! ## What is read -/

/-- Digits are cut off where they end. -/
theorem cutAt_digits {stop : Char} {digits : List Char}
    (decimal : ∀ c ∈ digits, '0' ≤ c ∧ c ≤ '9') (noDigit : ¬ ('0' ≤ stop ∧ stop ≤ '9'))
    (rest : List Char) : cutAt stop (digits ++ stop :: rest) = (digits, rest) := by
  have others : ∀ c ∈ digits, decide (c ≠ stop) = true := by
    intro c member
    refine decide_eq_true ?_
    rintro rfl
    exact noDigit (decimal c member)
  rw [cutAt, List.takeWhile_append_of_pos others, List.dropWhile_append_of_pos others]
  simp

theorem readLapTime?_of_showsTime (shows : ShowsTime text minutes seconds millis) :
    readLapTime? text = some ((minutes * 60 + seconds) * 1000 + millis) := by
  obtain ⟨⟨m, s, l, shape, ofMinutes, ofSeconds, ofMillis⟩, -⟩ := shows
  have colon : cutAt ':' (m ++ ':' :: (s ++ '.' :: l)) = (m, s ++ '.' :: l) :=
    cutAt_digits (Decimal.digit_of_value? ofMinutes.reads) (by decide) _
  have point : cutAt '.' (s ++ '.' :: l) = (s, l) :=
    cutAt_digits (Decimal.digit_of_value? ofSeconds.reads) (by decide) _
  simp only [readLapTime?, shape, colon, point, ofMinutes.reads, ofSeconds.reads, ofMillis.reads]
  rfl

theorem readLapTime?_lapTimeText (ms : Nat) : readLapTime? (lapTimeText ms) = some ms := by
  rw [readLapTime?_of_showsTime (showsTime_lapTimeText ms)]
  exact congrArg some (by omega)

/-- **A lap time can be told from its text**, whatever its size: the text shows minutes, seconds
and milliseconds, it is the only one that shows this time, whoever reads it counts the
milliseconds of the lap, and the texts of different times differ. -/
theorem lapTimeText_shows (ms : Nat) :
    ShowsTime (lapTimeText ms) (ms / 60000) (ms / 1000 % 60) (ms % 1000) ∧
      (∀ minutes seconds millis, ShowsTime (lapTimeText ms) minutes seconds millis →
        (minutes * 60 + seconds) * 1000 + millis = ms) ∧
      (∀ text, text = lapTimeText ms ↔ ∃ minutes seconds millis,
        ShowsTime text minutes seconds millis ∧ (minutes * 60 + seconds) * 1000 + millis = ms) ∧
      readLapTime? (lapTimeText ms) = some ms ∧
      ∀ other, lapTimeText other = lapTimeText ms ↔ other = ms := by
  refine ⟨showsTime_lapTimeText ms, fun minutes seconds millis shown => ?_,
    fun text => ⟨?_, ?_⟩, readLapTime?_lapTimeText ms, fun other => ⟨fun same => ?_, ?_⟩⟩
  · have read := readLapTime?_of_showsTime shown
    rw [readLapTime?_lapTimeText] at read
    exact (Option.some.inj read).symm
  · rintro rfl
    exact ⟨_, _, _, showsTime_lapTimeText ms, by omega⟩
  · rintro ⟨minutes, seconds, millis, shown, rfl⟩
    exact (showsTime_iff.mp shown).2.2
  · have read := congrArg readLapTime? same
    rw [readLapTime?_lapTimeText, readLapTime?_lapTimeText] at read
    exact Option.some.inj read
  · rintro rfl
    rfl

-- The longest time of 32 bits, and the last time before a full minute and the minute itself.
example : lapTimeText 4294967295 = "71582:47.295" ∧ lapTimeText 59999 = "0:59.999" ∧
    lapTimeText 60000 = "1:00.000" := by
  decide +kernel

end LapTelemetry.Session
