import Mathlib.Algebra.GroupWithZero.Nat
import Mathlib.Data.List.Infix
import LapTelemetry.Proofs.ReceiveLoop.Script

/-! # How long a loop takes

Time passes in the waits of a provider and in the back-offs behind its failures. A failure
is told from the others by its number in its row (`failureNumbers`): the row ends with a
datagram and not with a wait, and the number says how long the loop backs off (`delay`).
A script is gone through up to its end or up to the tenth failure in a row
(`goneThrough`), and the time that a loop takes is what these steps wait and what the
numbers of their failures ask for (`receive_clock`).

Within a row the loop cannot back off for long. With every failure the time goes up by as
much as there is less of it left (`budget_after`), and there is none left behind the ninth,
so a stretch of a script without a datagram costs its waits and at most 9500 milliseconds
more. -/

namespace LapTelemetry

open LapTelemetry.Datagram LapTelemetry.Number LapTelemetry.Point

set_option autoImplicit false

/-! ## Waits and failures -/

/-- The provider returns a datagram, lets time pass or fails, and does nothing else. -/
def ProviderStep.IsPlain : ProviderStep → Prop
  | .datagram _ | .wait _ | .failure => True
  | .hang | .cancel | .crash => False

instance : DecidablePred ProviderStep.IsPlain
  | .datagram _ | .wait _ | .failure => .isTrue trivial
  | .hang | .cancel | .crash => .isFalse id

/-- The milliseconds that a step waits. -/
def ProviderStep.ms : ProviderStep → Nat
  | .wait ms => ms
  | _ => 0

/-- The milliseconds that steps wait. -/
def waited (steps : List ProviderStep) : Nat := (steps.map ProviderStep.ms).sum

/-- Of every failure among steps, in order, the number that it has in its row. -/
def failureNumbers (steps : List ProviderStep) : List Nat :=
  (steps.inits.filter fun front => front.getLast? = some .failure).map failuresInRow

/-- The milliseconds that a failure of a number in its row delays a loop. The tenth ends it. -/
def delay (number : Nat) : Nat := if number < 10 then 50 * pow2 (min number 5) else 0

/-- The steps that a loop goes through: all, or those up to the tenth failure in a row. -/
def goneThrough (steps : List ProviderStep) : List ProviderStep :=
  (steps.inits.find? fun front => failuresInRow front = 10).getD steps

theorem inits_concat {α : Type} (items : List α) (last : α) :
    (items ++ [last]).inits = items.inits ++ [items ++ [last]] := by
  simp [List.inits_append]

theorem waited_cons (step : ProviderStep) (rest : List ProviderStep) :
    waited (step :: rest) = step.ms + waited rest := by
  simp [waited]

theorem waited_append (front back : List ProviderStep) :
    waited (front ++ back) = waited front + waited back := by
  simp [waited]

theorem failureNumbers_concat (steps : List ProviderStep) (last : ProviderStep) :
    failureNumbers (steps ++ [last]) =
      failureNumbers steps ++
        if last = .failure then [failuresInRow (steps ++ [last])] else [] := by
  unfold failureNumbers
  rw [inits_concat, List.filter_append, List.map_append]
  by_cases failed : last = .failure <;> simp [failed]

theorem failuresInRow_failure (steps : List ProviderStep) :
    failuresInRow (steps ++ [.failure]) = failuresInRow steps + 1 := by
  rw [← Progress.failures_through, Progress.through_concat, ← Progress.failures_through]
  rfl

namespace Progress

variable {progress : Progress} {front back : List ProviderStep}

/-- The time that has passed is what the steps waited and what their failures asked for. -/
theorem clock_through (steps : List ProviderStep) :
    (start.through steps).clock = waited steps + ((failureNumbers steps).map backOff).sum := by
  induction steps using List.reverseRecOn with
  | nil => rfl
  | append_singleton steps last ih =>
    rw [through_concat, waited_append, failureNumbers_concat]
    cases last with
    | failure =>
      have behind : (start.through steps).failures + 1 = failuresInRow (steps ++ [.failure]) := by
        rw [failuresInRow_failure, failures_through]
      have later : ((start.through steps).after .failure).clock =
          (start.through steps).clock + backOff (failuresInRow (steps ++ [.failure])) := by
        rw [← behind]
        rfl
      rw [later, ih]
      simp [waited, ProviderStep.ms, Nat.add_assoc]
    | wait ms => simp [after, ih, waited, ProviderStep.ms, Nat.add_right_comm]
    | datagram data => simp [after, ih, waited, ProviderStep.ms]
    | hang | cancel | crash => simp [after, ih, waited, ProviderStep.ms]

theorem Passes.append {deadline : Option Nat} (passes : Passes deadline progress front)
    (later : Passes deadline (progress.through front) back) :
    Passes deadline progress (front ++ back) := by
  induction front generalizing progress with
  | nil => exact later
  | cons step rest ih => exact ⟨passes.1, ih passes.2 later⟩

theorem through_append (progress : Progress) (front back : List ProviderStep) :
    progress.through (front ++ back) = (progress.through front).through back :=
  List.foldl_append

theorem failures_of_passes {deadline : Option Nat} (few : progress.failures < maxFailures)
    (passes : Passes deadline progress front) :
    (progress.through front).failures < maxFailures := by
  induction front generalizing progress with
  | nil => exact few
  | cons step rest ih => exact ih (failures_after few passes.1) passes.2

/-- A loop that goes on has not met ten failures in a row. -/
theorem few_of_passes {deadline : Option Nat} {steps : List ProviderStep}
    (passes : Passes deadline start steps) (isPrefix : front <+: steps) :
    failuresInRow front < 10 := by
  obtain ⟨back, rfl⟩ := isPrefix
  rw [← failures_through]
  exact failures_of_passes (Nat.zero_lt_succ 9) passes.front

/-! ## A row of failures -/

/-- The milliseconds that a loop can still back off before the row that it is in ends it. -/
def budget (failures : Nat) : Nat := ((List.range' (failures + 1) (9 - failures)).map backOff).sum

theorem budget_le (failures : Nat) : budget failures ≤ 9500 := by
  by_cases few : failures < 9
  · have each : ∀ failures < 9, budget failures ≤ 9500 := by decide
    exact each failures few
  · have none_left : 9 - failures = 0 := by omega
    rw [budget, none_left]
    exact Nat.zero_le _

/-- Outside of waits a row takes as much time as its budget goes down. -/
theorem budget_after {step : ProviderStep} (goesOn : progress.GoesOn none step)
    (inRow : step.datagram? = none) :
    (progress.after step).clock + budget (progress.after step).failures =
      progress.clock + step.ms + budget progress.failures := by
  cases step with
  | datagram data => cases inRow
  | wait ms => rfl
  | failure =>
    obtain ⟨few, -⟩ := goesOn
    have more : 9 - progress.failures = (9 - (progress.failures + 1)) + 1 := by
      have : progress.failures + 1 < 10 := few
      omega
    have spent : budget progress.failures =
        backOff (progress.failures + 1) + budget (progress.failures + 1) := by
      rw [budget, more, List.range'_succ, List.map_cons, List.sum_cons]
      rfl
    rw [spent]
    exact Nat.add_assoc _ _ _
  | hang | cancel | crash => exact goesOn.elim

theorem budget_through (passes : Passes none progress front)
    (inRow : ∀ step ∈ front, step.datagram? = none) :
    (progress.through front).clock + budget (progress.through front).failures =
      progress.clock + waited front + budget progress.failures := by
  induction front generalizing progress with
  | nil => rfl
  | cons step rest ih =>
    obtain ⟨first, others⟩ := List.forall_mem_cons.mp inRow
    calc ((progress.after step).through rest).clock +
          budget ((progress.after step).through rest).failures
      _ = (progress.after step).clock + waited rest + budget (progress.after step).failures :=
        ih passes.2 others
      _ = progress.clock + step.ms + budget progress.failures + waited rest := by
        rw [← budget_after passes.1 first, Nat.add_right_comm]
      _ = progress.clock + waited (step :: rest) + budget progress.failures := by
        rw [waited_cons]
        omega

/-! ## Where a plain script ends -/

theorem stops_of_plain {ending : Ending} (plain : ∀ step ∈ back, step.IsPlain)
    (stops : Stops none progress back ending) :
    (back = [] ∧ ending = .endOfStream) ∨
      ∃ later, back = .failure :: later ∧ ending = .tooManyFailures ∧
        progress.failures + 1 = maxFailures := by
  cases stops with
  | endOfStream => exact .inl ⟨rfl, rfl⟩
  | tooManyFailures tenth => exact .inr ⟨_, rfl, rfl, tenth⟩
  | cancelled | blocked | crashed => exact (plain _ List.mem_cons_self).elim
  | backingOff _ due | waiting due | hanging due => cases due

end Progress

theorem goneThrough_of_few {steps : List ProviderStep}
    (few : ∀ front, front <+: steps → failuresInRow front < 10) : goneThrough steps = steps := by
  have never : (steps.inits.find? fun front => failuresInRow front = 10) = none := by
    refine List.find?_eq_none.mpr fun front member => ?_
    have := few front ((List.mem_inits _ _).mp member)
    simp only [decide_eq_true_eq]
    omega
  rw [goneThrough, never]
  rfl

theorem goneThrough_of_tenth {front : List ProviderStep} (later : List ProviderStep)
    (few : ∀ earlier, earlier <+: front → failuresInRow earlier < 10)
    (tenth : failuresInRow (front ++ [.failure]) = 10) :
    goneThrough (front ++ .failure :: later) = front ++ [.failure] := by
  have never : (front.inits.find? fun front => failuresInRow front = 10) = none := by
    refine List.find?_eq_none.mpr fun earlier member => ?_
    have := few earlier ((List.mem_inits _ _).mp member)
    simp only [decide_eq_true_eq]
    omega
  rw [goneThrough, List.append_cons, List.inits_append, inits_concat, List.find?_append,
    List.find?_append, never, Option.none_or, List.find?_cons_of_pos (by simpa using tenth)]
  rfl

/-- Where the number of no failure reaches ten, the loop backs off behind each of them. -/
theorem delays_of_few {steps : List ProviderStep}
    (few : ∀ front, front <+: steps → failuresInRow front < 10) :
    (failureNumbers steps).map backOff = (failureNumbers steps).map delay := by
  refine List.map_congr_left fun number member => ?_
  obtain ⟨front, isFront, rfl⟩ := List.mem_map.mp member
  have isPrefix := (List.mem_inits _ _).mp (List.mem_filter.mp isFront).1
  exact (if_pos (few front isPrefix)).symm

namespace ReceiveLoop

variable {σ : Type} (into : Sink σ) (labeler : Nat → String)

/-- A loop that nobody cancels ends when all that it has gone through is over. -/
theorem clock_run (loop : ReceiveLoop σ) {front rest : List ProviderStep} {ending : Ending}
    (passes : Progress.Passes none loop.progress front) (plain : ∀ step ∈ rest, step.IsPlain)
    (stops : Progress.Stops none (loop.progress.through front) rest ending) :
    (loop.run into labeler none (front ++ rest)).clock = (loop.progress.through front).clock := by
  induction front generalizing loop with
  | nil =>
    rcases Progress.stops_of_plain plain stops with ⟨rfl, -⟩ | ⟨later, rfl, -, tenth⟩
    · rfl
    · have many : maxFailures ≤ loop.failures + 1 := Nat.le_of_eq tenth.symm
      rw [List.nil_append, run]
      exact congrArg LoopOutcome.clock (if_pos many)
  | cons step front ih =>
    obtain ⟨goesOn, passes⟩ := passes
    have progress := next_progress into labeler loop step
    rw [← progress] at passes
    rw [List.cons_append, run_cons into labeler _ goesOn]
    have later := ih (loop.next into labeler step) passes (by rw [progress]; exact stops)
    rw [progress] at later
    exact later

end ReceiveLoop

namespace Collector

variable {σ : Type} (into : Sink σ) (labeler : Nat → String) (collector : Collector σ)

/-- How far a loop gets in a plain script, what ends it and when. -/
theorem exists_course {steps : List ProviderStep} (plain : ∀ step ∈ steps, step.IsPlain) :
    ∃ front rest, steps = front ++ rest ∧ Progress.Passes none .start front ∧
      (collector.receive into labeler none steps).clock = (Progress.start.through front).clock ∧
      ((rest = [] ∧ (collector.receive into labeler none steps).ending = .endOfStream) ∨
        ∃ later, rest = .failure :: later ∧ failuresInRow front + 1 = 10 ∧
          (collector.receive into labeler none steps).ending = .tooManyFailures) := by
  have fresh : Progress.start.failures < maxFailures := Nat.zero_lt_succ 9
  obtain ⟨front, rest, ending, rfl, passes, stops⟩ := Progress.exists_stops fresh steps
  have behind : ∀ step ∈ rest, step.IsPlain := fun step member =>
    plain step (List.mem_append_right front member)
  obtain ⟨ended, -⟩ := ReceiveLoop.run_through into labeler (.start collector) (.start collector)
    rfl rfl passes stops
  refine ⟨front, rest, rfl, passes,
    ReceiveLoop.clock_run into labeler (.start collector) passes behind stops, ?_⟩
  rcases Progress.stops_of_plain behind stops with ⟨nothing, rfl⟩ | ⟨later, failed, rfl, tenth⟩
  · exact .inl ⟨nothing, ended⟩
  · rw [Progress.failures_through] at tenth
    exact .inr ⟨later, failed, tenth, ended⟩

/-- A stretch of a script without a datagram takes no longer than its waits and 9500
milliseconds. -/
theorem clock_row {before row : List ProviderStep} (plain : ∀ step ∈ before ++ row, step.IsPlain)
    (inRow : ∀ step ∈ row, step.datagram? = none) :
    (collector.receive into labeler none (before ++ row)).clock ≤
      (collector.receive into labeler none before).clock + waited row + 9500 := by
  obtain ⟨plainBefore, plainRow⟩ := List.forall_mem_append.mp plain
  obtain ⟨front, rest, rfl, passes, clock, ⟨rfl, -⟩ | ⟨later, rfl, tenth, -⟩⟩ :=
    exists_course into labeler collector plainBefore
  · -- The row is reached, and the loop goes through some of it.
    rw [List.append_nil] at plain clock ⊢
    have few := Progress.failures_of_passes (Nat.zero_lt_succ 9) passes
    obtain ⟨reached, left, ending, rfl, further, stops⟩ := Progress.exists_stops few row
    have time := Progress.budget_through further (List.forall_mem_append.mp inRow).1
    have most := Progress.budget_le (Progress.start.through front).failures
    rw [← Progress.through_append] at stops time
    have whole := ReceiveLoop.clock_run into labeler (.start collector) (passes.append further)
      (List.forall_mem_append.mp plainRow).2 stops
    have total : (collector.receive into labeler none (front ++ (reached ++ left))).clock =
        (Progress.start.through (front ++ reached)).clock := by
      rw [← List.append_assoc]
      exact whole
    rw [total, clock, waited_append]
    omega
  · -- The loop has ended before the row.
    have stops : Progress.Stops none (Progress.start.through front) (.failure :: (later ++ row))
        .tooManyFailures := .tooManyFailures (by rw [Progress.failures_through]; exact tenth)
    have same := ReceiveLoop.clock_run into labeler (.start collector) passes
      (fun step member => plain step (by
        rw [List.append_assoc]
        exact List.mem_append_right front member)) stops
    have total : (collector.receive into labeler none (front ++ .failure :: later ++ row)).clock =
        (Progress.start.through front).clock := by
      rw [List.append_assoc]
      exact same
    rw [total, clock, Nat.add_assoc]
    exact Nat.le_add_right _ _

/-- A loop that nobody cancels takes the waits that it goes through, and behind each failure but the
tenth in a row the time that its number asks for. It ends with the script, unless it has gone
through ten failures in a row. Whatever it has been through, a stretch without a datagram takes it
no longer than its waits and 9500 milliseconds. -/
theorem receive_clock {steps : List ProviderStep} (plain : ∀ step ∈ steps, step.IsPlain) :
    let outcome := collector.receive into labeler none steps
    let gone := goneThrough steps
    outcome.clock = waited gone + ((failureNumbers gone).map delay).sum ∧
      ((outcome.ending = .endOfStream ∧ gone = steps ∧
          ∀ front, front <+: steps → failuresInRow front < 10) ∨
        (outcome.ending = .tooManyFailures ∧ gone <+: steps ∧ failuresInRow gone = 10)) ∧
      ∀ before row after, steps = before ++ row ++ after →
        (∀ step ∈ row, step.datagram? = none) →
          (collector.receive into labeler none (before ++ row)).clock ≤
            (collector.receive into labeler none before).clock + waited row + 9500 := by
  intro outcome gone
  obtain ⟨front, rest, split, passes, clock, ends⟩ := exists_course into labeler collector plain
  have few (earlier : List ProviderStep) (isPrefix : earlier <+: front) :
      failuresInRow earlier < 10 := Progress.few_of_passes passes isPrefix
  have time : outcome.clock = waited front + ((failureNumbers front).map delay).sum := by
    rw [← delays_of_few few, ← Progress.clock_through]
    exact clock
  refine and_assoc.mp ⟨?_, ?_⟩
  · rcases ends with ⟨rfl, ended⟩ | ⟨later, rfl, tenth, ended⟩
    · rw [List.append_nil] at split
      have all : gone = front := by
        rw [← goneThrough_of_few few, ← split]
      rw [split, all]
      exact ⟨time, .inl ⟨ended, rfl, few⟩⟩
    · have inRow : failuresInRow (front ++ [.failure]) = 10 :=
        (failuresInRow_failure front).trans tenth
      have reached : gone = front ++ [.failure] := by
        rw [← goneThrough_of_tenth later few inRow, ← split]
      -- The tenth failure waits for nothing and is not waited for.
      rw [reached, waited_append, failureNumbers_concat, if_pos rfl, inRow, List.map_append,
        List.sum_append]
      refine ⟨time, .inr ⟨ended, ⟨later, ?_⟩, rfl⟩⟩
      rw [split, List.append_assoc]
      rfl
  · intro before row after split inRow
    refine clock_row into labeler collector (fun step member => plain step ?_) inRow
    rw [split]
    exact List.mem_append_left after member

/-- Three rows of nine failures and two waits, and the tenth failure at the end of the last row. -/
theorem receive_clock_often :
    let script := often ++ [.failure, .datagram sessionBytes]
    let outcome := (Collector.start sessionsOnly ()).receive .failing (fun _ => "S1") none script
    (∀ step ∈ script, step.IsPlain) ∧ outcome.clock = 3 * 9500 + 540 ∧
      outcome.ending = .tooManyFailures ∧ goneThrough script = often ++ [.failure] := by
  intro script outcome
  have plain : ∀ step ∈ script, step.IsPlain := by decide
  obtain ⟨clock, ends, -⟩ := receive_clock .failing (fun _ => "S1") (.start sessionsOnly ()) plain
  have reached : goneThrough script = often ++ [.failure] := by decide +kernel
  refine ⟨plain, clock.trans (by decide +kernel), ?_, reached⟩
  rcases ends with ⟨-, all, -⟩ | ⟨ended, -, -⟩
  · exact absurd (all.symm.trans reached) (by decide)
  · exact ended

end Collector

end LapTelemetry
