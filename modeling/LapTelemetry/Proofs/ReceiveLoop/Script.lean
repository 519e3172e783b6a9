import Mathlib.Data.List.Induction
import LapTelemetry.Proofs.Collector.Stream
import LapTelemetry.ReceiveLoop

/-! # Receiving and ingesting

A provider returns datagrams, lets time pass and fails, in any order. What a loop that is
fed by it has come to is said by the steps it has been through: how many failures stand
behind the last datagram, and how much time has passed (`Progress`). From this alone it
can be told whether the loop goes on with the next step or where in the script it stops
(`GoesOn`, `Stops`), and every script has its end (`exists_stops`).

After a step a loop that goes on is another loop, run with the rest of the script, and what
was noted of the step (`run_cons`). Up to that end the loop is nothing but a collector that
ingests the datagrams, each once and in order. Waits and failures change neither what it
has collected nor what it has published (`receive_ingests`). -/

namespace LapTelemetry

open LapTelemetry.Datagram LapTelemetry.Point LapTelemetry.Session LapTelemetry.Wire

set_option autoImplicit false

/-! ## Scripts -/

/-- The datagram that a step returns. -/
def ProviderStep.datagram? : ProviderStep → Option (List UInt8)
  | .datagram data => some data
  | _ => none

/-- The datagrams that steps return, in order. -/
def returned (steps : List ProviderStep) : List (List UInt8) :=
  steps.filterMap ProviderStep.datagram?

/-- How many failures stand behind the last datagram. -/
def failuresInRow (steps : List ProviderStep) : Nat :=
  (steps.reverse.takeWhile fun step => step.datagram?.isNone).count .failure

/-- What a loop has been through. -/
structure Progress where
  /-- The failures behind the last datagram. -/
  failures : Nat
  /-- The milliseconds that have passed. -/
  clock : Nat

/-- No cancellation is due by a time. -/
def Uncancelled (deadline : Option Nat) (time : Nat) : Prop := ∀ limit ∈ deadline, time < limit

namespace Progress

def start : Progress := ⟨0, 0⟩

/-- The progress with one more step; after a failure the loop backs off. -/
def after (progress : Progress) : ProviderStep → Progress
  | .datagram _ => { progress with failures := 0 }
  | .wait ms => { progress with clock := progress.clock + ms }
  | .failure => ⟨progress.failures + 1, progress.clock + backOff (progress.failures + 1)⟩
  | _ => progress

def through (progress : Progress) (steps : List ProviderStep) : Progress :=
  steps.foldl after progress

/-- After a step the provider is asked again. -/
def GoesOn (deadline : Option Nat) (progress : Progress) : ProviderStep → Prop
  | .datagram _ => True
  | .wait ms => Uncancelled deadline (progress.clock + ms)
  | .failure => progress.failures + 1 < maxFailures ∧
      Uncancelled deadline (progress.clock + backOff (progress.failures + 1))
  | .hang | .cancel | .crash => False

/-- The loop goes on after every one of the steps. -/
def Passes (deadline : Option Nat) : Progress → List ProviderStep → Prop
  | _, [] => True
  | progress, step :: rest =>
    progress.GoesOn deadline step ∧ Passes deadline (progress.after step) rest

instance (deadline : Option Nat) (time : Nat) : Decidable (Uncancelled deadline time) :=
  inferInstanceAs (Decidable (∀ limit ∈ deadline, time < limit))

instance decidableGoesOn (deadline : Option Nat) (progress : Progress) :
    (step : ProviderStep) → Decidable (progress.GoesOn deadline step)
  | .datagram _ => .isTrue trivial
  | .wait ms => inferInstanceAs (Decidable (Uncancelled deadline (progress.clock + ms)))
  | .failure => inferInstanceAs (Decidable (progress.failures + 1 < maxFailures ∧
      Uncancelled deadline (progress.clock + backOff (progress.failures + 1))))
  | .hang | .cancel | .crash => .isFalse id

instance decidablePasses (deadline : Option Nat) :
    (progress : Progress) → (steps : List ProviderStep) → Decidable (Passes deadline progress steps)
  | _, [] => .isTrue trivial
  | progress, step :: rest =>
    have := decidablePasses deadline (progress.after step) rest
    inferInstanceAs (Decidable (progress.GoesOn deadline step ∧
      Passes deadline (progress.after step) rest))

/-- What comes next is the end. -/
inductive Stops (deadline : Option Nat) (progress : Progress) :
    List ProviderStep → Ending → Prop where
  | endOfStream : Stops deadline progress [] .endOfStream
  | tooManyFailures {rest : List ProviderStep} (tenth : progress.failures + 1 = maxFailures) :
      Stops deadline progress (.failure :: rest) .tooManyFailures
  | backingOff {rest : List ProviderStep} {limit : Nat}
      (few : progress.failures + 1 < maxFailures) (due : deadline = some limit)
      (late : limit ≤ progress.clock + backOff (progress.failures + 1)) :
      Stops deadline progress (.failure :: rest) .cancelled
  | waiting {rest : List ProviderStep} {ms limit : Nat} (due : deadline = some limit)
      (late : limit ≤ progress.clock + ms) : Stops deadline progress (.wait ms :: rest) .cancelled
  | hanging {rest : List ProviderStep} {limit : Nat} (due : deadline = some limit) :
      Stops deadline progress (.hang :: rest) .cancelled
  | cancelled {rest : List ProviderStep} : Stops deadline progress (.cancel :: rest) .cancelled
  | blocked {rest : List ProviderStep} (never : deadline = none) :
      Stops deadline progress (.hang :: rest) .blocked
  | crashed {rest : List ProviderStep} : Stops deadline progress (.crash :: rest) .crashed

theorem through_concat (progress : Progress) (steps : List ProviderStep) (last : ProviderStep) :
    progress.through (steps ++ [last]) = (progress.through steps).after last :=
  List.foldl_append

/-- A datagram ends a row of failures, and a wait does not. -/
theorem failures_through (steps : List ProviderStep) :
    (start.through steps).failures = failuresInRow steps := by
  induction steps using List.reverseRecOn with
  | nil => rfl
  | append_singleton front last ih =>
    rw [through_concat]
    unfold failuresInRow at ih ⊢
    rw [List.reverse_append, List.reverse_singleton, List.singleton_append]
    cases last with
    | datagram data => rfl
    | _ => simp [after, ProviderStep.datagram?, ih]

variable {deadline : Option Nat} {progress : Progress} {step : ProviderStep}

/-- There are never ten failures in a row behind the loop. -/
theorem failures_after (few : progress.failures < maxFailures)
    (goesOn : progress.GoesOn deadline step) : (progress.after step).failures < maxFailures := by
  cases step with
  | datagram data => exact Nat.lt_of_le_of_lt (Nat.zero_le _) few
  | failure => exact goesOn.1
  | _ => exact few

theorem uncancelled_or_due (deadline : Option Nat) (time : Nat) :
    Uncancelled deadline time ∨ ∃ limit, deadline = some limit ∧ limit ≤ time := by
  cases deadline with
  | none => exact .inl fun limit mem => absurd mem (Option.not_mem_none limit)
  | some limit =>
    by_cases early : time < limit
    · exact .inl fun other mem => Option.some.inj mem ▸ early
    · exact .inr ⟨limit, rfl, Nat.le_of_not_lt early⟩

theorem goesOn_or_stops (deadline : Option Nat) (few : progress.failures < maxFailures)
    (step : ProviderStep) (rest : List ProviderStep) :
    progress.GoesOn deadline step ∨ ∃ ending, Stops deadline progress (step :: rest) ending := by
  cases step with
  | datagram data => exact .inl trivial
  | wait ms =>
    rcases uncancelled_or_due deadline (progress.clock + ms) with early | ⟨limit, due, late⟩
    · exact .inl early
    · exact .inr ⟨_, .waiting due late⟩
  | failure =>
    by_cases tenth : progress.failures + 1 = maxFailures
    · exact .inr ⟨_, .tooManyFailures tenth⟩
    have fewer : progress.failures + 1 < maxFailures := by omega
    rcases uncancelled_or_due deadline (progress.clock + backOff (progress.failures + 1)) with
      early | ⟨limit, due, late⟩
    · exact .inl ⟨fewer, early⟩
    · exact .inr ⟨_, .backingOff fewer due late⟩
  | hang =>
    cases due : deadline with
    | none => exact .inr ⟨_, .blocked rfl⟩
    | some limit => exact .inr ⟨_, .hanging rfl⟩
  | cancel => exact .inr ⟨_, .cancelled⟩
  | crash => exact .inr ⟨_, .crashed⟩

/-- Every script is gone through up to some end. -/
theorem exists_stops (few : progress.failures < maxFailures) (steps : List ProviderStep) :
    ∃ front rest ending, steps = front ++ rest ∧ Passes deadline progress front ∧
      Stops deadline (progress.through front) rest ending := by
  induction steps generalizing progress with
  | nil => exact ⟨[], [], _, rfl, trivial, .endOfStream⟩
  | cons step rest ih =>
    rcases goesOn_or_stops deadline few step rest with goesOn | ⟨ending, stops⟩
    · obtain ⟨front, behind, ending, rfl, passes, stops⟩ := ih (failures_after few goesOn)
      exact ⟨step :: front, behind, ending, rfl, ⟨goesOn, passes⟩, stops⟩
    · exact ⟨[], step :: rest, ending, rfl, trivial, stops⟩

end Progress

/-- Nothing stops a loop that is returned datagrams alone. -/
theorem Progress.passes_replay (deadline : Option Nat) (progress : Progress)
    (datagrams : List (List UInt8)) : Passes deadline progress (replay datagrams) := by
  induction datagrams generalizing progress with
  | nil => trivial
  | cons data rest ih => exact ⟨trivial, ih _⟩

theorem Progress.Passes.front {deadline : Option Nat} {progress : Progress}
    {front back : List ProviderStep} (passes : Passes deadline progress (front ++ back)) :
    Passes deadline progress front := by
  induction front generalizing progress with
  | nil => trivial
  | cons step rest ih => exact ⟨passes.1, ih passes.2⟩

theorem returned_replay (datagrams : List (List UInt8)) :
    returned (replay datagrams) = datagrams := by
  induction datagrams with
  | nil => rfl
  | cons data rest ih => exact congrArg (data :: ·) ih

/-! ## The loop -/

/-- An outcome with what was noted before. -/
def LoopOutcome.noting {σ : Type} (outcome : LoopOutcome σ) (noted : List (Option Snapshot)) :
    LoopOutcome σ :=
  { outcome with updates := noted ++ outcome.updates }

namespace ReceiveLoop

variable {σ : Type}

def progress (loop : ReceiveLoop σ) : Progress := ⟨loop.failures, loop.clock⟩

section Steps

variable {into : Sink σ} {labeler : Nat → String} {deadline : Option Nat} {loop : ReceiveLoop σ}
  {ms : Nat}

theorem pause_of_uncancelled (early : Uncancelled deadline (loop.clock + ms)) :
    loop.pause deadline ms = .ok { loop with clock := loop.clock + ms } := by
  cases deadline with
  | none => rfl
  | some limit => exact if_pos (early limit rfl)

theorem pause_of_due {limit : Nat} (due : deadline = some limit) (late : limit ≤ loop.clock + ms) :
    loop.pause deadline ms =
      .error ({ loop with clock := max loop.clock limit }.finish .cancelled) := by
  subst due
  exact if_neg (Nat.not_lt.mpr late)

/-- Where a script stops the loop ends with what it has collected. -/
theorem run_of_stops (into : Sink σ) (labeler : Nat → String) {rest : List ProviderStep}
    {ending : Ending} (stops : Progress.Stops deadline loop.progress rest ending) :
    ∃ clock, loop.run into labeler deadline rest = ⟨loop.collector, ending, clock, []⟩ := by
  cases stops with
  | endOfStream => exact ⟨_, rfl⟩
  | tooManyFailures tenth =>
    have many : maxFailures ≤ loop.failures + 1 := Nat.le_of_eq tenth.symm
    exact ⟨_, if_pos many⟩
  | backingOff few due late =>
    have fewer : ¬ maxFailures ≤ loop.failures + 1 := Nat.not_le.mpr few
    have paused : { loop with failures := loop.failures + 1 }.pause deadline
        (backOff (loop.failures + 1)) = .error _ := pause_of_due due late
    simp only [run, if_neg fewer, paused]
    exact ⟨_, rfl⟩
  | waiting due late =>
    simp only [run, pause_of_due due late]
    exact ⟨_, rfl⟩
  | hanging due =>
    subst due
    exact ⟨_, rfl⟩
  | cancelled => exact ⟨_, rfl⟩
  | blocked never =>
    subst never
    exact ⟨_, rfl⟩
  | crashed => exact ⟨_, rfl⟩

theorem run_wait {rest : List ProviderStep}
    (goesOn : loop.progress.GoesOn deadline (.wait ms)) :
    loop.run into labeler deadline (.wait ms :: rest) =
      { loop with clock := loop.clock + ms }.run into labeler deadline rest := by
  simp only [run, pause_of_uncancelled goesOn]

theorem run_failure {rest : List ProviderStep} (goesOn : loop.progress.GoesOn deadline .failure) :
    loop.run into labeler deadline (.failure :: rest) =
      after none ({ loop with
        failures := loop.failures + 1
        clock := loop.clock + backOff (loop.failures + 1) }.run into labeler deadline rest) := by
  obtain ⟨few, early⟩ := goesOn
  have fewer : ¬ maxFailures ≤ loop.failures + 1 := Nat.not_le.mpr few
  have paused : { loop with failures := loop.failures + 1 }.pause deadline
      (backOff (loop.failures + 1)) = .ok _ := pause_of_uncancelled early
  simp only [run, if_neg fewer, paused]

end Steps

section Step

variable (into : Sink σ) (labeler : Nat → String)

/-- The loop after a step, if it goes on after it. -/
def next (loop : ReceiveLoop σ) : ProviderStep → ReceiveLoop σ
  | .datagram data => (loop.receive into labeler data).2
  | .wait ms => { loop with clock := loop.clock + ms }
  | .failure =>
    { loop with
      failures := loop.failures + 1
      clock := loop.clock + backOff (loop.failures + 1) }
  | .hang | .cancel | .crash => loop

/-- What is noted of a step: what was published at an answer. -/
def noted (loop : ReceiveLoop σ) : ProviderStep → List (Option Snapshot)
  | .datagram data => [(loop.receive into labeler data).1]
  | .failure => [none]
  | _ => []

theorem next_progress (loop : ReceiveLoop σ) (step : ProviderStep) :
    (loop.next into labeler step).progress = loop.progress.after step := by
  cases step <;> rfl

/-- A loop that goes on after a step is run from there, with what was noted of the step. -/
theorem run_cons {deadline : Option Nat} {loop : ReceiveLoop σ} {step : ProviderStep}
    (rest : List ProviderStep) (goesOn : loop.progress.GoesOn deadline step) :
    loop.run into labeler deadline (step :: rest) =
      ((loop.next into labeler step).run into labeler deadline rest).noting
        (loop.noted into labeler step) := by
  cases step with
  | datagram data => rfl
  | wait ms =>
    rw [run_wait goesOn]
    rfl
  | failure =>
    rw [run_failure goesOn]
    rfl
  | hang | cancel | crash => exact goesOn.elim

end Step

/-- Through any steps the loop collects and publishes what another one does that gets the same
datagrams and nothing else. -/
theorem run_through (into : Sink σ) (labeler : Nat → String) {deadline : Option Nat}
    (loop twin : ReceiveLoop σ) {front rest : List ProviderStep} {ending : Ending}
    (collector : loop.collector = twin.collector) (published : loop.published = twin.published)
    (passes : Progress.Passes deadline loop.progress front)
    (stops : Progress.Stops deadline (loop.progress.through front) rest ending) :
    let outcome := loop.run into labeler deadline (front ++ rest)
    outcome.ending = ending ∧
      outcome.collector = loop.collector.ingestAll into labeler (returned front) ∧
      outcome.published =
        (twin.run into labeler none (replay (returned front))).published := by
  induction front generalizing loop twin with
  | nil =>
    obtain ⟨clock, ended⟩ := run_of_stops into labeler stops
    rw [List.nil_append, ended]
    exact ⟨rfl, rfl, rfl⟩
  | cons step front ih =>
    obtain ⟨goesOn, passes⟩ := passes
    cases step with
    | datagram data =>
      have next : (loop.receive into labeler data).2.collector =
          (twin.receive into labeler data).2.collector := by
        simp only [receive, collector]
      have news : (loop.receive into labeler data).1 = (twin.receive into labeler data).1 := by
        simp only [receive, collector, published]
      have known : (loop.receive into labeler data).2.published =
          (twin.receive into labeler data).2.published := by
        simp only [receive, collector, published]
      obtain ⟨ended, collected, seen⟩ := ih _ _ next known passes stops
      refine ⟨ended, collected, ?_⟩
      simp only [returned, List.cons_append, List.filterMap_cons, ProviderStep.datagram?, replay,
        List.map_cons, run, after, LoopOutcome.published, news] at seen ⊢
      cases (twin.receive into labeler data).1 with
      | none => exact seen
      | some snapshot => exact congrArg (snapshot :: ·) seen
    | wait ms =>
      rw [List.cons_append, run_wait goesOn]
      exact ih { loop with clock := loop.clock + ms } twin collector published passes stops
    | failure =>
      rw [List.cons_append, run_failure goesOn]
      exact ih { loop with
        failures := loop.failures + 1
        clock := loop.clock + backOff (loop.failures + 1) } twin collector published passes stops
    | hang | cancel | crash => exact goesOn.elim

end ReceiveLoop

namespace Collector

/-- A loop ingests the datagrams that are returned to it before it ends, each once and in order.
Where it ends is said by the script, and every script has an end; a replay is ingested as a
whole. -/
theorem receive_ingests {σ : Type} (into : Sink σ) (labeler : Nat → String)
    (collector : Collector σ) (deadline : Option Nat) (steps : List ProviderStep) :
    (∃ front rest ending, steps = front ++ rest ∧ Progress.Passes deadline .start front ∧
      Progress.Stops deadline (Progress.start.through front) rest ending) ∧
    (∀ front rest ending, steps = front ++ rest → Progress.Passes deadline .start front →
      Progress.Stops deadline (Progress.start.through front) rest ending →
        let outcome := collector.receive into labeler deadline steps
        let ingested := collector.ingestAll into labeler (returned front)
        outcome.ending = ending ∧ outcome.collector = ingested ∧
        (ending ≠ .crashed → outcome.stats = ingested.stats) ∧
        outcome.published =
          (collector.receive into labeler none (replay (returned front))).published ∧
        (Progress.start.through front).failures = failuresInRow front) ∧
    ∀ datagrams,
      let outcome := collector.receive into labeler deadline (replay datagrams)
      outcome.ending = .endOfStream ∧
        outcome.collector = collector.ingestAll into labeler datagrams := by
  have received (script front rest : List ProviderStep) (ending : Ending)
      (split : script = front ++ rest) (passes : Progress.Passes deadline .start front)
      (stops : Progress.Stops deadline (Progress.start.through front) rest ending) :
      let outcome := collector.receive into labeler deadline script
      outcome.ending = ending ∧
        outcome.collector = collector.ingestAll into labeler (returned front) ∧
        outcome.published =
          (collector.receive into labeler none (replay (returned front))).published := by
    subst split
    exact ReceiveLoop.run_through into labeler (.start collector) (.start collector) rfl rfl passes
      stops
  refine ⟨Progress.exists_stops (Nat.zero_lt_succ 9) steps, ?_, ?_⟩
  · intro front rest ending split passes stops
    obtain ⟨ended, collected, published⟩ := received steps front rest ending split passes stops
    refine ⟨ended, collected, fun alive => ?_, published, Progress.failures_through front⟩
    rw [LoopOutcome.stats, ended, if_neg alive, collected]
  · intro datagrams
    have whole : replay datagrams = replay datagrams ++ [] := (List.append_nil _).symm
    obtain ⟨ended, collected, -⟩ := received (replay datagrams) (replay datagrams) [] _ whole
      (Progress.passes_replay deadline .start datagrams) .endOfStream
    rw [returned_replay] at collected
    exact ⟨ended, collected⟩

/-! ## A provider that fails often -/

/-- A header of twenty-four bytes. -/
def headerLayout : Layout :=
  .build "PacketHeader" .struct (List.map (fun (name, type) => ⟨name, name, .primitive type, .single, 0⟩)
    [("packet_format", .uint16), ("game_major_version", .uint8), ("game_minor_version", .uint8),
      ("packet_version", .uint8), ("packet_id", .uint8), ("session_uid", .uint64),
      ("session_time", .float32), ("frame_identifier", .uint32), ("player_car_index", .uint8),
      ("secondary_player_car_index", .uint8)])

/-- A dispatcher for sessions of which nothing but the header is sent. -/
def sessionsOnly : Dispatcher := ⟨headerLayout, [(⟨2021, 1, 1⟩, ⟨.session, headerLayout⟩)]⟩

def sessionBytes : List UInt8 :=
  [0xe5, 0x07, 1, 16, 1, 1, 7, 0, 0, 0, 0, 0, 0, 0, 0, 0, 128, 63, 9, 0, 0, 0, 0, 255]

/-- Nine failures in a row three times, with waits among them. The first row is ended by a datagram
that cannot be used. -/
def often : List ProviderStep :=
  List.replicate 9 .failure ++ .datagram [1, 2, 3] :: List.replicate 9 .failure ++
    [.wait 40, .datagram sessionBytes, .failure, .wait 500] ++ List.replicate 8 .failure

/-- The tenth failure in a row ends the loop behind two datagrams, and the third is not asked for. -/
theorem receive_ingests_often :
    let outcome := (Collector.start sessionsOnly ()).receive .failing (fun _ => "S1") (some 60000)
      (often ++ [.failure, .datagram sessionBytes])
    outcome.ending = .tooManyFailures ∧ outcome.stats = ⟨⟨2, 1, 0, 1, 0⟩, ⟨1, 0, 0, 0⟩⟩ := by
  intro outcome
  obtain ⟨-, ended, -⟩ := receive_ingests .failing (fun _ => "S1") (.start sessionsOnly ())
    (some 60000) (often ++ [.failure, .datagram sessionBytes])
  obtain ⟨ending, -, stats, -⟩ := ended often _ .tooManyFailures rfl (by decide +kernel)
    (.tooManyFailures (by decide +kernel))
  exact ⟨ending, (stats (by decide)).trans (by decide +kernel)⟩

end Collector

end LapTelemetry
