import LapTelemetry.Collector
import LapTelemetry.Number.Power

/-! # The receive loop

The loop asks a provider for datagrams, one at a time, and feeds each to a
collector before it asks for the next. What a provider does is a script of steps;
time is counted in milliseconds and passes only in waits and in back-offs.

* A datagram is ingested. If the session can then be seen in another state than
  the one last published, or for the first time, its snapshot is published.
* A failure makes the loop back off before it asks again, at first shortly and
  then longer. The tenth failure in a row ends the loop at once. A datagram, even
  one that cannot be used, ends a row of failures; a wait does not.
* The loop can be cancelled at any time. It then ends, in the middle of a wait or
  a back-off if need be.
* A crash ends the loop without its counters: they read zero. What has been
  published and written before remains. -/

namespace LapTelemetry

open LapTelemetry.Number LapTelemetry.Point LapTelemetry.Session

set_option autoImplicit false

/-- What a provider does next. -/
inductive ProviderStep where
  | datagram (data : List UInt8)
  /-- Let time pass, in milliseconds, and go on. -/
  | wait (ms : Nat)
  | failure
  /-- Never answer. -/
  | hang
  /-- Cancel the loop, and never answer. -/
  | cancel
  | crash
  deriving DecidableEq, Repr

/-- Why a loop is over. -/
inductive Ending where
  | endOfStream
  | tooManyFailures
  | cancelled
  | crashed
  /-- The provider never answers and nobody cancels. -/
  | blocked
  deriving DecidableEq, Repr

/-- The state of a loop between two steps. -/
structure ReceiveLoop (σ : Type) where
  collector : Collector σ
  /-- How many failures in a row there were. -/
  failures : Nat
  /-- The milliseconds that have passed. -/
  clock : Nat
  /-- The snapshot last published. -/
  published : Option Snapshot

/-- How a loop went. -/
structure LoopOutcome (σ : Type) where
  collector : Collector σ
  ending : Ending
  /-- The milliseconds that have passed. -/
  clock : Nat
  /-- For every answer of the provider after which it was asked again: what was
  published in between. -/
  updates : List (Option Snapshot)

/-- This many failures in a row end a loop. -/
def maxFailures : Nat := 10

/-- The milliseconds that a loop backs off after that many failures in a row. -/
def backOff (failures : Nat) : Nat := 50 * pow2 (min failures 5)

/-- What a loop publishes when the session can be seen in a state. -/
def publication (published : Option Snapshot) (seen : Snapshot) : Option Snapshot :=
  if seen.hasSession ∧ published ≠ some seen then some seen else none

namespace ReceiveLoop

variable {σ : Type}

/-- A loop before its first step. -/
def start (collector : Collector σ) : ReceiveLoop σ := ⟨collector, 0, 0, none⟩

/-- The end of a loop. -/
def finish (loop : ReceiveLoop σ) (ending : Ending) : LoopOutcome σ :=
  ⟨loop.collector, ending, loop.clock, []⟩

/-- Let time pass, unless the loop is cancelled before the time is over. -/
def pause (deadline : Option Nat) (loop : ReceiveLoop σ) (ms : Nat) :
    Except (LoopOutcome σ) (ReceiveLoop σ) :=
  match deadline with
  | none => .ok { loop with clock := loop.clock + ms }
  | some time =>
    if loop.clock + ms < time then .ok { loop with clock := loop.clock + ms }
    else .error ({ loop with clock := max loop.clock time }.finish .cancelled)

/-- Ingest a datagram, and say what is published. -/
def receive (into : Sink σ) (labeler : Nat → String) (loop : ReceiveLoop σ) (data : List UInt8) :
    Option Snapshot × ReceiveLoop σ :=
  let (_, collector) := loop.collector.ingest into labeler data
  let news := publication loop.published collector.snapshot
  (news, { loop with collector, failures := 0, published := news.or loop.published })

/-- An outcome after one more answer of the provider. -/
def after (news : Option Snapshot) (outcome : LoopOutcome σ) : LoopOutcome σ :=
  { outcome with updates := news :: outcome.updates }

/-- Go through the steps of a provider. A loop with a deadline is cancelled at that
time. -/
def run (into : Sink σ) (labeler : Nat → String) (deadline : Option Nat) :
    ReceiveLoop σ → List ProviderStep → LoopOutcome σ
  | loop, [] => loop.finish .endOfStream
  | loop, .datagram data :: steps =>
    let (news, next) := loop.receive into labeler data
    after news (run into labeler deadline next steps)
  | loop, .wait ms :: steps =>
    match loop.pause deadline ms with
    | .ok next => run into labeler deadline next steps
    | .error outcome => outcome
  | loop, .failure :: steps =>
    let failed := { loop with failures := loop.failures + 1 }
    if maxFailures ≤ failed.failures then failed.finish .tooManyFailures
    else
      match failed.pause deadline (backOff failed.failures) with
      | .ok next => after none (run into labeler deadline next steps)
      | .error outcome => outcome
  | loop, .hang :: _ =>
    match deadline with
    | some time => { loop with clock := max loop.clock time }.finish .cancelled
    | none => loop.finish .blocked
  | loop, .cancel :: _ => loop.finish .cancelled
  | loop, .crash :: _ => loop.finish .crashed

end ReceiveLoop

namespace LoopOutcome

variable {σ : Type}

/-- The counters of a loop. -/
def stats (outcome : LoopOutcome σ) : CollectorStats :=
  if outcome.ending = .crashed then .zero else outcome.collector.stats

/-- The published snapshots in order. -/
def published (outcome : LoopOutcome σ) : List Snapshot := outcome.updates.filterMap id

end LoopOutcome

/-- The script of a provider that replays datagrams. -/
def replay (datagrams : List (List UInt8)) : List ProviderStep := datagrams.map .datagram

/-- Run a loop from its start. -/
def Collector.receive {σ : Type} (collector : Collector σ) (into : Sink σ) (labeler : Nat → String)
    (deadline : Option Nat) (steps : List ProviderStep) : LoopOutcome σ :=
  (ReceiveLoop.start collector).run into labeler deadline steps

end LapTelemetry
