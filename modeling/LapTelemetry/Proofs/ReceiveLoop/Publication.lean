import Mathlib.Data.List.Destutter
import LapTelemetry.Proofs.ReceiveLoop.Script
import LapTelemetry.Proofs.Session.History

/-! # What a receive loop publishes

An observer of a loop is told of the snapshots of its collector, taken after every
datagram, whether it could be used or not. Of these the loop leaves out the ones without
a session, and every one that repeats what has been told last (`publications`). It
keeps no list of what it has told but only the last snapshot, and the invariant of a run
is that this one, with all that is told after it, comes to the same as if nothing had
been forgotten (`publishedWithin_run`).

The collector never loses its session (`hasSession_ingest`). So of what it can be seen
in, nothing is left out once something has been told, but repetitions: whatever has been
told last is what the collector can be seen in now, at the end of a run and at every
moment of it (`receive_publishes`). -/

namespace LapTelemetry

open LapTelemetry.Datagram LapTelemetry.Point LapTelemetry.Session

set_option autoImplicit false

/-! ## Snapshots -/

/-- What is to be published of snapshots that are taken one after the other: those of a session,
without the ones that repeat the one published before them. -/
def publications (seen : List Snapshot) : List Snapshot :=
  (seen.filter Snapshot.hasSession).destutter (· ≠ ·)

/-- What repeats is left out, but not the last of it. -/
theorem getLast?_destutter_ne {α : Type} [DecidableEq α] (items : List α) :
    (items.destutter (· ≠ ·)).getLast? = items.getLast? := by
  have behind (first : α) (items : List α) :
      (items.destutter' (· ≠ ·) first).getLast? = (first :: items).getLast? := by
    induction items generalizing first with
    | nil => rfl
    | cons second others ih =>
      by_cases same : first = second
      · subst same
        rw [List.destutter'_cons_neg others (not_not.mpr rfl), ih, List.getLast?_cons_cons]
      · rw [List.destutter'_cons_pos others same, List.getLast?_cons, ih, List.getLast?_cons_cons,
          List.getLast?_cons]
        rfl
  cases items with
  | nil => rfl
  | cons first others => exact behind first others

/-- What is published at one snapshot, and behind it, with the one that was published last. -/
theorem destutter_publication {published : Option Snapshot} {seen : Snapshot}
    {told later : List Snapshot}
    (behind : ((publication published seen).or published).toList ++ told =
      (((publication published seen).or published).toList ++ later).destutter (· ≠ ·)) :
    published.toList ++ ((publication published seen).toList ++ told) =
      (published.toList ++ ([seen].filter Snapshot.hasSession ++ later)).destutter (· ≠ ·) := by
  by_cases session : seen.hasSession = true
  · have kept : [seen].filter Snapshot.hasSession = [seen] := by simp [session]
    rw [kept]
    by_cases repeated : published = some seen
    · have nothing : publication published seen = none := if_neg fun news => news.2 repeated
      rw [nothing, Option.none_or] at behind
      rw [nothing]
      subst repeated
      show seen :: told = List.destutter' (· ≠ ·) seen (seen :: later)
      rw [List.destutter'_cons_neg later (not_not.mpr rfl)]
      exact behind
    · have news : publication published seen = some seen := if_pos ⟨session, repeated⟩
      rw [news, Option.some_or] at behind
      rw [news]
      cases published with
      | none => exact behind
      | some last =>
        have other : last ≠ seen := fun same => repeated (congrArg some same)
        show last :: seen :: told = List.destutter' (· ≠ ·) last (seen :: later)
        rw [List.destutter'_cons_pos later other]
        exact congrArg (last :: ·) behind
  · have left : [seen].filter Snapshot.hasSession = [] := by simp [session]
    have nothing : publication published seen = none := if_neg fun news => session news.1
    rw [nothing, Option.none_or] at behind
    rw [nothing, left]
    exact behind

/-! ## The session of a collector -/

theorem Session.Snapshot.hasSession_ofState? (state : Option State) :
    (Snapshot.ofState? state).hasSession = state.isSome := by
  cases state <;> rfl

/-- A session that is followed is followed by a session. -/
theorem Session.Handled.isSome_after {before : Option State} {label : String} {packet : Packet}
    (followed : before.isSome) : (decided before label packet).after.isSome := by
  by_cases starts : (decided before label packet).Starts
  · rw [(decided_of_starts starts).2]
    rfl
  obtain ⟨state, rfl⟩ := Option.isSome_iff_exists.mp followed
  by_cases accepted : (decided (some state) label packet).outcome = .ok ()
  · obtain ⟨reaction, decision, entry, steady⟩ := exists_reaction accepted starts
    obtain ⟨reached, leads, -⟩ := next_of_react decision steady
    rw [entry, leads]
    rfl
  · rw [(eq_of_refused accepted).2]
    rfl

namespace Collector

variable {σ : Type} (into : Sink σ) (labeler : Nat → String)

/-- The snapshots of a collector after each datagram of a stream. -/
def snapshots : Collector σ → List (List UInt8) → List Snapshot
  | _, [] => []
  | collector, data :: rest =>
    let next := (collector.ingest into labeler data).2
    next.snapshot :: snapshots next rest

/-- A datagram can be used and is about a session. -/
def TellsSession (collector : Collector σ) (data : List UInt8) : Prop :=
  (collector.ingest into labeler data).1 = true ∧
    ∃ packet, collector.dispatcher.dispatch data = .ok packet ∧ packet.kind = .session

/-- A collector has a session if it had one before or has been told of one. -/
theorem hasSession_ingest (collector : Collector σ) (data : List UInt8) :
    (collector.ingest into labeler data).2.snapshot.hasSession = true ↔
      collector.snapshot.hasSession = true ∨ collector.TellsSession into labeler data := by
  cases decoded : collector.dispatcher.dispatch data with
  | error fault =>
    have silent : ¬ collector.TellsSession into labeler data := by
      rintro ⟨-, packet, dispatched, -⟩
      rw [decoded] at dispatched
      cases dispatched
    rw [ingest_of_undecoded decoded]
    exact ⟨.inl, fun either => either.resolve_right silent⟩
  | ok packet =>
    let before := collector.tracker.state
    let entry := Handled.decided before (labeler collector.tracker.labelsGiven) packet
    have after : (collector.ingest into labeler data).2.snapshot.hasSession =
        entry.after.isSome := by
      rw [ingest_of_decoded decoded]
      show (Snapshot.ofState? (collector.tracker.handle into labeler packet).2.state).hasSession = _
      rw [Snapshot.hasSession_ofState?, Tracker.handle_after]
    have own : collector.snapshot.hasSession = before.isSome :=
      Snapshot.hasSession_ofState? before
    rw [after, own]
    constructor
    · intro followed
      by_cases kind : packet.kind = .session
      · have decision : react before (labeler collector.tracker.labelsGiven) packet =
            .ok (onSession before (labeler collector.tracker.labelsGiven) packet) := by
          simp only [react, kind]
        refine .inr ⟨?_, packet, decoded, kind⟩
        rw [ingest_of_decoded decoded, Tracker.handle_of_reaction decision]
        rfl
      · refine .inl ?_
        by_contra unfollowed
        have idle : before = none := by simpa using unfollowed
        have unchanged : entry.after = none := by
          unfold entry
          rw [idle, Handled.decided_of_idle kind]
        rw [unchanged] at followed
        cases followed
    · rintro (followed | ⟨-, told, dispatched, kind⟩)
      · exact Handled.isSome_after followed
      · obtain rfl : packet = told := Except.ok.inj (decoded.symm.trans dispatched)
        by_cases followed : before.isSome
        · exact Handled.isSome_after followed
        · have starts : entry.Starts := by
            have idle : before = none := by simpa using followed
            refine Handled.starts_decided_iff.mpr ⟨kind, ?_⟩
            rw [idle]
            simp
          rw [(Handled.decided_of_starts starts).2]
          rfl

theorem ingestAll_append (collector : Collector σ) (front back : List (List UInt8)) :
    collector.ingestAll into labeler (front ++ back) =
      (collector.ingestAll into labeler front).ingestAll into labeler back :=
  List.foldl_append

theorem snapshots_append (collector : Collector σ) (front back : List (List UInt8)) :
    collector.snapshots into labeler (front ++ back) =
      collector.snapshots into labeler front ++
        (collector.ingestAll into labeler front).snapshots into labeler back := by
  induction front generalizing collector with
  | nil => rfl
  | cons data rest ih => exact congrArg (_ :: ·) (ih (collector.ingest into labeler data).2)

/-- A stream leads to a session if the collector had one or a datagram has told of one. -/
theorem hasSession_ingestAll (collector : Collector σ) (stream : List (List UInt8)) :
    (collector.ingestAll into labeler stream).snapshot.hasSession = true ↔
      collector.snapshot.hasSession = true ∨
        ∃ before data after, stream = before ++ data :: after ∧
          (collector.ingestAll into labeler before).TellsSession into labeler data := by
  induction stream generalizing collector with
  | nil => simp [ingestAll]
  | cons data rest ih =>
    have step := hasSession_ingest into labeler collector data
    rw [show collector.ingestAll into labeler (data :: rest) =
      (collector.ingest into labeler data).2.ingestAll into labeler rest from rfl, ih, step]
    constructor
    · rintro ((had | tells) | ⟨before, told, after, rfl, tells⟩)
      · exact .inl had
      · exact .inr ⟨[], data, rest, rfl, tells⟩
      · exact .inr ⟨data :: before, told, after, rfl, tells⟩
    · rintro (had | ⟨before, told, after, split, tells⟩)
      · exact .inl (.inl had)
      · cases before with
        | nil =>
          obtain ⟨rfl, rfl⟩ := List.cons.inj split
          exact .inl (.inr tells)
        | cons first others =>
          obtain ⟨rfl, rfl⟩ := List.cons.inj split
          exact .inr ⟨others, told, after, rfl, tells⟩

/-- A session that could be seen can still be seen. -/
theorem hasSession_of_seen {collector : Collector σ} {stream : List (List UInt8)}
    (seen : ∃ snapshot ∈ collector.snapshots into labeler stream, snapshot.hasSession = true) :
    (collector.ingestAll into labeler stream).snapshot.hasSession = true := by
  induction stream generalizing collector with
  | nil =>
    obtain ⟨snapshot, member, -⟩ := seen
    cases member
  | cons data rest ih =>
    obtain ⟨snapshot, member, session⟩ := seen
    rcases List.mem_cons.mp member with rfl | behind
    · exact (hasSession_ingestAll into labeler _ rest).mpr (.inl session)
    · exact ih ⟨snapshot, behind, session⟩

/-- A session that a datagram has told of could be seen. -/
theorem seen_of_tells {collector : Collector σ} {before after : List (List UInt8)}
    {data : List UInt8}
    (tells : (collector.ingestAll into labeler before).TellsSession into labeler data) :
    ∃ snapshot ∈ collector.snapshots into labeler (before ++ data :: after),
      snapshot.hasSession = true := by
  have session := (hasSession_ingest into labeler _ data).mpr (.inr tells)
  rw [snapshots_append]
  exact ⟨_, List.mem_append_right _ List.mem_cons_self, session⟩

/-- What is published last is what the collector can be seen in. -/
theorem getLast?_publications {collector : Collector σ} {stream : List (List UInt8)}
    (seen : ∃ snapshot ∈ collector.snapshots into labeler stream, snapshot.hasSession = true) :
    (publications (collector.snapshots into labeler stream)).getLast? =
      some (collector.ingestAll into labeler stream).snapshot := by
  rw [publications, getLast?_destutter_ne]
  rcases List.eq_nil_or_concat stream with rfl | ⟨front, last, rfl⟩
  · obtain ⟨snapshot, member, -⟩ := seen
    cases member
  · have session := hasSession_of_seen into labeler seen
    rw [List.concat_eq_append] at session ⊢
    rw [snapshots_append, List.filter_append]
    have reached : (collector.ingestAll into labeler front).snapshots into labeler [last] =
        [(collector.ingestAll into labeler (front ++ [last])).snapshot] := by
      rw [ingestAll_append]
      rfl
    rw [reached, List.filter_cons_of_pos session, List.filter_nil, List.getLast?_concat]

theorem publications_ne_nil_iff {seen : List Snapshot} :
    publications seen ≠ [] ↔ ∃ snapshot ∈ seen, snapshot.hasSession = true := by
  rw [publications, ne_eq, List.destutter_eq_nil, List.filter_eq_nil_iff]
  simp

end Collector

/-! ## The loop -/

/-- The provider answers, with a datagram or with a failure. -/
def ProviderStep.isAnswer : ProviderStep → Bool
  | .datagram _ | .failure => true
  | _ => false

/-- How many answers there are among steps. -/
def answerCount (steps : List ProviderStep) : Nat := steps.countP ProviderStep.isAnswer

/-- What a loop has published by the time it has taken that many answers and asks again. -/
def LoopOutcome.publishedWithin {σ : Type} (outcome : LoopOutcome σ) (answers : Nat) :
    List Snapshot :=
  (outcome.updates.take answers).filterMap id

namespace ReceiveLoop

variable {σ : Type} (into : Sink σ) (labeler : Nat → String) {deadline : Option Nat}

theorem length_noted (loop : ReceiveLoop σ) (step : ProviderStep) (rest : List ProviderStep) :
    answerCount (step :: rest) = (loop.noted into labeler step).length + answerCount rest := by
  unfold answerCount
  rw [List.countP_cons, Nat.add_comm]
  cases step <;> rfl

/-- For every answer up to its end a loop has noted what it published. -/
theorem length_updates (loop : ReceiveLoop σ) {front rest : List ProviderStep} {ending : Ending}
    (passes : Progress.Passes deadline loop.progress front)
    (stops : Progress.Stops deadline (loop.progress.through front) rest ending) :
    (loop.run into labeler deadline (front ++ rest)).updates.length = answerCount front := by
  induction front generalizing loop with
  | nil =>
    obtain ⟨clock, ended⟩ := run_of_stops into labeler stops
    rw [List.nil_append, ended]
    rfl
  | cons step front ih =>
    obtain ⟨goesOn, passes⟩ := passes
    have progress := next_progress into labeler loop step
    rw [← progress] at passes
    rw [List.cons_append, run_cons into labeler _ goesOn, length_noted into labeler loop,
      LoopOutcome.noting, List.length_append]
    congr 1
    refine ih _ passes ?_
    rw [progress]
    exact stops

/-- What has been published last, with all that is published behind it, is what there is to publish
behind it. -/
theorem publishedWithin_run (loop : ReceiveLoop σ) {front : List ProviderStep}
    (rest : List ProviderStep) (passes : Progress.Passes deadline loop.progress front) :
    loop.published.toList ++
        (loop.run into labeler deadline (front ++ rest)).publishedWithin (answerCount front) =
      (loop.published.toList ++
        (loop.collector.snapshots into labeler (returned front)).filter
          Snapshot.hasSession).destutter (· ≠ ·) := by
  unfold LoopOutcome.publishedWithin
  -- from the front, since what repeats is told by the one snapshot that the loop remembers
  induction front generalizing loop with
  | nil =>
    show loop.published.toList ++ [] = List.destutter (· ≠ ·) (loop.published.toList ++ [])
    rw [List.append_nil]
    cases loop.published <;> rfl
  | cons step front ih =>
    obtain ⟨goesOn, passes⟩ := passes
    rw [← next_progress into labeler] at passes
    have behind := ih _ passes
    rw [List.cons_append, run_cons into labeler _ goesOn, length_noted into labeler loop,
      LoopOutcome.noting, List.take_length_add_append, List.filterMap_append]
    cases step with
    | datagram data =>
      let seen := (loop.collector.ingest into labeler data).2.snapshot
      have told : (loop.noted into labeler (.datagram data)).filterMap id =
          (publication loop.published seen).toList := by
        show [publication loop.published seen].filterMap id = _
        cases publication loop.published seen <;> rfl
      have later : (loop.collector.snapshots into labeler
          (returned (.datagram data :: front))).filter Snapshot.hasSession =
          [seen].filter Snapshot.hasSession ++
            ((loop.next into labeler (.datagram data)).collector.snapshots into labeler
              (returned front)).filter Snapshot.hasSession := by
        rw [← List.filter_append]
        rfl
      rw [told, later]
      exact destutter_publication behind
    | wait ms => exact behind
    | failure => exact behind
    | hang | cancel | crash => exact goesOn.elim

end ReceiveLoop

namespace Collector

variable {σ : Type}

/-- A loop publishes the snapshots that its collector shows after each datagram, without those
that have no session and without repetitions, each as soon as it can be seen. Nothing is published
before a datagram has told of a session, and from then on what was published last is what can be
seen. -/
theorem receive_publishes (into : Sink σ) (labeler : Nat → String) (collector : Collector σ)
    (deadline : Option Nat) (steps : List ProviderStep) :
    (∃ front rest ending, steps = front ++ rest ∧ Progress.Passes deadline .start front ∧
      Progress.Stops deadline (Progress.start.through front) rest ending) ∧
    ∀ front rest ending, steps = front ++ rest → Progress.Passes deadline .start front →
      Progress.Stops deadline (Progress.start.through front) rest ending →
        let outcome := collector.receive into labeler deadline steps
        let seen := collector.snapshots into labeler (returned front)
        outcome.published = publications seen ∧
        outcome.published.IsChain (· ≠ ·) ∧
        ((∃ snapshot ∈ seen, snapshot.hasSession = true) →
          outcome.published.getLast? = some outcome.collector.snapshot) ∧
        ∀ earlier later, front = earlier ++ later →
          let reached := collector.ingestAll into labeler (returned earlier)
          let soFar := outcome.publishedWithin (answerCount earlier)
          soFar = publications (collector.snapshots into labeler (returned earlier)) ∧
          (soFar ≠ [] →
            soFar.getLast? = some reached.snapshot ∧ reached.snapshot.hasSession = true) ∧
          (collector.snapshot.hasSession = false →
            (soFar ≠ [] ↔ ∃ before data after, returned earlier = before ++ data :: after ∧
              (collector.ingestAll into labeler before).TellsSession into labeler data)) := by
  refine ⟨Progress.exists_stops (Nat.zero_lt_succ 9) steps, ?_⟩
  intro front rest ending split passes stops outcome seen
  subst split
  have moment (earlier later : List ProviderStep) (split : front = earlier ++ later) :
      outcome.publishedWithin (answerCount earlier) =
        publications (collector.snapshots into labeler (returned earlier)) := by
    subst split
    have told := ReceiveLoop.publishedWithin_run into labeler (.start collector)
      (later ++ rest) passes.front
    rw [← List.append_assoc] at told
    exact told
  obtain ⟨-, collected, -⟩ := ReceiveLoop.run_through into labeler (.start collector)
    (.start collector) rfl rfl passes stops
  have law : outcome.published = publications seen := by
    have all := ReceiveLoop.length_updates into labeler (.start collector) passes stops
    have whole := moment front [] (List.append_nil front).symm
    unfold LoopOutcome.publishedWithin at whole
    rw [← all] at whole
    exact (congrArg (List.filterMap id) List.take_length).symm.trans whole
  refine ⟨law, ?_, ?_, ?_⟩
  · rw [law]
    exact List.isChain_destutter _ _
  · intro session
    rw [law, show outcome.collector = _ from collected]
    exact getLast?_publications into labeler session
  · intro earlier later split reached soFar
    have told : soFar = publications (collector.snapshots into labeler (returned earlier)) :=
      moment earlier later split
    refine ⟨told, fun any => ?_, fun fresh => ?_⟩
    · have session := publications_ne_nil_iff.mp (told ▸ any)
      rw [told]
      exact ⟨getLast?_publications into labeler session, hasSession_of_seen into labeler session⟩
    · have idle : ¬ collector.snapshot.hasSession = true := by simp [fresh]
      rw [told, publications_ne_nil_iff]
      constructor
      · intro session
        have reaches := hasSession_of_seen into labeler session
        exact ((hasSession_ingestAll into labeler collector _).mp reaches).resolve_left idle
      · rintro ⟨before, data, after, split, tells⟩
        rw [split]
        exact seen_of_tells into labeler tells

/-! ## A session that is repeated and a session that comes back -/

/-- The labels of sessions. -/
def nameOf (index : Nat) : String := ["S1", "S2", "S3"].getD index ""

/-- Session 7 twice, session 8, and session 7 again, with datagrams that cannot be used and a
failure among them. -/
def alternating : List ProviderStep :=
  [.datagram [1, 2, 3], .failure, .datagram sessionBytes, .wait 40, .datagram sessionBytes,
    .datagram (sessionBytes.set 6 8), .datagram [9], .datagram sessionBytes]

/-- What repeats is not published, and what comes back is; the first three answers bring one
snapshot. -/
theorem receive_publishes_alternating :
    let outcome := (Collector.start sessionsOnly ()).receive .failing nameOf (some 60000)
      (alternating ++ [.hang])
    let shown (uid : Nat) (label : String) : Snapshot := ⟨some uid, some label, 0, 0, .unknown, none⟩
    outcome.published = [shown 7 "S1", shown 8 "S2", shown 7 "S3"] ∧
      outcome.published.getLast? = some outcome.collector.snapshot ∧
      outcome.publishedWithin 2 = [] ∧ outcome.publishedWithin 3 = [shown 7 "S1"] := by
  intro outcome shown
  obtain ⟨-, ended⟩ := receive_publishes .failing nameOf (.start sessionsOnly ()) (some 60000)
    (alternating ++ [.hang])
  obtain ⟨law, -, last, moments⟩ := ended alternating [.hang] .cancelled rfl (by decide +kernel)
    (.hanging rfl)
  obtain ⟨second, -, -⟩ := moments (alternating.take 2) (alternating.drop 2) rfl
  obtain ⟨third, -, -⟩ := moments (alternating.take 3) (alternating.drop 3) rfl
  exact ⟨law.trans (by decide +kernel), last (by decide +kernel), second.trans (by decide +kernel),
    third.trans (by decide +kernel)⟩

end Collector

end LapTelemetry
