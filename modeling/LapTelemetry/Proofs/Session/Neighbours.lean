import LapTelemetry.Proofs.Session.History
import LapTelemetry.Proofs.Session.Refusal
import LapTelemetry.Proofs.Session.WholeLap

/-! # Packets that may change places

A motion packet and a status packet write nothing. Whatever session they meet, they
are refused for the same reason or lay the same change over it (`Lays`): a motion
sample, or a tyre. A packet may overlook such a change (`Overlooks`): it is refused
for the same reasons with and without it, asks for the same writes, and leads to the
same session but for the change, which is still there. A lap packet overlooks the
motion sample, since a lap that ends clears what belongs to the lap and leaves the
sample; so does a status packet. A damage packet overlooks everything.

Two neighbours of which one lays a change that the other overlooks commute, in every
session and without one, also where one of them is refused (`commutes_of_overlooks`).
A stream in which such neighbours change places, any number of times, comes to the
same (`run_reordered`). -/

namespace LapTelemetry.Session

open LapTelemetry.Datagram LapTelemetry.Number LapTelemetry.Point LapTelemetry.Wire

set_option autoImplicit false

/-! ## Changes laid over a session -/

/-- The reaction with a change laid over the session that it leads to. -/
def Reaction.over (change : State → State) (reaction : Reaction) : Reaction :=
  { reaction with state := reaction.state.map change }

/-- Whatever session is followed, the packet is refused for this reason or makes this change. -/
def Lays (packet : Packet) (laid : Except Fault (State → State)) : Prop :=
  ∀ state label, react (some state) label packet = laid.map fun change => .quiet (change state)

/-- What the packet comes to hangs on nothing that the change touches, and leaves it. -/
def Overlooks (packet : Packet) (change : State → State) : Prop :=
  ∀ state label,
    react (some (change state)) label packet = (react (some state) label packet).map (.over change)

/-- The motion sample that a motion packet lays over the session. -/
def motionLaid (packet : Packet) : Except Fault (State → State) := do
  let sample ← player packet
  return fun state => { state with pendingMotion := some sample }

/-- The tyre that a status packet lays over the session, if its compound is known. -/
def tyreLaid (packet : Packet) : Except Fault (State → State) := do
  let record ← player packet
  let code ← required record "visual_tyre_compound" (pow2 64)
  let age ← required record "tyres_age_laps" (pow2 64)
  return fun state =>
    match TyreCompound.ofCode? code with
    | some compound => { state with tyre := some ⟨compound, age⟩ }
    | none => state

section Packet

variable {packet : Packet}

theorem lays_motion (kind : packet.kind = .motion) : Lays packet (motionLaid packet) := by
  intro state label
  simp only [react, kind, onMotion]
  exact bind_eq_map fun sample => rfl

theorem lays_tyre (kind : packet.kind = .carStatus) : Lays packet (tyreLaid packet) := by
  intro state label
  simp only [react, kind, onStatus]
  refine bind_eq_map fun record => bind_eq_map fun code => bind_eq_map fun age => ?_
  cases TyreCompound.ofCode? code with
  | none => rfl
  | some compound => rfl

/-- A packet that lays a change overlooks the changes that its own commutes with. -/
theorem overlooks_of_lays {laid : Except Fault (State → State)} {change : State → State}
    (lays : Lays packet laid)
    (commute : ∀ own, laid = .ok own → ∀ state, own (change state) = change (own state)) :
    Overlooks packet change := by
  intro state label
  rw [lays, lays]
  cases laid with
  | error fault => rfl
  | ok own =>
    simp only [Except.map, commute own rfl state]
    rfl

theorem overlooks_id (packet : Packet) : Overlooks packet id := by
  intro state label
  rw [id_eq]
  cases react (some state) label packet with
  | error fault => rfl
  | ok reaction => simp [Except.map, Reaction.over]

/-! ## What lap, status and damage packets overlook -/

variable (sample : Option (Record Value))

theorem enterSector_withMotion (state : State) (record : Record Value) (sector : Nat) :
    State.enterSector { state with pendingMotion := sample } record sector =
      { state.enterSector record sector with pendingMotion := sample } := by
  unfold State.enterSector
  dsimp only
  split <;> rfl

/-- The end of a lap leaves the motion sample where it is. -/
theorem lapReaction_withMotion (state : State) (report : LapReport) :
    State.lapReaction { state with pendingMotion := sample } report =
      (state.lapReaction report).over fun state => { state with pendingMotion := sample } := by
  have reached : State.report { state with pendingMotion := sample } report =
      { state.report report with pendingMotion := sample } := by
    unfold State.report
    rw [enterSector_withMotion]
    dsimp only
    split <;> rfl
  unfold State.lapReaction Reaction.over
  rw [reached, State.timing, enterSector_withMotion]
  rfl

theorem lapData_overlooks_motion (kind : packet.kind = .lapData) :
    Overlooks packet fun state => { state with pendingMotion := sample } := by
  intro state label
  simp only [react, kind, onLapData_eq]
  cases lapReport packet with
  | error fault => rfl
  | ok report => exact congrArg Except.ok (lapReaction_withMotion sample state report)

theorem tyre_overlooks_motion (kind : packet.kind = .carStatus) :
    Overlooks packet fun state => { state with pendingMotion := sample } := by
  refine overlooks_of_lays (lays_tyre kind) ?_
  intro own laid state
  obtain ⟨record, -, laid⟩ := bind_eq_ok.mp laid
  obtain ⟨code, -, laid⟩ := bind_eq_ok.mp laid
  obtain ⟨age, -, laid⟩ := bind_eq_ok.mp laid
  cases laid
  dsimp only
  split <;> rfl

theorem damage_overlooks (kind : packet.kind = .carDamage) (change : State → State) :
    Overlooks packet change := by
  intro state label
  simp only [react, kind, onDamage]
  cases player packet with
  | error fault => rfl
  | ok damage => rfl

end Packet

/-! ## Neighbours -/

namespace Tracker

variable {σ : Type} {into : Sink σ} {labeler : Nat → String}

/-- It makes no difference which of two packets is handled first: not for what comes of either of
them, not for the tracker with its sink, and not for the writes and their order. -/
structure Commutes (into : Sink σ) (labeler : Nat → String) (tracker : Tracker σ)
    (first second : Packet) : Prop where
  first_outcome : ((tracker.handle into labeler second).2.handle into labeler first).1 =
    (tracker.handle into labeler first).1
  second_outcome : ((tracker.handle into labeler first).2.handle into labeler second).1 =
    (tracker.handle into labeler second).1
  tracker_eq : ((tracker.handle into labeler first).2.handle into labeler second).2 =
    ((tracker.handle into labeler second).2.handle into labeler first).2
  attempts_eq : tracker.attempts into labeler [first, second] =
    tracker.attempts into labeler [second, first]

theorem Commutes.symm {tracker : Tracker σ} {first second : Packet}
    (commutes : tracker.Commutes into labeler first second) :
    tracker.Commutes into labeler second first :=
  ⟨commutes.second_outcome, commutes.first_outcome, commutes.tracker_eq.symm,
    commutes.attempts_eq.symm⟩

theorem attempts_pair (tracker : Tracker σ) (first second : Packet) :
    tracker.attempts into labeler [first, second] =
      (tracker.attempted into labeler first).map (first, ·) ++
        ((tracker.handle into labeler first).2.attempted into labeler second).map (second, ·) := by
  simp only [attempts, List.append_nil]

/-- Without a session neither packet does anything. -/
theorem commutes_of_idle {tracker : Tracker σ} {first second : Packet}
    (idle : tracker.state = none) (firstOther : first.kind ≠ .session)
    (secondOther : second.kind ≠ .session) : tracker.Commutes into labeler first second := by
  have silent (packet : Packet) (other : packet.kind ≠ .session) :
      tracker.handle into labeler packet = (.ok (), tracker) ∧
        tracker.attempted into labeler packet = [] := by
    have ignored := react_of_idle (labeler tracker.labelsGiven) other
    rw [← idle] at ignored
    exact ⟨handle_of_idle idle other, attempted_of_reaction ignored⟩
  obtain ⟨firstPasses, firstAsks⟩ := silent first firstOther
  obtain ⟨secondPasses, secondAsks⟩ := silent second secondOther
  constructor
  · rw [secondPasses, firstPasses]
  · rw [firstPasses, secondPasses]
  · rw [firstPasses, secondPasses, firstPasses]
  · simp only [attempts_pair, firstPasses, secondPasses, firstAsks, secondAsks, List.map_nil]

/-- A packet that lays a change does so in every session, for the same outcome, and asks for
nothing. Where it is refused the change is none. -/
theorem handle_of_lays {packet : Packet} {laid : Except Fault (State → State)}
    (lays : Lays packet laid) (into : Sink σ) (labeler : Nat → String) :
    ∃ outcome change, (laid = .ok change ∨ change = id) ∧
      ∀ (tracker : Tracker σ) (state : State), tracker.state = some state →
        tracker.handle into labeler packet =
            (outcome, tracker.advance into (change state) [] []) ∧
          tracker.attempted into labeler packet = [] := by
  cases laid with
  | error fault =>
    refine ⟨.error fault, id, .inr rfl, ?_⟩
    intro tracker state followed
    have refused : react tracker.state (labeler tracker.labelsGiven) packet = .error fault := by
      rw [followed]
      exact lays state _
    refine ⟨?_, attempted_of_refusal refused⟩
    rw [handle_of_refusal refused, id_eq, advance_same followed]
    rfl
  | ok change =>
    refine ⟨.ok (), change, .inl rfl, ?_⟩
    intro tracker state followed
    have decided : react tracker.state (labeler tracker.labelsGiven) packet =
        .ok (.quiet (change state)) := by
      rw [followed]
      exact lays state _
    exact ⟨handle_of_advance decided, attempted_of_reaction decided⟩

/-- A packet that overlooks a change comes to the same with and without it. -/
theorem handle_of_overlooks {packet : Packet} {change : State → State}
    (overlooks : Overlooks packet change) (other : packet.kind ≠ .session) (into : Sink σ)
    (labeler : Nat → String) {tracker : Tracker σ} {state : State}
    (followed : tracker.state = some state) :
    ∃ outcome after laps writes,
      (tracker.handle into labeler packet = (outcome, tracker.advance into after laps writes) ∧
        tracker.attempted into labeler packet = writes) ∧
      (tracker.advance into (change state) [] []).handle into labeler packet =
          (outcome, tracker.advance into (change after) laps writes) ∧
        (tracker.advance into (change state) [] []).attempted into labeler packet = writes := by
  let changed := tracker.advance into (change state) [] []
  have realizes : Effect.Realizes into _ state
      (react (some state) (labeler tracker.labelsGiven) packet) :=
    Effect.perform_realizes labeler _ packet other
  have beside : react changed.state (labeler changed.labelsGiven) packet =
      (react (some state) (labeler tracker.labelsGiven) packet).map (.over change) :=
    overlooks state (labeler tracker.labelsGiven)
  generalize decided : react (some state) (labeler tracker.labelsGiven) packet = decision
    at realizes beside
  rw [← followed] at decided
  cases realizes with
  | @refused fault =>
    refine ⟨.error fault, state, [], [], ⟨?_, attempted_of_refusal decided⟩,
      handle_of_refusal beside, attempted_of_refusal beside⟩
    rw [handle_of_refusal decided, advance_same followed]
    rfl
  | @accepted after writes completed =>
    refine ⟨.ok (), after, completed.toList, writes,
      ⟨handle_of_advance decided, attempted_of_reaction decided⟩, ?_, attempted_of_reaction beside⟩
    have advanced : changed.handle into labeler packet =
        (.ok (), changed.advance into (change after) completed.toList writes) :=
      handle_of_advance beside
    unfold changed at advanced
    rw [advance_advance] at advanced
    exact advanced

/-- A packet commutes with one that overlooks the change which it lays. -/
theorem commutes_of_overlooks {first second : Packet} {laid : Except Fault (State → State)}
    (lays : Lays first laid) (overlooks : ∀ change, laid = .ok change → Overlooks second change)
    (firstOther : first.kind ≠ .session) (secondOther : second.kind ≠ .session)
    (tracker : Tracker σ) : tracker.Commutes into labeler first second := by
  cases followed : tracker.state with
  | none => exact commutes_of_idle followed firstOther secondOther
  | some state =>
    obtain ⟨firstOutcome, change, source, handled⟩ := handle_of_lays lays into labeler
    have overlooked : Overlooks second change := by
      rcases source with known | rfl
      · exact overlooks change known
      · exact overlooks_id second
    obtain ⟨secondOutcome, after, laps, writes, ⟨alone, asked⟩, behind, askedBehind⟩ :=
      handle_of_overlooks overlooked secondOther into labeler followed
    obtain ⟨ahead, asksNothing⟩ := handled tracker state followed
    obtain ⟨last, asksNothingLast⟩ :=
      handled (tracker.advance into after laps writes) after (advance_state ..)
    rw [advance_advance, List.append_nil, List.append_nil] at last
    constructor
    · rw [alone, last, ahead]
    · rw [ahead, behind, alone]
    · rw [ahead, behind, alone, last]
    · simp only [attempts_pair, ahead, alone, asked, askedBehind, asksNothing, asksNothingLast,
        List.map_nil, List.nil_append, List.append_nil]

end Tracker

/-! ## Kinds that may change places -/

/-- The kinds of neighbours of which the second overlooks what the first lays. -/
def interchangeable : List (Kind × Kind) :=
  [(.motion, .lapData), (.motion, .carStatus), (.motion, .carDamage), (.carStatus, .carDamage)]

/-- The same packets, but for neighbours that have changed places. -/
inductive Reordered : List Packet → List Packet → Prop where
  | same (packets : List Packet) : Reordered packets packets
  | interchange {first second : Packet} (front rest : List Packet)
      (kinds : (first.kind, second.kind) ∈ interchangeable ∨
        (second.kind, first.kind) ∈ interchangeable) :
      Reordered (front ++ first :: second :: rest) (front ++ second :: first :: rest)
  | trans {one between other : List Packet} (first : Reordered one between)
      (second : Reordered between other) : Reordered one other

namespace Tracker

variable {σ : Type}

theorem commutes_of_kinds (into : Sink σ) (labeler : Nat → String) (tracker : Tracker σ)
    {first second : Packet} (kinds : (first.kind, second.kind) ∈ interchangeable) :
    tracker.Commutes into labeler first second := by
  simp only [interchangeable, List.mem_cons, Prod.mk.injEq, List.not_mem_nil, or_false] at kinds
  have motion (change : State → State) (laid : motionLaid first = .ok change) :
      ∃ sample, change = fun state => { state with pendingMotion := sample } := by
    obtain ⟨sample, -, done⟩ := bind_eq_ok.mp laid
    cases done
    exact ⟨some sample, rfl⟩
  rcases kinds with ⟨own, other⟩ | ⟨own, other⟩ | ⟨own, other⟩ | ⟨own, other⟩
  · refine commutes_of_overlooks (lays_motion own) ?_ (by simp [own]) (by simp [other]) tracker
    intro change laid
    obtain ⟨sample, rfl⟩ := motion change laid
    exact lapData_overlooks_motion sample other
  · refine commutes_of_overlooks (lays_motion own) ?_ (by simp [own]) (by simp [other]) tracker
    intro change laid
    obtain ⟨sample, rfl⟩ := motion change laid
    exact tyre_overlooks_motion sample other
  · exact commutes_of_overlooks (lays_motion own) (fun change _ => damage_overlooks other change)
      (by simp [own]) (by simp [other]) tracker
  · exact commutes_of_overlooks (lays_tyre own) (fun change _ => damage_overlooks other change)
      (by simp [own]) (by simp [other]) tracker

theorem attempts_append (into : Sink σ) (labeler : Nat → String) (tracker : Tracker σ)
    (first second : List Packet) :
    tracker.attempts into labeler (first ++ second) =
      tracker.attempts into labeler first ++
        (tracker.run into labeler first).attempts into labeler second := by
  simp only [attempts_eq_history, history_append, List.flatMap_append]

/-- A stream with neighbours that commute where they are met. -/
theorem run_interchange (into : Sink σ) (labeler : Nat → String) (tracker : Tracker σ)
    {first second : Packet} (front rest : List Packet)
    (commutes : (tracker.run into labeler front).Commutes into labeler first second) :
    tracker.run into labeler (front ++ first :: second :: rest) =
        tracker.run into labeler (front ++ second :: first :: rest) ∧
      tracker.attempts into labeler (front ++ first :: second :: rest) =
        tracker.attempts into labeler (front ++ second :: first :: rest) := by
  let reached := tracker.run into labeler front
  have pair : reached.run into labeler [first, second] = reached.run into labeler [second, first] :=
    commutes.tracker_eq
  have split (one other : Packet) : front ++ one :: other :: rest = front ++ ([one, other] ++ rest) :=
    rfl
  constructor
  · rw [split, split, run_append, run_append, run_append, run_append, pair]
  · rw [split, split, attempts_append, attempts_append, attempts_append, attempts_append, pair,
      commutes.attempts_eq]

/-- A stream in which such neighbours change places, however often, comes to the same tracker, and
asks for the same writes in the same order. -/
theorem run_reordered (into : Sink σ) (labeler : Nat → String) (tracker : Tracker σ)
    {one other : List Packet} (reordered : Reordered one other) :
    tracker.run into labeler one = tracker.run into labeler other ∧
      tracker.attempts into labeler one = tracker.attempts into labeler other := by
  induction reordered with
  | same packets => exact ⟨rfl, rfl⟩
  | interchange front rest kinds =>
    refine run_interchange into labeler tracker front rest ?_
    rcases kinds with ahead | behind
    · exact commutes_of_kinds into labeler _ ahead
    · exact (commutes_of_kinds into labeler _ behind).symm
  | trans _ _ first second =>
    exact ⟨first.1.trans second.1, first.2.trans second.2⟩

/-- Two neighbours of these kinds may change places. What becomes of either of them, the tracker
with its sink, and the writes that are asked for are the same, and so is all that comes behind. -/
theorem handle_interchanged (into : Sink σ) (labeler : Nat → String) (tracker : Tracker σ)
    (first second : Packet) (kinds : (first.kind, second.kind) ∈ interchangeable) :
    ((tracker.handle into labeler second).2.handle into labeler first).1 =
        (tracker.handle into labeler first).1 ∧
      ((tracker.handle into labeler first).2.handle into labeler second).1 =
        (tracker.handle into labeler second).1 ∧
      ((tracker.handle into labeler first).2.handle into labeler second).2 =
        ((tracker.handle into labeler second).2.handle into labeler first).2 ∧
      tracker.attempts into labeler [first, second] =
        tracker.attempts into labeler [second, first] ∧
      ∀ front rest,
        tracker.run into labeler (front ++ first :: second :: rest) =
            tracker.run into labeler (front ++ second :: first :: rest) ∧
          tracker.attempts into labeler (front ++ first :: second :: rest) =
            tracker.attempts into labeler (front ++ second :: first :: rest) := by
  have commutes := commutes_of_kinds into labeler tracker kinds
  refine ⟨commutes.first_outcome, commutes.second_outcome, commutes.tracker_eq,
    commutes.attempts_eq, ?_⟩
  intro front rest
  exact run_interchange into labeler tracker front rest (commutes_of_kinds into labeler _ kinds)

/-- A motion sample may arrive before or behind the packet that ends the lap. It is there in the next
lap, and the lap is reported the same. -/
theorem handle_interchanged_lapEnd :
    let sample := packetOf .motion [[("g_force", .natural .uint8 2)]]
    let lapEnd := packetOf .lapData [lapEntries 0 4 31000 30500 93250]
    let first := waiting.run .memory (fun _ => "S2") [sample, lapEnd]
    first = waiting.run .memory (fun _ => "S2") [lapEnd, sample] ∧
      first.state.bind (·.pendingMotion) = some ⟨[("g_force", .natural .uint8 2)]⟩ ∧
      waiting.attempts .memory (fun _ => "S2") [lapEnd, sample] =
        waiting.attempts .memory (fun _ => "S2") [sample, lapEnd] ∧ first.sink.length = 4 := by
  intro sample lapEnd first
  obtain ⟨-, -, -, asked, stream⟩ :=
    handle_interchanged .memory (fun _ => "S2") waiting sample lapEnd (by decide)
  exact ⟨(stream [] []).1, rfl, asked.symm, rfl⟩

end Tracker

end LapTelemetry.Session
