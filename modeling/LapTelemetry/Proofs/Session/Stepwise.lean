import LapTelemetry.Proofs.Session.Run

/-! # Handling a packet one effect after the other

`Tracker.handle` decides what a packet does before it does any of it. `perform`
takes the same packet and checks, changes the session, writes and looks again, in
turn. Nothing it has done is taken back when a later check fails, so a refused
packet leaves the tracker alone only because every handler is through with its
checks before its first change: `Effect.Atomic` is that property, and it is put
together from the parts of each handler. `perform_eq_handle` says that the two
ways agree on every packet, in outcome, session, counters, labels, laps and sink. -/

namespace LapTelemetry.Session

open LapTelemetry.Datagram LapTelemetry.Number LapTelemetry.Point LapTelemetry.Text LapTelemetry.Wire

set_option autoImplicit false

/-- A computation on a tracker that a fault may end. What it has done by then stays. -/
abbrev Effect (σ α : Type) := ExceptT Fault (StateM (Tracker σ)) α

namespace Effect

variable {σ α β : Type}

/-- Fail or go on, and change nothing. -/
def check (outcome : Except Fault α) : Effect σ α := fun tracker => (outcome, tracker)

/-- Change the tracker. -/
def change (f : Tracker σ → Tracker σ) : Effect σ Unit := fun tracker => (.ok (), f tracker)

/-- Act on the session as it stands now, if there is one. -/
def session (act : State → Effect σ Unit) : Effect σ Unit := fun tracker =>
  match tracker.state with
  | none => (.ok (), tracker)
  | some state => act state tracker

def put (state : State) : Effect σ Unit :=
  change fun tracker => { tracker with state := some state }

/-- Hand one write to the sink at once. -/
def emit (into : Sink σ) (write : Write) : Effect σ Unit :=
  change fun tracker => tracker.deliver into write

def writeLap (into : Sink σ) (lap : Nat) (fields : Fields) : Effect σ Unit :=
  session fun state => if lap = 0 then pure () else emit into (.lap state.label lap fields)

def writeLive (into : Sink σ) (fields : Fields) : Effect σ Unit :=
  session fun _ => emit into (.live fields)

/-- Report the tyre to the lap that is current now. -/
def reportTyre (into : Sink σ) : Effect σ Unit :=
  session fun state =>
    match state.tyre with
    | none => pure ()
    | some tyre => writeLap into state.lap
        ⟨[("tyre_compound", .text tyre.compound.label), ("tyre_age", .natural tyre.age)]⟩

/-! ## The handlers -/

/-- Take the next label and start a session with it, unless this one is followed already. -/
def startSession (labeler : Nat → String) (uid : Nat) : Effect σ Unit := fun tracker =>
  if tracker.state.map (·.uid) = some uid then (.ok (), tracker)
  else (.ok (), { tracker with
    state := some (.start uid (labeler tracker.labelsGiven))
    labelsGiven := tracker.labelsGiven + 1
    stats := { tracker.stats with sessions := tracker.stats.sessions + 1 } })

def onSession (into : Sink σ) (labeler : Nat → String) (packet : Packet) : Effect σ Unit := do
  startSession labeler packet.header.sessionUid
  let fields := weatherFields packet.body
  if fields.entries.isEmpty then pure () else writeLive into fields

def onMotion (packet : Packet) : Effect σ Unit := do
  let motion ← check (player packet)
  session fun state => put { state with pendingMotion := some motion }

/-- The motion sample goes once the telemetry record is found, before anything is written. -/
def onTelemetry (into : Sink σ) (packet : Packet) : Effect σ Unit :=
  session fun state =>
    match state.pendingMotion with
    | none => check (.error .unpairedTelemetry)
    | some motion => do
      let telemetry ← check (player packet)
      put { state with pendingMotion := none }
      writeLap into state.lap (scalarFields (flattenTyres (telemetry.merge motion)))

/-- Note the time of the sector that has ended, if the record has one that fits. -/
def noteSectorTime (record : Record Value) (sector : Nat) : Effect σ Unit :=
  session fun state =>
    let time := (record.natural? ("sector" ++ Decimal.ofNat sector ++ "_time_in_ms")).getD 0
    if 0 < time ∧ time < pow2 32 then put { state with times := state.times.set sector time }
    else pure ()

def changeSector (into : Sink σ) (record : Record Value) (sector : Nat) : Effect σ Unit :=
  session fun state =>
    if sector = state.sector then pure ()
    else do
      put { state with sector }
      noteSectorTime record sector
      reportTyre into

/-- Work out the third sector time and log the lap, if the first two are known. -/
def completeLap (lapTime : Nat) : Effect σ Unit :=
  session fun state =>
    if 0 < state.times.first ∧ 0 < state.times.second then do
      let times := state.times.atLapEnd lapTime
      put { state with times }
      change fun tracker => { tracker with laps := tracker.laps ++ [⟨state.lap, lapTime, times⟩] }
    else pure ()

def changeLap (into : Sink σ) (lap lapTime : Nat) : Effect σ Unit :=
  session fun state =>
    if lap = state.lap then pure ()
    else do
      completeLap lapTime
      session fun state => writeLap into state.lap (timingFields state.times lapTime)
      reportTyre into
      session fun state => put { state with sector := 0, times := .unknown, tyre := none }

def onLapData (into : Sink σ) (packet : Packet) : Effect σ Unit := do
  let record ← check (player packet)
  let sector ← check (required record "sector" (pow2 8))
  let lap ← check (required record "current_lap_num" (pow2 32))
  let lapTime ← check (required record "last_lap_time_in_ms" (pow2 32))
  changeSector into record sector
  changeLap into lap lapTime
  session fun state => put { state with lap }

def onStatus (packet : Packet) : Effect σ Unit := do
  let record ← check (player packet)
  let code ← check (required record "visual_tyre_compound" (pow2 64))
  let age ← check (required record "tyres_age_laps" (pow2 64))
  match TyreCompound.ofCode? code with
  | none => pure ()
  | some compound => session fun state => put { state with tyre := some ⟨compound, age⟩ }

def onDamage (into : Sink σ) (packet : Packet) : Effect σ Unit := do
  let damage ← check (player packet)
  writeLive into (scalarFields (flattenTyres damage))

/-- Handle a packet; until a session is followed only session packets count. -/
def perform (into : Sink σ) (labeler : Nat → String) (packet : Packet) : Effect σ Unit :=
  match packet.kind with
  | .session => onSession into labeler packet
  | .motion => session fun _ => onMotion packet
  | .carTelemetry => session fun _ => onTelemetry into packet
  | .lapData => session fun _ => onLapData into packet
  | .carStatus => session fun _ => onStatus packet
  | .carDamage => session fun _ => onDamage into packet

/-! ## One effect after another -/

theorem bind_ok {act : Effect σ α} {next : α → Effect σ β} {tracker after : Tracker σ} {a : α}
    (done : act tracker = (.ok a, after)) : (act >>= next) tracker = next a after := by
  show ExceptT.bindCont next (act tracker).1 (act tracker).2 = next a after
  rw [done]
  rfl

theorem session_of_some {act : State → Effect σ Unit} {tracker : Tracker σ} {state : State}
    (followed : tracker.state = some state) : session act tracker = act state tracker := by
  simp only [session, followed]

theorem session_of_none {act : State → Effect σ Unit} {tracker : Tracker σ}
    (idle : tracker.state = none) : session act tracker = (.ok (), tracker) := by
  simp only [session, idle]

end Effect

/-! ## What an effect comes to -/

/-- The lap that ends with a time, if its first two sector times are known. -/
def State.completed? (state : State) (lapTime : Nat) : Option CompletedLap :=
  if 0 < state.times.first ∧ 0 < state.times.second then
    some ⟨state.lap, lapTime, state.times.atLapEnd lapTime⟩
  else none

namespace Tracker

variable {σ : Type}

/-- The tracker with another state of the session, further laps, and writes handed to the sink. -/
def advance (into : Sink σ) (tracker : Tracker σ) (state : State) (laps : List CompletedLap)
    (writes : List Write) : Tracker σ :=
  writes.foldl (deliver into) { tracker with state := some state, laps := tracker.laps ++ laps }

/-- A sink sees neither the session nor the laps, so it is all one whether they change before or
after a write. -/
theorem foldl_deliver_change (into : Sink σ) (state : Option State) (laps : List CompletedLap)
    (writes : List Write) (tracker : Tracker σ) :
    writes.foldl (deliver into) { tracker with state := state, laps := tracker.laps ++ laps } =
      { writes.foldl (deliver into) tracker with
        state := state, laps := (writes.foldl (deliver into) tracker).laps ++ laps } :=
  List.foldl_hom
    (fun tracker : Tracker σ => { tracker with state := state, laps := tracker.laps ++ laps })
    fun _ _ => rfl

theorem advance_state (into : Sink σ) (tracker : Tracker σ) (state : State)
    (laps : List CompletedLap) (writes : List Write) :
    (tracker.advance into state laps writes).state = some state :=
  foldl_deliver_state into writes _

theorem advance_advance (into : Sink σ) (tracker : Tracker σ) (first second : State)
    (firstLaps secondLaps : List CompletedLap) (firstWrites secondWrites : List Write) :
    (tracker.advance into first firstLaps firstWrites).advance into second secondLaps secondWrites =
      tracker.advance into second (firstLaps ++ secondLaps) (firstWrites ++ secondWrites) := by
  simp only [advance, List.foldl_append, ← foldl_deliver_change, List.append_assoc]

theorem advance_same {into : Sink σ} {tracker : Tracker σ} {state : State} {writes : List Write}
    (followed : tracker.state = some state) :
    tracker.advance into state [] writes = writes.foldl (deliver into) tracker := by
  simp only [advance, List.append_nil, ← followed]

/-- A reaction that starts no session advances the one that is followed. -/
theorem handle_of_advance {into : Sink σ} {labeler : Nat → String} {tracker : Tracker σ}
    {packet : Packet} {state : State} {writes : List Write} {completed : Option CompletedLap}
    (decided : react tracker.state (labeler tracker.labelsGiven) packet =
      .ok ⟨some state, writes, false, completed⟩) :
    tracker.handle into labeler packet =
      (.ok (), tracker.advance into state completed.toList writes) := by
  rw [handle_of_reaction decided]
  rfl

/-- Without a session only session packets do anything. -/
theorem handle_of_idle {into : Sink σ} {labeler : Nat → String} {tracker : Tracker σ}
    {packet : Packet} (idle : tracker.state = none) (other : packet.kind ≠ .session) :
    tracker.handle into labeler packet = (.ok (), tracker) := by
  have ignored : react tracker.state (labeler tracker.labelsGiven) packet =
      .ok ⟨none, [], false, none⟩ := idle ▸ react_of_idle _ other
  rw [handle_of_reaction ignored]
  simp [take, ← idle]

end Tracker

namespace Effect

variable {σ : Type} {into : Sink σ} {state between after : State} {laps : List CompletedLap}
  {writes : List Write}

/-- From one state of the session to another, with laps and writes on the way. -/
def Advances (into : Sink σ) (act : Effect σ Unit) (before after : State) (laps : List CompletedLap)
    (writes : List Write) : Prop :=
  ∀ tracker : Tracker σ, tracker.state = some before →
    act tracker = (.ok (), tracker.advance into after laps writes)

theorem pure_advances : Advances into (pure ()) state state [] [] := by
  intro tracker followed
  rw [Tracker.advance_same followed]
  rfl

theorem put_advances : Advances into (put after) state after [] [] := by
  intro tracker _
  simp only [Tracker.advance, List.append_nil, List.foldl_nil]
  rfl

theorem emit_advances (write : Write) : Advances into (emit into write) state state [] [write] := by
  intro tracker followed
  rw [Tracker.advance_same followed]
  rfl

theorem session_advances {act : State → Effect σ Unit}
    (advances : Advances into (act state) state after laps writes) :
    Advances into (session act) state after laps writes := by
  intro tracker followed
  rw [session_of_some followed]
  exact advances tracker followed

theorem Advances.bind {act next : Effect σ Unit} {moreLaps : List CompletedLap} {more : List Write}
    (first : Advances into act state between laps writes)
    (second : Advances into next between after moreLaps more) :
    Advances into (act >>= fun _ => next) state after (laps ++ moreLaps) (writes ++ more) := by
  intro tracker followed
  rw [bind_ok (first tracker followed), second _ (Tracker.advance_state into ..),
    Tracker.advance_advance]

theorem writeLap_advances (fields : Fields) :
    Advances into (writeLap into state.lap fields) state state [] (state.lapWrites fields) := by
  apply session_advances
  unfold State.lapWrites
  split
  · exact pure_advances
  · exact emit_advances _

theorem writeLive_advances (fields : Fields) :
    Advances into (writeLive into fields) state state [] [.live fields] :=
  session_advances (emit_advances _)

theorem reportTyre_advances : Advances into (reportTyre into) state state [] state.tyreWrites := by
  apply session_advances
  unfold State.tyreWrites
  split
  · next absent => simp only [absent]; exact pure_advances
  · next tyre known => simp only [known]; exact writeLap_advances _

theorem changeSector_advances (record : Record Value) (sector : Nat) :
    Advances into (changeSector into record sector) state (state.enterSector record sector) []
      (if sector = state.sector then [] else (state.enterSector record sector).tyreWrites) := by
  apply session_advances
  unfold State.enterSector
  by_cases same : sector = state.sector
  · simp only [if_pos same]
    exact pure_advances
  · simp only [if_neg same]
    have noted : Advances into (noteSectorTime record sector) { state with sector }
        (state.enterSector record sector) [] [] := by
      apply session_advances
      unfold State.enterSector
      dsimp only
      rw [if_neg same]
      split
      · exact put_advances
      · exact pure_advances
    simp only [State.enterSector, if_neg same] at noted
    exact put_advances.bind (noted.bind reportTyre_advances)

/-- What the log gets when a lap ends. -/
theorem log_advances (completed : CompletedLap) :
    Advances into (change fun tracker => { tracker with laps := tracker.laps ++ [completed] })
      state state [completed] [] := by
  intro tracker followed
  simp only [Tracker.advance, List.foldl_nil, ← followed]
  rfl

theorem completeLap_advances (lapTime : Nat) :
    Advances into (completeLap lapTime) state { state with times := state.times.atLapEnd lapTime }
      (state.completed? lapTime).toList [] := by
  apply session_advances
  unfold State.completed?
  by_cases known : 0 < state.times.first ∧ 0 < state.times.second
  · simp only [if_pos known]
    exact put_advances.bind (log_advances _)
  · have same : state.times.atLapEnd lapTime = state.times := by
      simp only [SectorTimes.atLapEnd]
      rw [if_neg (fun h => known ⟨h.1, h.2.1⟩)]
    simp only [if_neg known, same]
    exact pure_advances

/-- The end of a lap, when the next one is another. -/
theorem changeLap_advances {lap : Nat} (lapTime : Nat) (changed : ¬ lap = state.lap) :
    Advances into (changeLap into lap lapTime) state
      { state with sector := 0, times := .unknown, tyre := none } (state.completed? lapTime).toList
      (state.lapWrites (timingFields (state.times.atLapEnd lapTime) lapTime) ++ state.tyreWrites) := by
  apply session_advances
  rw [if_neg changed]
  let timed : State := { state with times := state.times.atLapEnd lapTime }
  have timing : Advances into
      (session fun state => writeLap into state.lap (timingFields state.times lapTime)) timed timed []
      (timed.lapWrites (timingFields timed.times lapTime)) :=
    session_advances (writeLap_advances _)
  have reset : Advances into
      (session fun state => put { state with sector := 0, times := .unknown, tyre := none }) timed
      { timed with sector := 0, times := .unknown, tyre := none } [] [] :=
    session_advances put_advances
  have completed : Advances into (completeLap lapTime) state timed _ [] := completeLap_advances lapTime
  have whole := completed.bind (timing.bind (reportTyre_advances.bind reset))
  simp only [List.append_nil, List.nil_append] at whole
  exact whole

theorem number_advances (lap : Nat) :
    Advances into (session fun state => put { state with lap }) state { state with lap } [] [] :=
  session_advances put_advances

/-! ## The two ways agree -/

/-- What a reaction decides for a session that is followed, an effect does. -/
inductive Realizes (into : Sink σ) (act : Effect σ Unit) (state : State) :
    Except Fault Reaction → Prop where
  | refused {fault : Fault}
      (stops : ∀ tracker, tracker.state = some state → act tracker = (.error fault, tracker)) :
      Realizes into act state (.error fault)
  | accepted {after : State} {writes : List Write} {completed : Option CompletedLap}
      (advances : Advances into act state after completed.toList writes) :
      Realizes into act state (.ok ⟨some after, writes, false, completed⟩)

theorem check_realizes {α : Type} (outcome : Except Fault α) {act : α → Effect σ Unit}
    {decide : α → Except Fault Reaction} (each : ∀ a, Realizes into (act a) state (decide a)) :
    Realizes into (check outcome >>= act) state (outcome >>= decide) := by
  cases outcome with
  | error fault => exact .refused fun _ _ => rfl
  | ok a => exact each a

theorem session_realizes {act : State → Effect σ Unit} {decided : Except Fault Reaction}
    (realizes : Realizes into (act state) state decided) :
    Realizes into (session act) state decided := by
  cases realizes with
  | refused stops =>
    exact .refused fun tracker followed => (session_of_some followed).trans (stops tracker followed)
  | accepted advances => exact .accepted (session_advances advances)

theorem onMotion_realizes (packet : Packet) :
    Realizes into (onMotion packet) state (Session.onMotion state packet) :=
  check_realizes _ fun _ => .accepted (session_advances put_advances)

theorem onTelemetry_realizes (packet : Packet) :
    Realizes into (onTelemetry into packet) state (Session.onTelemetry state packet) := by
  apply session_realizes
  unfold Session.onTelemetry
  cases state.pendingMotion with
  | none => exact .refused fun _ _ => rfl
  | some motion =>
    let taken : State := { state with pendingMotion := none }
    have written (fields : Fields) :
        Advances into (writeLap into state.lap fields) taken taken [] (taken.lapWrites fields) :=
      writeLap_advances fields
    exact check_realizes _ fun telemetry => .accepted (put_advances.bind (written _))

theorem onLapData_realizes (packet : Packet) :
    Realizes into (onLapData into packet) state (Session.onLapData state packet) := by
  refine check_realizes _ fun record => check_realizes _ fun sector => ?_
  refine check_realizes _ fun lap => check_realizes _ fun lapTime => ?_
  have entered : Advances into (changeSector into record sector) state _ [] _ :=
    changeSector_advances record sector
  dsimp only
  by_cases same : lap = (state.enterSector record sector).lap
  · rw [if_pos same]
    have stays : Advances into (changeLap into lap lapTime) (state.enterSector record sector)
        (state.enterSector record sector) [] [] := by
      apply session_advances
      rw [if_pos same]
      exact pure_advances
    subst same
    have whole := entered.bind (stays.bind (number_advances (state.enterSector record sector).lap))
    simp only [List.append_nil] at whole
    exact .accepted whole
  · rw [if_neg same]
    have whole := entered.bind ((changeLap_advances lapTime same).bind (number_advances lap))
    simp only [List.append_nil, List.nil_append, ← List.append_assoc] at whole
    exact .accepted whole

theorem onStatus_realizes (packet : Packet) :
    Realizes into (onStatus packet) state (Session.onStatus state packet) := by
  refine check_realizes _ fun record => check_realizes _ fun code => check_realizes _ fun age => ?_
  cases TyreCompound.ofCode? code with
  | none => exact .accepted pure_advances
  | some compound => exact .accepted (session_advances put_advances)

theorem onDamage_realizes (packet : Packet) :
    Realizes into (onDamage into packet) state (Session.onDamage state packet) :=
  check_realizes _ fun _ => .accepted (writeLive_advances _)

theorem perform_realizes (labeler : Nat → String) (label : String) (packet : Packet)
    (other : packet.kind ≠ .session) :
    Realizes into (perform into labeler packet) state (react (some state) label packet) := by
  unfold perform react
  split
  · next kind => exact absurd kind other
  · next kind => simp only [kind]; exact session_realizes (onMotion_realizes packet)
  · next kind => simp only [kind]; exact session_realizes (onTelemetry_realizes packet)
  · next kind => simp only [kind]; exact session_realizes (onLapData_realizes packet)
  · next kind => simp only [kind]; exact session_realizes (onStatus_realizes packet)
  · next kind => simp only [kind]; exact session_realizes (onDamage_realizes packet)

/-- A session packet starts a session first, and then writes under whichever is followed. -/
theorem onSession_eq_handle (labeler : Nat → String) (packet : Packet) (tracker : Tracker σ)
    (kind : packet.kind = .session) :
    onSession into labeler packet tracker = tracker.handle into labeler packet := by
  let writes : List Write := if (weatherFields packet.body).entries.isEmpty then []
    else [.live (weatherFields packet.body)]
  have started : ∃ (state : State) (began : Tracker σ), began.state = some state ∧
      startSession labeler packet.header.sessionUid tracker = (.ok (), began) ∧
      tracker.handle into labeler packet = (.ok (), writes.foldl (Tracker.deliver into) began) := by
    simp only [Tracker.handle, react, kind, Session.onSession, startSession]
    cases followed : tracker.state with
    | none => exact ⟨_, _, rfl, rfl, by simp [Tracker.take, writes]⟩
    | some state =>
      by_cases same : state.uid = packet.header.sessionUid
      · have kept : tracker.take ⟨some state, writes, false, none⟩ = tracker := by
          simp [Tracker.take, ← followed]
        refine ⟨state, tracker, followed, by simp [same], ?_⟩
        simp only [if_pos same]
        exact congrArg (fun begun => (Except.ok (), writes.foldl (Tracker.deliver into) begun)) kept
      · refine ⟨_, _, rfl, if_neg (by simpa using same), ?_⟩
        simp [same, Tracker.take, writes]
  obtain ⟨state, began, followed, starts, handled⟩ := started
  rw [handled, onSession, bind_ok starts]
  unfold writes
  split
  · rfl
  · rw [writeLive_advances _ began followed, Tracker.advance_same followed]

/-- Doing everything in turn comes to the same as deciding first. -/
theorem perform_eq_handle (into : Sink σ) (labeler : Nat → String) (packet : Packet)
    (tracker : Tracker σ) :
    perform into labeler packet tracker = tracker.handle into labeler packet := by
  by_cases kind : packet.kind = .session
  · simp only [perform, kind]
    exact onSession_eq_handle labeler packet tracker kind
  · cases followed : tracker.state with
    | none =>
      rw [Tracker.handle_of_idle followed kind]
      cases other : packet.kind with
      | session => exact absurd other kind
      | _ => simp only [perform, other, session_of_none followed]
    | some state =>
      have realizes : Realizes into (perform into labeler packet) state _ :=
        perform_realizes labeler (labeler tracker.labelsGiven) packet kind
      rw [← followed] at realizes
      generalize decided : react tracker.state (labeler tracker.labelsGiven) packet = outcome
        at realizes
      cases realizes with
      | refused stops => rw [stops tracker followed, Tracker.handle_of_refusal decided]
      | accepted advances => rw [advances tracker followed, Tracker.handle_of_advance decided]

end Effect

end LapTelemetry.Session
