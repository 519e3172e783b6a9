import LapTelemetry.Fault

/-! # Sources of bytes

A source is asked for bytes, call by call. A call may give fewer than were asked
for, may be interrupted and is then repeated, or may fail for good; one that gives
nothing has come to the end. `fill` calls until it has what was asked for or the
source ends. What it collects is a front of what the source had left
(`rest_of_fill`), and it stops short only where nothing is left
(`rest_eq_nil_of_fill`). -/

namespace LapTelemetry.Wire

set_option autoImplicit false

/-- What a source does at one call. -/
inductive Turn where
  /-- Give at most this many bytes, and one at least. -/
  | give (atMost : Nat)
  | interrupt
  deriving DecidableEq, Repr

/-- A source of bytes. When the turns are used up, every call gives all it is asked
for. -/
structure ByteSource where
  rest : List UInt8
  turns : List Turn
  /-- After this many more bytes every call fails. -/
  allowance : Option Nat
  deriving Repr

/-- What one call yields. -/
inductive Call where
  | bytes (given : List UInt8) (after : ByteSource)
  | interrupted (after : ByteSource)
  | failed
  deriving Repr

namespace ByteSource

/-- A source that gives everything at once. -/
def whole (bytes : List UInt8) : ByteSource := ⟨bytes, [], none⟩

/-- Give at most `count` bytes. -/
def give (source : ByteSource) (turns : List Turn) (count : Nat) : Call :=
  match source.allowance with
  | some 0 => .failed
  | some (left + 1) =>
    let given := source.rest.take (min count (left + 1))
    .bytes given ⟨source.rest.drop (min count (left + 1)), turns, some (left + 1 - given.length)⟩
  | none => .bytes (source.rest.take count) ⟨source.rest.drop count, turns, none⟩

/-- Ask a source for bytes once. -/
def call (source : ByteSource) (asked : Nat) : Call :=
  match source.turns with
  | [] => source.give [] asked
  | .interrupt :: turns => .interrupted { source with turns }
  | .give atMost :: turns => source.give turns (min asked (max 1 atMost))

theorem rest_of_give {source after : ByteSource} {turns : List Turn} {count : Nat}
    {given : List UInt8} (gave : source.give turns count = .bytes given after) :
    source.rest = given ++ after.rest ∧ given.length ≤ count ∧ after.turns = turns := by
  unfold give at gave
  split at gave
  · cases gave
  · cases gave
    exact ⟨(List.take_append_drop _ _).symm, by rw [List.length_take]; omega, rfl⟩
  · cases gave
    exact ⟨(List.take_append_drop _ _).symm, by rw [List.length_take]; omega, rfl⟩

/-- What a call gives is the front of what was left. -/
theorem rest_of_call {source after : ByteSource} {asked : Nat} {given : List UInt8}
    (called : source.call asked = .bytes given after) :
    source.rest = given ++ after.rest ∧ given.length ≤ asked ∧
      after.turns.length ≤ source.turns.length := by
  unfold call at called
  split at called
  · have gave := rest_of_give called
    exact ⟨gave.1, gave.2.1, by simp [gave.2.2]⟩
  · cases called
  · rename_i atMost turns held
    have gave := rest_of_give called
    exact ⟨gave.1, by omega, by simp [gave.2.2, held]⟩

/-- A call gives nothing only at the end. -/
theorem rest_eq_nil_of_call {source after : ByteSource} {asked : Nat} (positive : asked ≠ 0)
    (called : source.call asked = .bytes [] after) : source.rest = [] := by
  have empty {turns : List Turn} {count : Nat} (wanted : count ≠ 0)
      (gave : source.give turns count = .bytes [] after) : source.rest = [] := by
    unfold give at gave
    split at gave
    · cases gave
    · rename_i left held
      injection gave with nothing
      rcases List.take_eq_nil_iff.1 nothing with none | none
      · omega
      · exact none
    · injection gave with nothing
      rcases List.take_eq_nil_iff.1 nothing with none | none
      · exact absurd none wanted
      · exact none
  unfold call at called
  split at called
  · exact empty positive called
  · cases called
  · exact empty (by omega) called

/-- An interrupted call gives nothing and uses up its turn. -/
theorem rest_of_interrupted {source after : ByteSource} {asked : Nat}
    (called : source.call asked = .interrupted after) :
    source.rest = after.rest ∧ after.turns.length < source.turns.length ∧
      after.allowance = source.allowance := by
  unfold call at called
  split at called
  · unfold give at called
    split at called <;> cases called
  · rename_i turns held
    cases called
    exact ⟨rfl, by simp [held], rfl⟩
  · unfold give at called
    split at called <;> cases called

/-- Call until that many bytes have come or the source ends. -/
def fill (source : ByteSource) (asked : Nat) : Except Fault (List UInt8 × ByteSource) :=
  if asked = 0 then .ok ([], source)
  else
    match _ : source.call asked with
    | .failed => .error (.io .readingCapture "read refused")
    | .interrupted after => fill after asked
    | .bytes [] after => .ok ([], after)
    | .bytes (first :: more) after => do
      let (others, last) ← fill after (asked - (more.length + 1))
      return (first :: more ++ others, last)
termination_by source.turns.length + asked
decreasing_by
  · have interrupted := rest_of_interrupted ‹_›
    omega
  · have gave := rest_of_call ‹_›
    simp only [List.length_cons] at gave
    omega

/-- What has been collected and what is left make up what was there. -/
theorem rest_of_fill {source after : ByteSource} {asked : Nat} {given : List UInt8}
    (filled : source.fill asked = .ok (given, after)) :
    source.rest = given ++ after.rest ∧ given.length ≤ asked := by
  fun_induction fill source asked generalizing given after with
  | case1 source => cases filled; simp
  | case2 => cases filled
  | case3 source asked positive next called ih =>
    rw [(rest_of_interrupted called).1]
    exact ih filled
  | case4 source asked positive next called =>
    cases filled
    exact ⟨(rest_of_call called).1, by simp⟩
  | case5 source asked positive first more next called ih =>
    cases inner : next.fill (asked - (more.length + 1)) with
    | error fault => rw [inner] at filled; cases filled
    | ok result =>
      obtain ⟨others, last⟩ := result
      rw [inner] at filled
      cases filled
      have gave := rest_of_call called
      have filledRest := ih inner
      simp only [List.length_cons] at gave
      refine ⟨?_, ?_⟩
      · rw [gave.1, filledRest.1, List.append_assoc]
      · simp only [List.length_append, List.length_cons]
        omega

/-- A source that gave less than was asked for has nothing left. -/
theorem rest_eq_nil_of_fill {source after : ByteSource} {asked : Nat} {given : List UInt8}
    (filled : source.fill asked = .ok (given, after)) (short : given.length < asked) :
    after.rest = [] := by
  fun_induction fill source asked generalizing given after with
  | case1 source => cases filled; simp at short
  | case2 => cases filled
  | case3 source asked positive next called ih => exact ih filled short
  | case4 source asked positive next called =>
    cases filled
    have nothing := rest_eq_nil_of_call positive called
    rw [(rest_of_call called).1] at nothing
    exact nothing
  | case5 source asked positive first more next called ih =>
    cases inner : next.fill (asked - (more.length + 1)) with
    | error fault => rw [inner] at filled; cases filled
    | ok result =>
      obtain ⟨others, last⟩ := result
      rw [inner] at filled
      cases filled
      simp only [List.length_append, List.length_cons] at short
      exact ih inner (by omega)

end ByteSource

end LapTelemetry.Wire
