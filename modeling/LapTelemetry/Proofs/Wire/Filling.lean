import LapTelemetry.Proofs.Outcome
import LapTelemetry.Wire.ByteSource

/-! # What a source gives in the end

The turns of a source decide how many calls it takes to fill a request, and nothing
else. What a request is filled with are the next bytes of the source, as many as were
asked for or as there are (`eq_take_of_fill`). A request fails only at a source that
has an allowance, and only if the allowance is smaller than the request
(`fault_of_fill`); a source that never fails fills every request (`fill_of_unlimited`).

An allowance that does not go beyond the end of the bytes hides that end. A source with
one fills a request as a whole or fails, but does not stop short
(`length_of_fill_of_limited`), since before it could tell that nothing is left it would
have to be called once more. -/

namespace LapTelemetry.Wire.ByteSource

set_option autoImplicit false

variable {source after : ByteSource} {asked left : Nat} {given : List UInt8} {fault : Fault}

/-! ## One call -/

theorem allowance_of_give {turns : List Turn} {count : Nat}
    (gave : source.give turns count = .bytes given after) :
    after.allowance = source.allowance.map (· - given.length) ∧
      ∀ left ∈ source.allowance, 0 < left ∧ given.length ≤ left := by
  unfold give at gave
  split at gave
  · cases gave
  · next left limited =>
    cases gave
    rw [limited]
    refine ⟨rfl, fun other same => ?_⟩
    cases same
    rw [List.length_take]
    omega
  · next unlimited =>
    cases gave
    rw [unlimited]
    exact ⟨rfl, fun other mem => absurd mem (Option.not_mem_none other)⟩

/-- A call that gives bytes is allowed to, and they are taken off the allowance. -/
theorem allowance_of_call (called : source.call asked = .bytes given after) :
    after.allowance = source.allowance.map (· - given.length) ∧
      ∀ left ∈ source.allowance, 0 < left ∧ given.length ≤ left := by
  unfold call at called
  split at called
  · exact allowance_of_give called
  · cases called
  · exact allowance_of_give called

/-- A call fails when the allowance is used up. -/
theorem allowance_of_failed (failed : source.call asked = .failed) :
    source.allowance = some 0 := by
  have refused {turns : List Turn} {count : Nat} (gave : source.give turns count = .failed) :
      source.allowance = some 0 := by
    unfold give at gave
    split at gave
    · assumption
    · cases gave
    · cases gave
  unfold call at failed
  split at failed
  · exact refused failed
  · cases failed
  · exact refused failed

/-! ## Many calls -/

/-- A request is filled with the next bytes, however they come. -/
theorem eq_take_of_fill (filled : source.fill asked = .ok (given, after)) :
    given = source.rest.take asked ∧ after.rest = source.rest.drop asked := by
  obtain ⟨made, within⟩ := rest_of_fill filled
  rcases Nat.lt_or_eq_of_le within with short | whole
  · have ended := rest_eq_nil_of_fill filled short
    rw [ended, List.append_nil] at made
    rw [made, ended, List.take_of_length_le within, List.drop_of_length_le within]
    exact ⟨rfl, rfl⟩
  · rw [made, ← whole, List.take_left, List.drop_left]
    exact ⟨rfl, rfl⟩

/-- Bytes are taken off the allowance as they are given, and before a source stops short of a
request it has to be allowed to give more. -/
theorem allowance_of_fill (filled : source.fill asked = .ok (given, after)) :
    after.allowance = source.allowance.map (· - given.length) ∧
      ∀ left ∈ source.allowance,
        given.length ≤ left ∧ (given.length < asked → given.length < left) := by
  fun_induction fill source asked generalizing given after with
  | case1 source =>
    cases filled
    refine ⟨by cases source.allowance <;> rfl, fun left _ => ⟨Nat.zero_le left, fun less => ?_⟩⟩
    exact absurd less (Nat.lt_irrefl 0)
  | case2 => cases filled
  | case3 source asked positive next called ih =>
    have untouched : next.allowance = source.allowance := (rest_of_interrupted called).2.2
    rw [← untouched]
    exact ih filled
  | case4 source asked positive next called =>
    cases filled
    obtain ⟨spent, allowed⟩ := allowance_of_call called
    exact ⟨spent, fun left limited => ⟨Nat.zero_le left, fun _ => (allowed left limited).1⟩⟩
  | case5 source asked positive first more next called ih =>
    obtain ⟨⟨others, last⟩, inner, joined⟩ := bind_eq_ok.mp filled
    cases joined
    obtain ⟨spent, allowed⟩ := allowance_of_call called
    obtain ⟨spentBehind, allowedBehind⟩ := ih inner
    have counted : (first :: more ++ others).length = (first :: more).length + others.length :=
      List.length_append
    rw [counted]
    refine ⟨?_, fun left limited => ?_⟩
    · rw [spentBehind, spent]
      cases source.allowance with
      | none => rfl
      | some left => exact congrArg some (Nat.sub_sub left _ _)
    · have remaining : left - (first :: more).length ∈ next.allowance := by
        rw [spent, limited]
        rfl
      have enough := (allowed left limited).2
      have behind := allowedBehind _ remaining
      simp only [List.length_cons] at enough behind ⊢
      omega

/-- A request fails at an allowance that is smaller than it. -/
theorem fault_of_fill (failed : source.fill asked = .error fault) :
    (∃ cause, fault = .io .readingCapture cause) ∧
      ∃ left, source.allowance = some left ∧ left < asked := by
  fun_induction fill source asked with
  | case1 => cases failed
  | case2 source asked positive called =>
    cases failed
    exact ⟨⟨_, rfl⟩, 0, allowance_of_failed called, Nat.pos_of_ne_zero positive⟩
  | case3 source asked positive next called ih =>
    have untouched : next.allowance = source.allowance := (rest_of_interrupted called).2.2
    rw [← untouched]
    exact ih failed
  | case4 => cases failed
  | case5 source asked positive first more next called ih =>
    have inner : next.fill (asked - (more.length + 1)) = .error fault := by
      cases inner : next.fill (asked - (more.length + 1)) with
      | error other => rw [inner] at failed; cases failed; rfl
      | ok result => rw [inner] at failed; cases failed
    obtain ⟨io, remaining, limited, scarce⟩ := ih inner
    obtain ⟨spent, allowed⟩ := allowance_of_call called
    refine ⟨io, ?_⟩
    cases held : source.allowance with
    | none =>
      rw [spent, held] at limited
      cases limited
    | some left =>
      rw [spent, held] at limited
      have enough := (allowed left held).2
      have same : left - (first :: more).length = remaining := Option.some.inj limited
      simp only [List.length_cons] at enough same
      exact ⟨left, rfl, by omega⟩

/-! ## Sources that never fail, and sources that fail within their bytes -/

/-- A source without an allowance fills every request as far as it has bytes. -/
theorem fill_of_unlimited (unlimited : source.allowance = none) (asked : Nat) :
    ∃ after, source.fill asked = .ok (source.rest.take asked, after) ∧
      after.rest = source.rest.drop asked ∧ after.allowance = none := by
  cases filled : source.fill asked with
  | error fault =>
    obtain ⟨-, left, limited, -⟩ := fault_of_fill filled
    rw [unlimited] at limited
    cases limited
  | ok result =>
    obtain ⟨given, after⟩ := result
    obtain ⟨rfl, behind⟩ := eq_take_of_fill filled
    have spent := (allowance_of_fill filled).1
    rw [unlimited] at spent
    exact ⟨after, rfl, behind, spent⟩

/-- Within its bytes a source with an allowance does not stop short. -/
theorem length_of_fill_of_limited (limited : source.allowance = some left)
    (within : left ≤ source.rest.length) (filled : source.fill asked = .ok (given, after)) :
    given.length = asked ∧ after.allowance = some (left - asked) ∧
      left - asked ≤ after.rest.length := by
  obtain ⟨spent, allowed⟩ := allowance_of_fill filled
  obtain ⟨enough, more⟩ := allowed left limited
  obtain ⟨front, behind⟩ := eq_take_of_fill filled
  have taken : given.length = min asked source.rest.length := by
    rw [front, List.length_take]
  have whole : given.length = asked := by
    rcases Nat.lt_or_ge given.length asked with short | reached
    · have allowedMore := more short
      omega
    · omega
  rw [limited, whole] at spent
  rw [behind, List.length_drop]
  exact ⟨whole, spent, by omega⟩

end LapTelemetry.Wire.ByteSource
