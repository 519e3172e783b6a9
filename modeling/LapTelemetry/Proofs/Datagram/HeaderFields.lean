import LapTelemetry.Datagram.Header
import LapTelemetry.Proofs.Outcome
import LapTelemetry.Proofs.Splits

/-! # The fields of a header

A header asks a record for ten fields, one after the other: nine whole numbers, each
within its width, and the time, which may be any number. `Header.fields` lists them.
Asking `Settles` a list of fields if it succeeds when the record holds them all and
otherwise names the first that it does not hold. This passes from the single steps to
their sequence (`Settles.bind`), and so to the header (`ofRecord_settles`). -/

namespace LapTelemetry.Datagram

open LapTelemetry.Number LapTelemetry.Wire

set_option autoImplicit false

/-- A field that a header is read from. -/
structure HeaderField where
  name : String
  /-- The bound of a whole number; other fields may be any number. -/
  bound? : Option Nat

/-- The fields of a header in the order in which they are read. -/
def Header.fields : List HeaderField :=
  [⟨"packet_format", some (pow2 16)⟩, ⟨"game_major_version", some (pow2 8)⟩,
    ⟨"game_minor_version", some (pow2 8)⟩, ⟨"packet_version", some (pow2 8)⟩,
    ⟨"packet_id", some (pow2 8)⟩, ⟨"session_uid", some (pow2 64)⟩, ⟨"session_time", none⟩,
    ⟨"frame_identifier", some (pow2 32)⟩, ⟨"player_car_index", some (pow2 8)⟩,
    ⟨"secondary_player_car_index", some (pow2 8)⟩]

/-- There is a number under the name of a field, and if it must be whole, then it is, and it is
neither negative nor too large. -/
def HeaderField.HeldBy (field : HeaderField) (record : Record Value) : Prop :=
  ∃ s : Scalar, record.get? field.name = some (.scalar s) ∧
    ∀ bound, field.bound? = some bound → ∃ n : Nat, s.whole? = some (n : Int) ∧ n < bound

/-! ## Numbers in records -/

theorem scalar?_eq_some_iff {value : Value} {s : Scalar} :
    value.scalar? = some s ↔ value = .scalar s := by
  cases value <;> simp [Value.scalar?]

theorem natural?_eq_some_iff {record : Record Value} {name : String} {n : Nat} :
    record.natural? name = some n ↔
      ∃ s : Scalar, record.get? name = some (.scalar s) ∧ s.whole? = some (n : Int) := by
  simp only [Record.natural?, Value.natural?, Scalar.natural?, Option.bind_eq_some_iff,
    scalar?_eq_some_iff]
  constructor
  · rintro ⟨_, found, s, rfl, i, whole, taken⟩
    split at taken
    · next notNegative =>
      cases taken
      exact ⟨s, found, whole.trans (congrArg some (Int.toNat_of_nonneg notNegative).symm)⟩
    · cases taken
  · rintro ⟨s, found, whole⟩
    exact ⟨_, found, s, rfl, n, whole, if_pos (Int.natCast_nonneg n)⟩

/-! ## Asking for fields -/

/-- What comes of asking a record for fields in order. -/
def Settles {α : Type} (record : Record Value) (asked : List HeaderField)
    (outcome : Except Fault α) : Prop :=
  (∀ field ∈ asked, field.HeldBy record) ∧ (∃ value, outcome = .ok value) ∨
    ∃ earlier field later, asked = earlier ++ field :: later ∧
      (∀ other ∈ earlier, other.HeldBy record) ∧ ¬ field.HeldBy record ∧
      outcome = .error (.fieldNotFound field.name Header.layoutName)

section Settles

variable {α β : Type} {record : Record Value} {asked : List HeaderField} {field : HeaderField}

theorem Settles.nothing (value : α) : Settles record [] (.ok value) :=
  .inl ⟨by simp, value, rfl⟩

theorem Settles.held {value : α} (held : field.HeldBy record) : Settles record [field] (.ok value) :=
  .inl ⟨by simpa using held, value, rfl⟩

theorem Settles.missing (missing : ¬ field.HeldBy record) :
    Settles record [field]
      (.error (.fieldNotFound field.name Header.layoutName) : Except Fault α) :=
  .inr ⟨[], field, [], rfl, by simp, missing, rfl⟩

theorem Settles.bind {step : Except Fault α} {next : α → Except Fault β}
    (first : Settles record [field] step) (rest : ∀ value, Settles record asked (next value)) :
    Settles record (field :: asked) (step >>= next) := by
  rcases first with ⟨held, value, rfl⟩ | ⟨earlier, other, later, split, before, missing, rfl⟩
  · have here : field.HeldBy record := held field List.mem_cons_self
    rcases rest value with ⟨others, done⟩ | ⟨earlier, other, later, rfl, before, missing, failed⟩
    · exact .inl ⟨List.forall_mem_cons.mpr ⟨here, others⟩, done⟩
    · exact .inr ⟨field :: earlier, other, later, rfl,
        List.forall_mem_cons.mpr ⟨here, before⟩, missing, failed⟩
  · have longer : field :: asked = earlier ++ other :: (later ++ asked) := by
      rw [← List.cons_append, ← List.append_assoc, ← split, List.singleton_append]
    exact .inr ⟨earlier, other, later ++ asked, longer, before, missing, rfl⟩

end Settles

theorem whole_settles (record : Record Value) (name : String) (bound : Nat) :
    Settles record [⟨name, some bound⟩] (Header.whole record name bound) := by
  have heldBy_iff : HeaderField.HeldBy ⟨name, some bound⟩ record ↔
      ∃ n, record.natural? name = some n ∧ n < bound := by
    simp only [HeaderField.HeldBy, natural?_eq_some_iff, Option.some.injEq, forall_eq']
    exact ⟨fun ⟨s, found, n, whole, small⟩ => ⟨n, ⟨s, found, whole⟩, small⟩,
      fun ⟨n, ⟨s, found, whole⟩, small⟩ => ⟨s, found, n, whole, small⟩⟩
  unfold Header.whole
  split
  · next n read =>
    split
    · next small => exact .held (heldBy_iff.mpr ⟨n, read, small⟩)
    · next large =>
      refine .missing fun held => ?_
      obtain ⟨other, again, small⟩ := heldBy_iff.mp held
      cases read.symm.trans again
      exact large small
  · next unread =>
    refine .missing fun held => ?_
    obtain ⟨n, read, -⟩ := heldBy_iff.mp held
    cases unread.symm.trans read

theorem real_settles (record : Record Value) (name : String) :
    Settles record [⟨name, none⟩] (Header.real record name) := by
  have heldBy_iff : HeaderField.HeldBy ⟨name, none⟩ record ↔ (record.real? name).isSome := by
    simp only [HeaderField.HeldBy, Record.real?]
    cases found : record.get? name with
    | none => simp
    | some value => cases value <;> simp [Value.real?, Value.scalar?]
  unfold Header.real
  split
  · next read => exact .held (heldBy_iff.mpr (by rw [read]; rfl))
  · next unread => exact .missing fun held => by simp [heldBy_iff, unread] at held

/-- A header is read if its record holds all fields; else the first one that it lacks is told. -/
theorem ofRecord_settles (record : Record Value) :
    Settles record Header.fields (Header.ofRecord record) := by
  unfold Header.ofRecord Header.fields
  refine (whole_settles ..).bind fun format => (whole_settles ..).bind fun major => ?_
  refine (whole_settles ..).bind fun minor => (whole_settles ..).bind fun version => ?_
  refine (whole_settles ..).bind fun id => (whole_settles ..).bind fun uid => ?_
  refine (real_settles ..).bind fun time => (whole_settles ..).bind fun frame => ?_
  refine (whole_settles ..).bind fun car => (whole_settles ..).bind fun secondary => ?_
  exact .nothing _

section Header

variable {record : Record Value} {earlier later : List HeaderField} {field : HeaderField}

theorem exists_ofRecord_iff :
    (∃ header, Header.ofRecord record = .ok header) ↔
      ∀ field ∈ Header.fields, field.HeldBy record := by
  rcases ofRecord_settles record with
    ⟨held, read⟩ | ⟨earlier, field, later, asked, -, missing, failed⟩
  · exact iff_of_true read held
  · have member : field ∈ Header.fields := asked ▸ List.mem_append_right _ List.mem_cons_self
    refine iff_of_false (fun ⟨header, read⟩ => ?_) fun held => missing (held field member)
    cases failed.symm.trans read

theorem ofRecord_missing (asked : Header.fields = earlier ++ field :: later)
    (before : ∀ other ∈ earlier, other.HeldBy record) (missing : ¬ field.HeldBy record) :
    Header.ofRecord record = .error (.fieldNotFound field.name Header.layoutName) := by
  rcases ofRecord_settles record with
    ⟨held, -⟩ | ⟨earlier', field', later', asked', before', missing', failed⟩
  · exact absurd (held field (asked ▸ List.mem_append_right _ List.mem_cons_self)) missing
  · rcases split_cases (asked.symm.trans asked') with ⟨-, rfl, -⟩ | ⟨among, -⟩ | ⟨among, -⟩
    · exact failed
    · exact absurd (before' field among) missing
    · exact absurd (before field' among) missing'

end Header

end LapTelemetry.Datagram
