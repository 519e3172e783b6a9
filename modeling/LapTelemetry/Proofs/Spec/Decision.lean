import LapTelemetry.Proofs.Spec.Compilation

/-! # Deciding whether a walk passes

A walk is decided step by step (`Walk.check`). A specification whose walk passes compiles to what
the walk completes (`ofSpecification_of_check`), so it can be evaluated without the compiler.

Evaluating a specification takes its time over the names: to decode a text, or to encode one,
takes far more steps than to compare two lists of bytes. The characters of an ASCII text are its
bytes (`toList_of_isAscii`), so here the names of fields are told apart without decoding them.
A walk with any other name of a field is not decided. -/

namespace LapTelemetry.Spec

open LapTelemetry.Wire

set_option autoImplicit false

/-! ## Names of ASCII -/

/-- The bytes of a text. -/
def bytesOf (text : String) : List UInt8 := text.toByteArray.data.toList

/-- Whether every byte of a text is a character of its own. -/
def isAscii (text : String) : Bool := (bytesOf text).all fun byte => byte.toNat < 128

/-- The characters of a text, if each of its bytes is one. -/
def asciiChars (text : String) : List Char := (bytesOf text).map fun byte => Char.ofNat byte.toNat

/-- The name in records of a field, if its name on the wire is ASCII. -/
def asciiFieldName (wireName : String) : List Char := FieldName.normalize (asciiChars wireName)

theorem bytesOf_eq (text : String) : bytesOf text = text.toList.flatMap String.utf8EncodeChar := by
  conv =>
    lhs
    rw [bytesOf, ← String.ofList_toList (s := text)]
  rw [String.toByteArray_ofList, List.utf8Encode, List.toList_data_toByteArray]

/-- A character that is encoded below 128 is encoded as itself. -/
theorem utf8EncodeChar_of_ascii {c : Char}
    (ascii : ∀ byte ∈ String.utf8EncodeChar c, byte.toNat < 128) :
    (String.utf8EncodeChar c).map (fun byte => Char.ofNat byte.toNat) = [c] := by
  have small : c.val.toNat ≤ 127 := by
    -- Every longer encoding begins with a byte from 192 on.
    refine Nat.not_lt.mp fun large => ?_
    rw [String.utf8EncodeChar, if_neg (Nat.not_le.mpr large)] at ascii
    split at ascii
    · have first := ascii _ List.mem_cons_self
      rw [UInt8.toNat_ofNat'] at first
      omega
    · split at ascii <;>
      · have first := ascii _ List.mem_cons_self
        rw [UInt8.toNat_ofNat'] at first
        omega
  have itself : (UInt8.ofNat c.val.toNat).toNat = c.toNat :=
    UInt8.toNat_ofNat_of_lt' (Nat.lt_of_le_of_lt small (by decide))
  simp only [String.utf8EncodeChar, small, if_true, List.map_singleton, itself, Char.ofNat_toNat]

theorem toList_of_isAscii {text : String} (ascii : isAscii text = true) :
    text.toList = asciiChars text := by
  simp only [isAscii, bytesOf_eq, List.all_eq_true, decide_eq_true_eq] at ascii
  rw [asciiChars, bytesOf_eq]
  generalize text.toList = chars at ascii
  induction chars with
  | nil => rfl
  | cons c rest ih =>
    simp only [List.flatMap_cons, List.forall_mem_append] at ascii
    rw [List.flatMap_cons, List.map_append, utf8EncodeChar_of_ascii ascii.1, ← ih ascii.2]
    rfl

theorem fieldName_of_isAscii {wireName : String} (ascii : isAscii wireName = true) :
    fieldName wireName = String.ofList (asciiFieldName wireName) := by
  rw [fieldName, FieldName.onText, toList_of_isAscii ascii, asciiFieldName]

/-! ## Steps -/

/-- What a field has to meet to join a body, as a test. -/
def OpenBody.check (body : OpenBody) (registry : Registry) (declared : Outline.Field) : Bool :=
  decide (isAscii declared.name = true ∧
    (∀ field ∈ body.fields, asciiFieldName field.wireName ≠ asciiFieldName declared.name) ∧
    1 ≤ declared.type.shape.count ∧ (registry.element? declared.type.typeName).isSome ∧
    (registry.fieldOf declared).width < widthBound ∧
    (body.arrangement = .struct → body.total + (registry.fieldOf declared).width < widthBound))

namespace Walk

/-- What a step has to meet at the point it is reached at, as a test. -/
def checkStep (walk : Walk) : Step → Bool
  | .opens name _ =>
    decide (Primitive.named? name = none ∧ (∀ layout ∈ walk.completed.layouts, layout.name ≠ name) ∧
      ∀ body ∈ walk.openBodies, body.name ≠ name)
  | .field declared => walk.openBodies.head?.all fun body => body.check walk.completed declared
  | .closes => true

/-- Whether steps pass, if the fields that they declare have names of ASCII. -/
def check (walk : Walk) : List Step → Bool
  | [] => true
  | step :: steps => walk.checkStep step && (walk.after step).check steps

/-- The fields of the open bodies are named after ASCII. -/
def Ascii (walk : Walk) : Prop :=
  ∀ body ∈ walk.openBodies, ∀ field ∈ body.fields,
    isAscii field.wireName = true ∧ field.name = fieldName field.wireName

variable {walk : Walk}

theorem admits_of_checkStep {step : Step} (named : walk.Ascii)
    (checked : walk.checkStep step = true) : walk.Admits step ∧ (walk.after step).Ascii := by
  obtain ⟨registry, openBodies⟩ := walk
  cases step with
  | opens name arrangement =>
    obtain ⟨primitive, completed, opened⟩ := of_decide_eq_true checked
    refine ⟨⟨primitive, completed, opened⟩, ?_⟩
    rintro body (_ | ⟨_, member⟩)
    · exact fun field none => absurd none List.not_mem_nil
    · exact named body member
  | closes =>
    refine ⟨trivial, ?_⟩
    cases openBodies with
    | nil => exact named
    | cons body outer => exact fun other member => named other (List.mem_cons_of_mem body member)
  | field declared =>
    cases openBodies with
    | nil => exact ⟨fun body none => (nomatch none), named⟩
    | cons body outer =>
      obtain ⟨ascii, fresh, inhabited, known, narrow, bounded⟩ := of_decide_eq_true checked
      have ofBody := named body List.mem_cons_self
      constructor
      · rintro _ ⟨⟩
        refine ⟨fun field member same => fresh field member ?_, inhabited, known, narrow, bounded⟩
        obtain ⟨spelt, name⟩ := ofBody field member
        rw [name, fieldName_of_isAscii spelt, fieldName_of_isAscii ascii] at same
        exact String.ofList_injective same
      · rintro other (_ | ⟨_, member⟩)
        · intro field member
          rcases List.mem_append.mp member with earlier | last
          · exact ofBody field earlier
          · rw [List.mem_singleton.mp last]
            exact ⟨ascii, rfl⟩
        · exact named other (List.mem_cons_of_mem body member)

theorem passes_of_check {steps : List Step} (named : walk.Ascii)
    (checked : walk.check steps = true) : walk.Passes steps := by
  induction steps generalizing walk with
  | nil => exact passes_nil
  | cons step steps ih =>
    obtain ⟨first, later⟩ := Bool.and_eq_true_iff.mp checked
    obtain ⟨admitted, stillNamed⟩ := admits_of_checkStep named first
    exact passes_cons_iff.mpr ⟨admitted, ih stillNamed later⟩

end Walk

/-- The registry that the walk through a specification completes. -/
def Specification.completed (specification : Specification) : Registry :=
  (Walk.start.run specification.steps).completed

/-- A specification whose walk passes compiles to what the walk completes. -/
theorem ofSpecification_of_check {specification : Specification}
    (checked : Walk.start.check specification.steps = true) :
    Registry.ofSpecification specification = .ok specification.completed := by
  have follows := follows_ofSpecification specification
  have none : Walk.start.Ascii := fun body member => absurd member List.not_mem_nil
  obtain ⟨registry, compiled⟩ := follows.complete (Walk.passes_of_check none checked)
  obtain ⟨-, reached, -⟩ := follows.sound registry compiled
  rw [compiled, Specification.completed, reached]

end LapTelemetry.Spec
