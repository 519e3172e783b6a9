import Mathlib.Algebra.GroupWithZero.Nat
import LapTelemetry.Spec.Registry
import LapTelemetry.Proofs.Spec.Grammar

/-! # The walk through a specification

What a specification means does not depend on how it is compiled. Here its
declarations are a list of steps: a body opens, a field is declared in the
innermost open body, the innermost body closes. An inline struct opens and closes
where its member stands, and its member is a field of the type that closed. A
struct without a name has no steps.

A `Walk` is a point between two steps: the types that are complete and the bodies
that are open. `after` leads from each step to the next point and refuses nothing.
What may be refused is said apart from it: a type name at its opening
(`AdmitsType`) and a field at its declaration (`OpenBody.Admits`). A list of steps
`Passes` when every one of them is admitted at the point it is reached at. -/

namespace LapTelemetry.Spec

open LapTelemetry.Wire

set_option autoImplicit false

/-- The name in records of a field. -/
def fieldName (wireName : String) : String := FieldName.onText FieldName.normalize wireName

/-- The name of the type of an inline struct, from the name of its member. -/
def inlineName (memberName : String) : String :=
  FieldName.onText FieldName.camel (fieldName memberName)

/-- The name of the type of each element. -/
def FieldType.typeName : FieldType → String
  | .named type => type
  | .array element _ => element

def FieldType.shape : FieldType → Shape
  | .named _ => .single
  | .array _ length => .array length

/-! ## Definitions and steps -/

namespace Outline

/-- A type that a specification defines. -/
structure Definition where
  name : String
  arrangement : Arrangement
  fields : List Field
  deriving DecidableEq, Repr

/-- A member as a field; an inline struct is a type of its own. -/
def Member.asField : Member → Field
  | .field plain => plain
  | .inline name _ => ⟨name, .named (inlineName name)⟩

def Member.definitions : Member → List Definition
  | .field _ => []
  | .inline name fields => [⟨inlineName name, .struct, fields⟩]

/-- The types of a declaration in the order in which they are complete: inline
structs before their union. -/
def Declaration.definitions : Declaration → List Definition
  | .struct none _ => []
  | .struct (some name) fields => [⟨name, .struct, fields⟩]
  | .union name members =>
    members.flatMap Member.definitions ++ [⟨name, .union, members.map Member.asField⟩]

end Outline

/-- One step of the walk. -/
inductive Step where
  | opens (name : String) (arrangement : Arrangement)
  | field (declared : Outline.Field)
  | closes
  deriving DecidableEq, Repr

/-- The steps of a struct. -/
def structSteps (name : String) (fields : List Outline.Field) : List Step :=
  .opens name .struct :: (fields.map .field ++ [.closes])

namespace Outline

def Member.steps : Member → List Step
  | .field plain => [.field plain]
  | .inline name fields =>
    structSteps (inlineName name) fields ++ [.field (Member.inline name fields).asField]

def Declaration.steps : Declaration → List Step
  | .struct none _ => []
  | .struct (some name) fields => structSteps name fields
  | .union name members => .opens name .union :: (members.flatMap Member.steps ++ [.closes])

end Outline

/-- The steps of a specification. -/
def Specification.steps (specification : Specification) : List Step :=
  specification.outline.flatMap Outline.Declaration.steps

/-- The types of a specification in the order in which they are complete. -/
def Specification.definitions (specification : Specification) : List Outline.Definition :=
  specification.outline.flatMap Outline.Declaration.definitions

/-! ## Points of the walk -/

/-- What a type name stands for, if it is known. -/
def Registry.element? (registry : Registry) (type : String) : Option (Element Layout) :=
  match Primitive.named? type with
  | some primitive => some (.primitive primitive)
  | none => (registry.get? type).map .nested

/-- A type that is not known, as if it were an empty struct. -/
def unknownElement (type : String) : Element Layout := .nested ⟨type, .struct, [], 0⟩

/-- The field that a declaration gives among complete types, not placed yet. -/
def Registry.fieldOf (registry : Registry) (declared : Outline.Field) : LayoutField Layout :=
  { name := fieldName declared.name
    wireName := declared.name
    element := (registry.element? declared.type.typeName).getD (unknownElement declared.type.typeName)
    shape := declared.type.shape
    offset := 0 }

/-- A body that is open, with its fields so far. -/
structure OpenBody where
  name : String
  arrangement : Arrangement
  fields : List (LayoutField Layout)

namespace OpenBody

/-- The sum of the widths of the fields so far. -/
def total (body : OpenBody) : Nat := (body.fields.map LayoutField.width).sum

/-- What a field has to meet to join a body. -/
structure Admits (body : OpenBody) (registry : Registry) (declared : Outline.Field) : Prop where
  /-- No field of the body has its name. -/
  fresh : ∀ field ∈ body.fields, field.name ≠ fieldName declared.name
  /-- An array has elements. -/
  inhabited : 1 ≤ declared.type.shape.count
  /-- Its type is a primitive, or complete. -/
  known : (registry.element? declared.type.typeName).isSome
  /-- Its width is within the bound. -/
  narrow : (registry.fieldOf declared).width < widthBound
  /-- The total of a struct stays within the bound. -/
  bounded : body.arrangement = .struct → body.total + (registry.fieldOf declared).width < widthBound

end OpenBody

/-- A point of the walk: the complete types, and the open bodies from the innermost
outwards. -/
structure Walk where
  completed : Registry
  openBodies : List OpenBody

namespace Walk

/-- The point before the first step. -/
def start : Walk := ⟨⟨[]⟩, []⟩

/-- What a type name has to meet when its body opens. -/
structure AdmitsType (walk : Walk) (name : String) : Prop where
  not_primitive : Primitive.named? name = none
  not_completed : ∀ layout ∈ walk.completed.layouts, layout.name ≠ name
  not_open : ∀ body ∈ walk.openBodies, body.name ≠ name

/-- What a step has to meet at the point it is reached at. -/
def Admits (walk : Walk) : Step → Prop
  | .opens name _ => walk.AdmitsType name
  | .field declared => ∀ body ∈ walk.openBodies.head?, body.Admits walk.completed declared
  | .closes => True

/-- The point after a step. -/
def after (walk : Walk) : Step → Walk
  | .opens name arrangement => ⟨walk.completed, ⟨name, arrangement, []⟩ :: walk.openBodies⟩
  | .field declared =>
    match walk.openBodies with
    | [] => walk
    | body :: outer =>
      ⟨walk.completed, { body with fields := body.fields ++ [walk.completed.fieldOf declared] } :: outer⟩
  | .closes =>
    match walk.openBodies with
    | [] => walk
    | body :: outer => ⟨walk.completed.add (Layout.build body.name body.arrangement body.fields), outer⟩

/-- The point after some steps. -/
def run (walk : Walk) (steps : List Step) : Walk := steps.foldl after walk

/-- Every step is admitted at the point it is reached at. -/
def Passes (walk : Walk) (steps : List Step) : Prop :=
  ∀ before step later, steps = before ++ step :: later → (walk.run before).Admits step

variable {walk : Walk}

@[simp] theorem run_nil : walk.run [] = walk := rfl

@[simp] theorem run_cons (step : Step) (steps : List Step) :
    walk.run (step :: steps) = (walk.after step).run steps := rfl

theorem run_append (steps later : List Step) :
    walk.run (steps ++ later) = (walk.run steps).run later := List.foldl_append

theorem passes_nil : walk.Passes [] := by
  intro before step later split
  cases before <;> cases split

theorem passes_cons_iff {step : Step} {steps : List Step} :
    walk.Passes (step :: steps) ↔ walk.Admits step ∧ (walk.after step).Passes steps := by
  constructor
  · intro passes
    refine ⟨passes [] step steps rfl, fun before other later split => ?_⟩
    exact passes (step :: before) other later (by rw [split]; rfl)
  · rintro ⟨admitted, passes⟩ before other later split
    cases before with
    | nil =>
      cases split
      exact admitted
    | cons first before =>
      cases split
      exact passes before other later rfl

theorem passes_append_iff {steps later : List Step} :
    walk.Passes (steps ++ later) ↔ walk.Passes steps ∧ (walk.run steps).Passes later := by
  induction steps generalizing walk with
  | nil => simp [passes_nil]
  | cons step steps ih => simp only [List.cons_append, passes_cons_iff, ih, run_cons, and_assoc]

theorem passes_singleton_iff {step : Step} : walk.Passes [step] ↔ walk.Admits step := by
  simp [passes_cons_iff, passes_nil]

end Walk

end LapTelemetry.Spec
