import LapTelemetry.Proofs.Spec.WellFormed

/-! # Which specifications compile, and to what

A specification compiles iff every step of the walk through it is admitted
(`ofSpecification_accepts_iff`): type names are free when they open, fields of a
body have names of their own, arrays have elements, types are known where they are
named, and widths stay within the bound. No other check can refuse it.

What it compiles to is read back by `definitionOf`, which takes a layout for the
definition that it came from. The registry lists the definitions in the order in
which the walk completes them, and the element of every field is what the name of
its type stands for among the layouts before it. -/

namespace LapTelemetry.Spec

open LapTelemetry.Wire

set_option autoImplicit false

/-! ## Reading layouts back -/

/-- The declaration of a field. -/
def declaredField (field : LayoutField Layout) : Outline.Field :=
  { name := field.wireName
    type := match field.shape with
      | .single => .named (elementName field.element)
      | .array length => .array (elementName field.element) length }

/-- The definition of a layout. -/
def definitionOf (layout : Layout) : Outline.Definition :=
  ⟨layout.name, layout.arrangement, layout.fields.map declaredField⟩

/-- The definitions of a registry, in order of completion. -/
def Registry.definitions (registry : Registry) : List Outline.Definition :=
  registry.layouts.map definitionOf

theorem declaredField_fieldOf (registry : Registry) (declared : Outline.Field) :
    declaredField (registry.fieldOf declared) = declared := by
  have named : elementName (registry.fieldOf declared).element = declared.type.typeName := by
    simp only [Registry.fieldOf]
    cases known : registry.element? declared.type.typeName with
    | none => rfl
    | some element => exact elementName_of_element? known
  obtain ⟨name, type⟩ := declared
  rw [declaredField, named]
  cases type <;> rfl

theorem definitionOf_build (name : String) (arrangement : Arrangement)
    (fields : List (LayoutField Layout)) :
    definitionOf (Layout.build name arrangement fields) =
      ⟨name, arrangement, fields.map declaredField⟩ := by
  have placed (extent : Nat) : (Layout.place arrangement extent fields).1.map declaredField =
      fields.map declaredField := by
    induction fields generalizing extent with
    | nil => rfl
    | cons field rest ih =>
      simp only [Layout.place, List.map_cons, ih]
      rfl
  exact congrArg (Outline.Definition.mk name arrangement) (placed 0)

theorem definitions_add (registry : Registry) (layout : Layout) :
    (registry.add layout).definitions = registry.definitions ++ [definitionOf layout] := by
  simp only [Registry.definitions, Registry.add, List.map_append, List.map_cons, List.map_nil]

/-! ## What the walk completes -/

theorem run_fields (registry : Registry) (body : OpenBody) (outer : List OpenBody)
    (declared : List Outline.Field) :
    Walk.run ⟨registry, body :: outer⟩ (declared.map .field) =
      ⟨registry, { body with fields := body.fields ++ declared.map registry.fieldOf } :: outer⟩ := by
  induction declared generalizing body with
  | nil => simp
  | cons first rest ih =>
    rw [List.map_cons, Walk.run_cons, Walk.after, ih]
    simp only [List.append_assoc, List.singleton_append, List.map_cons]

/-- The steps of a struct complete its definition. -/
theorem run_structSteps (registry : Registry) (outer : List OpenBody) (name : String)
    (fields : List Outline.Field) :
    ∃ layout, Walk.run ⟨registry, outer⟩ (structSteps name fields) = ⟨registry.add layout, outer⟩ ∧
      definitionOf layout = ⟨name, .struct, fields⟩ := by
  refine ⟨Layout.build name .struct (fields.map registry.fieldOf), ?_, ?_⟩
  · rw [structSteps, Walk.run_cons, Walk.after, Walk.run_append, run_fields]
    rfl
  · have readBack : fields.map (declaredField ∘ registry.fieldOf) = fields :=
      List.map_id'' (fun declared => declaredField_fieldOf registry declared) fields
    rw [definitionOf_build, List.map_map, readBack]

theorem run_memberSteps (registry : Registry) (body : OpenBody) (outer : List OpenBody)
    (member : Outline.Member) :
    ∃ after fields, Walk.run ⟨registry, body :: outer⟩ member.steps =
        ⟨after, { body with fields := body.fields ++ fields } :: outer⟩ ∧
      after.definitions = registry.definitions ++ member.definitions ∧
      fields.map declaredField = [member.asField] := by
  cases member with
  | field declared =>
    refine ⟨registry, [registry.fieldOf declared], rfl, ?_, ?_⟩
    · rw [Outline.Member.definitions, List.append_nil]
    · rw [List.map_singleton, declaredField_fieldOf, Outline.Member.asField]
  | inline name fields =>
    obtain ⟨layout, reached, definition⟩ :=
      run_structSteps registry (body :: outer) (inlineName name) fields
    refine ⟨registry.add layout,
      [(registry.add layout).fieldOf (Outline.Member.inline name fields).asField], ?_, ?_, ?_⟩
    · rw [Outline.Member.steps, Walk.run_append, reached]
      rfl
    · rw [definitions_add, definition, Outline.Member.definitions]
    · rw [List.map_singleton, declaredField_fieldOf]

theorem run_members (registry : Registry) (body : OpenBody) (outer : List OpenBody)
    (members : List Outline.Member) :
    ∃ after fields, Walk.run ⟨registry, body :: outer⟩ (members.flatMap Outline.Member.steps) =
        ⟨after, { body with fields := body.fields ++ fields } :: outer⟩ ∧
      after.definitions = registry.definitions ++ members.flatMap Outline.Member.definitions ∧
      fields.map declaredField = members.map Outline.Member.asField := by
  induction members generalizing registry body with
  | nil => exact ⟨registry, [], by simp, by simp, rfl⟩
  | cons member rest ih =>
    obtain ⟨middle, own, reached, completed, readBack⟩ := run_memberSteps registry body outer member
    obtain ⟨after, others, reachedLater, completedLater, readBackLater⟩ :=
      ih middle { body with fields := body.fields ++ own }
    refine ⟨after, own ++ others, ?_, ?_, ?_⟩
    · rw [List.flatMap_cons, Walk.run_append, reached, reachedLater, List.append_assoc]
    · rw [completedLater, completed, List.flatMap_cons, List.append_assoc]
    · rw [List.map_append, readBack, readBackLater, List.map_cons, List.singleton_append]

theorem run_declarationSteps (registry : Registry) (declaration : Outline.Declaration) :
    ∃ after, Walk.run ⟨registry, []⟩ declaration.steps = ⟨after, []⟩ ∧
      after.definitions = registry.definitions ++ declaration.definitions := by
  cases declaration with
  | struct name fields =>
    cases name with
    | none => exact ⟨registry, rfl, (List.append_nil _).symm⟩
    | some name =>
      obtain ⟨layout, reached, definition⟩ := run_structSteps registry [] name fields
      refine ⟨registry.add layout, reached, ?_⟩
      rw [definitions_add, definition, Outline.Declaration.definitions]
  | union name members =>
    obtain ⟨middle, fields, reached, completed, readBack⟩ :=
      run_members registry ⟨name, .union, []⟩ [] members
    refine ⟨middle.add (Layout.build name .union fields), ?_, ?_⟩
    · rw [Outline.Declaration.steps, Walk.run_cons, Walk.after, Walk.run_append, reached]
      rfl
    · rw [definitions_add, completed, definitionOf_build, readBack, Outline.Declaration.definitions,
        List.append_assoc]

/-- The walk through declarations completes their definitions, in order. -/
theorem run_declarations (registry : Registry) (declarations : List Outline.Declaration) :
    ∃ after, Walk.run ⟨registry, []⟩ (declarations.flatMap Outline.Declaration.steps) = ⟨after, []⟩ ∧
      after.definitions =
        registry.definitions ++ declarations.flatMap Outline.Declaration.definitions := by
  induction declarations generalizing registry with
  | nil => exact ⟨registry, rfl, (List.append_nil _).symm⟩
  | cons declaration rest ih =>
    obtain ⟨middle, reached, completed⟩ := run_declarationSteps registry declaration
    obtain ⟨after, reachedLater, completedLater⟩ := ih middle
    refine ⟨after, ?_, ?_⟩
    · rw [List.flatMap_cons, Walk.run_append, reached, reachedLater]
    · rw [completedLater, completed, List.flatMap_cons, List.append_assoc]

/-- **A specification compiles iff the walk through it admits every step.** What it
compiles to are its definitions in the order of their completion, each field made of
what the name of its type stands for among the layouts before. -/
theorem ofSpecification_accepts_iff (specification : Specification) :
    ((∃ registry, Registry.ofSpecification specification = .ok registry) ↔
        Walk.start.Passes specification.steps) ∧
      ∀ registry, Registry.ofSpecification specification = .ok registry →
        registry.definitions = specification.definitions ∧
        ∀ earlier layout later, registry.layouts = earlier ++ layout :: later →
          ∀ field ∈ layout.fields,
            Registry.element? ⟨earlier⟩ (elementName field.element) = some field.element := by
  have follows := follows_ofSpecification specification
  refine ⟨⟨?_, follows.complete⟩, fun registry compiled => ⟨?_, ?_⟩⟩
  · rintro ⟨registry, compiled⟩
    exact (follows.sound registry compiled).1
  · obtain ⟨-, reached, -⟩ := follows.sound registry compiled
    obtain ⟨after, ended, completed⟩ := run_declarations ⟨[]⟩ specification.outline
    have same : (⟨registry, []⟩ : Walk) = ⟨after, []⟩ := reached.symm.trans ended
    cases same
    exact completed
  · intro earlier layout later split field member
    obtain ⟨-, sound⟩ := (sound_of_ofSpecification compiled).layouts earlier layout later split
    exact sound.known field member

end LapTelemetry.Spec
