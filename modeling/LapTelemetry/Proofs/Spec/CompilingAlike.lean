import LapTelemetry.Proofs.Spec.Compilation
import LapTelemetry.Proofs.Spec.ReadingAlike

/-! # What lines do to the compiling of a specification

The lines of declarations reach the lines of faults, and nothing else: the same
declarations on related lines compile to one registry, or both are refused for the
same cause on related lines (`ofSpecification_alike`). With what is known of reading
this goes from the tokens of a text to its registry (`ofChars_alike`).

Every fault that can come out is a syntax fault on a line, or a type that is not known.
The last check of a layout has faults of its own; it is only reached with a regular
body, of which it refuses none. -/

namespace LapTelemetry.Spec

open LapTelemetry.Wire

set_option autoImplicit false

variable {R : Nat → Nat → Prop}

/-- What is known of the results of one part holds of results that are alike. -/
theorem OutcomesAlike.keeping {α : Type} {first first' : Except Fault α} {good : α → Prop}
    (alike : OutcomesAlike R Eq first first') (sound : ∀ value, first = .ok value → good value) :
    OutcomesAlike R (fun value value' => value = value' ∧ good value) first first' := by
  cases alike with
  | ok values => exact .ok ⟨values, sound _ rfl⟩
  | error faults => exact .error faults

theorem OutcomesAlike.imp {α β : Type} {same same' : α → β → Prop} {first : Except Fault α}
    {first' : Except Fault β} (alike : OutcomesAlike R same first first')
    (weaker : ∀ value value', same value value' → same' value value') :
    OutcomesAlike R same' first first' := by
  cases alike with
  | ok values => exact .ok (weaker _ _ values)
  | error faults => exact .error faults

/-! ## Checks -/

theorem checkNew_alike (body : Body) (typeName name : String) {line line' : Nat}
    (lines : R line line') :
    OutcomesAlike R Eq (body.checkNew typeName name line) (body.checkNew typeName name line') := by
  rw [Body.checkNew, Body.checkNew]
  split
  · exact refuse_alike _ lines
  · exact .ok rfl

theorem append_alike (body : Body) (typeName : String) (arrangement : Arrangement)
    (field : LayoutField Layout) {line line' : Nat} (lines : R line line') :
    OutcomesAlike R Eq (body.append typeName arrangement line field)
      (body.append typeName arrangement line' field) := by
  rw [Body.append, Body.append]
  split
  · exact refuse_alike _ lines
  split
  · exact refuse_alike _ lines
  · exact .ok rfl

theorem checkTypeName_alike (registry : Registry) (enclosing : List String) (name : String)
    {line line' : Nat} (lines : R line line') :
    OutcomesAlike R Eq (checkTypeName registry enclosing name line)
      (checkTypeName registry enclosing name line') := by
  rw [checkTypeName, checkTypeName]
  split
  · exact refuse_alike _ lines
  · exact .ok rfl

theorem resolve_alike (registry : Registry) (type referencedBy : String) :
    OutcomesAlike R Eq (resolve registry type referencedBy)
      (resolve registry type referencedBy) := by
  rw [resolve, Registry.require]
  cases Primitive.named? type with
  | some primitive => exact .ok rfl
  | none =>
    cases registry.get? type with
    | some layout => exact .ok rfl
    | none => exact .error (.unresolved type referencedBy)

/-! ## Fields and structs -/

theorem compileField_alike (registry : Registry) (typeName : String) {arrangement : Arrangement}
    {body : Body} (regular : body.Regular arrangement) {decl decl' : FieldDecl}
    (decls : FieldAlike R decl decl') :
    OutcomesAlike R (fun result result' => result = result' ∧ result.Regular arrangement)
      (compileField registry typeName arrangement body decl)
      (compileField registry typeName arrangement body decl') := by
  have follows := follows_compileField registry typeName [] decl regular
  refine OutcomesAlike.keeping ?_ fun result compiled => (follows.sound result compiled).2.2
  obtain ⟨index, line, name, type⟩ := decl
  obtain ⟨index', line', name', type'⟩ := decl'
  obtain ⟨outlines, lines⟩ := decls
  cases outlines
  rw [compileField, compileField]
  apply (checkNew_alike body typeName _ lines).bind
  intro _ _ _
  cases type with
  | named type =>
    apply (resolve_alike registry type typeName).bind
    rintro element _ rfl
    exact append_alike body typeName arrangement _ lines
  | array type length =>
    by_cases empty : length = 0
    · dsimp only
      rw [if_pos empty, if_pos empty]
      exact refuse_alike _ lines
    · dsimp only
      rw [if_neg empty, if_neg empty]
      apply (resolve_alike registry type typeName).bind
      rintro element _ rfl
      exact append_alike body typeName arrangement _ lines

/-- Parts of the compiler in a row, over items that are alike. -/
theorem foldlM_alike {α β : Type} (good : α → Prop) {alike : β → β → Prop}
    {step : α → β → Except Fault α}
    (each : ∀ value item item', good value → alike item item' →
      OutcomesAlike R (fun result result' => result = result' ∧ good result)
        (step value item) (step value item'))
    {items items' : List β} (same : List.Forall₂ alike items items') {first : α}
    (isGood : good first) :
    OutcomesAlike R (fun result result' => result = result' ∧ good result)
      (items.foldlM step first) (items'.foldlM step first) := by
  induction same generalizing first with
  | nil => exact .ok ⟨rfl, isGood⟩
  | cons head _ ih =>
    rw [List.foldlM_cons, List.foldlM_cons]
    apply (each first _ _ isGood head).bind
    rintro value _ ⟨rfl, valueGood⟩
    exact ih valueGood

theorem compileStruct_alike (registry : Registry) (enclosing : List String) (name : String)
    {decl decl' : StructBody} (bodies : BodyAlike R decl decl') :
    OutcomesAlike R Eq (compileStruct registry enclosing name decl)
      (compileStruct registry enclosing name decl') := by
  rw [compileStruct, compileStruct]
  apply (checkTypeName_alike registry enclosing name bodies.line).bind
  intro _ _ _
  have each (body : Body) (field field' : FieldDecl) (regular : body.Regular .struct)
      (fields : FieldAlike R field field') := compileField_alike registry name regular fields
  apply (foldlM_alike (fun body => body.Regular .struct) each bodies.fields
    (regular_empty .struct)).bind
  rintro body _ ⟨rfl, regular⟩
  rw [finish_eq_ok name regular]
  exact .ok rfl

/-! ## Unions and specifications -/

theorem compileMember_alike (unionName : String) {state : Registry × Body}
    (regular : state.2.Regular .union) {member member' : Member}
    (members : MemberAlike R member member') :
    OutcomesAlike R (fun result result' => result = result' ∧ result.2.Regular .union)
      (compileMember unionName state member) (compileMember unionName state member') := by
  have follows := follows_compileMember unionName state member regular
  refine OutcomesAlike.keeping ?_ fun result compiled => (follows.sound result compiled).2.2
  obtain ⟨registry, body⟩ := state
  cases members with
  | field decls =>
    apply (compileField_alike registry unionName regular decls).bind
    rintro result _ ⟨rfl, -⟩
    exact .ok rfl
  | inline name bodies =>
    apply (checkNew_alike body unionName _ bodies.line).bind
    intro _ _ _
    apply (compileStruct_alike registry [unionName] _ bodies).bind
    rintro layout _ rfl
    apply (append_alike body unionName .union _ bodies.line).bind
    rintro extended _ rfl
    exact .ok rfl

theorem compileDeclaration_alike (registry : Registry) {declaration declaration' : Declaration}
    (alike : DeclarationAlike R declaration declaration') :
    OutcomesAlike R Eq (compileDeclaration registry declaration)
      (compileDeclaration registry declaration') := by
  cases alike with
  | struct name bodies =>
    cases name with
    | none => exact .ok rfl
    | some name =>
      apply (compileStruct_alike registry [] name bodies).bind
      rintro layout _ rfl
      exact .ok rfl
  | union name lines members =>
    apply (checkTypeName_alike registry [] name lines).bind
    intro _ _ _
    have each (state : Registry × Body) (member member' : Member)
        (regular : state.2.Regular .union) (same : MemberAlike R member member') :=
      compileMember_alike name regular same
    have start : (registry, Body.empty).2.Regular .union := regular_empty .union
    apply (foldlM_alike (fun state => state.2.Regular .union) each members start).bind
    rintro ⟨compiled, body⟩ _ ⟨rfl, regular⟩
    dsimp only
    rw [finish_eq_ok name regular]
    exact .ok rfl

/-- **The lines of declarations reach the lines of faults only.** -/
theorem ofSpecification_alike {specification specification' : Specification}
    (alike : List.Forall₂ (DeclarationAlike R) specification.declarations
      specification'.declarations) :
    OutcomesAlike R Eq (Registry.ofSpecification specification)
      (Registry.ofSpecification specification') := by
  have each (registry : Registry) (declaration declaration' : Declaration) (_ : True)
      (same : DeclarationAlike R declaration declaration') :
      OutcomesAlike R (fun result result' => result = result' ∧ True)
        (compileDeclaration registry declaration) (compileDeclaration registry declaration') :=
    (compileDeclaration_alike registry same).keeping fun _ _ => trivial
  exact (foldlM_alike (fun _ => True) each alike trivial).imp fun _ _ same => same.1

/-- Texts of the same units on related lines compile to one registry, or are refused for
the same cause on related lines. -/
theorem ofChars_alike (first : R 1 1) {text text' : List Char}
    (alike : TokensAlike R (Token.ofText (blankTrivia text)) (Token.ofText (blankTrivia text'))) :
    OutcomesAlike R Eq (Registry.ofChars text) (Registry.ofChars text') := by
  apply (ofTokens_alike first alike).bind
  intro specification specification' same
  exact ofSpecification_alike same

end LapTelemetry.Spec
