import LapTelemetry.Proofs.Spec.Walk
import LapTelemetry.Proofs.Spec.Recognition
import LapTelemetry.Proofs.Wire.LayoutTree

/-! # Compiling follows the walk

`Follows` ties a part of the compiler to the steps that it stands for: it succeeds
iff these pass, and what it then returns shows the point that they lead to. Parts
in a row follow their steps in a row (`Follows.bind`, `Follows.foldlM`), so each
function of the compiler needs one lemma about the checks of its own.

A body of the compiler keeps the extent of its fields and no two of one name;
`Body.Regular` says so. It is why the last check, of the finished layout, refuses
nothing (`finish_eq_ok`), and why a union whose members are within the bound never
exceeds it. -/

namespace LapTelemetry.Spec

open LapTelemetry.Wire

set_option autoImplicit false

/-! ## Parts of the compiler -/

/-- A part of the compiler succeeds iff steps pass, and its result shows the point
that they lead to. -/
structure Follows {α : Type} (walk : Walk) (steps : List Step) (view : α → Walk) (good : α → Prop)
    (result : Except Fault α) : Prop where
  sound : ∀ value, result = .ok value → walk.Passes steps ∧ walk.run steps = view value ∧ good value
  complete : walk.Passes steps → ∃ value, result = .ok value

namespace Follows

variable {α β : Type} {walk : Walk} {steps : List Step} {view : α → Walk} {good : α → Prop}

theorem bind {later : List Step} {viewLater : β → Walk} {goodLater : β → Prop}
    {first : Except Fault α} {next : α → Except Fault β} (leads : Follows walk steps view good first)
    (goes : ∀ value, good value → Follows (view value) later viewLater goodLater (next value)) :
    Follows walk (steps ++ later) viewLater goodLater (first >>= next) := by
  constructor
  · intro result done
    obtain ⟨value, firstDone, nextDone⟩ := bind_eq_ok.mp done
    obtain ⟨passes, reached, isGood⟩ := leads.sound value firstDone
    obtain ⟨passesLater, reachedLater, isGoodLater⟩ := (goes value isGood).sound result nextDone
    rw [Walk.passes_append_iff, Walk.run_append, reached]
    exact ⟨⟨passes, passesLater⟩, reachedLater, isGoodLater⟩
  · intro passes
    obtain ⟨passesFirst, passesLater⟩ := Walk.passes_append_iff.mp passes
    obtain ⟨value, firstDone⟩ := leads.complete passesFirst
    obtain ⟨-, reached, isGood⟩ := leads.sound value firstDone
    rw [reached] at passesLater
    obtain ⟨result, nextDone⟩ := (goes value isGood).complete passesLater
    exact ⟨result, bind_eq_ok.mpr ⟨value, firstDone, nextDone⟩⟩

/-- What is returned may be shown in another way. -/
theorem returning {viewLater : β → Walk} {goodLater : β → Prop} {first : Except Fault α}
    {returned : α → β} (leads : Follows walk steps view good first)
    (same : ∀ value, good value →
      view value = viewLater (returned value) ∧ goodLater (returned value)) :
    Follows walk steps viewLater goodLater (first >>= fun value => pure (returned value)) := by
  have nothing (value : α) (isGood : good value) :
      Follows (view value) [] viewLater goodLater (pure (returned value)) := by
    refine ⟨fun result done => ?_, fun _ => ⟨_, rfl⟩⟩
    cases done
    exact ⟨Walk.passes_nil, same value isGood⟩
  have chained := leads.bind nothing
  rwa [List.append_nil] at chained

theorem foldlM {stepsOf : β → List Step} {compileOne : α → β → Except Fault α}
    (each : ∀ value item, good value → Follows (view value) (stepsOf item) view good
      (compileOne value item)) (items : List β) {first : α} (isGood : good first) :
    Follows (view first) (items.flatMap stepsOf) view good (items.foldlM compileOne first) := by
  induction items generalizing first with
  | nil =>
    refine ⟨fun value done => ?_, fun _ => ⟨first, rfl⟩⟩
    cases done
    exact ⟨Walk.passes_nil, rfl, isGood⟩
  | cons item items ih =>
    rw [List.flatMap_cons, List.foldlM_cons]
    exact (each first item isGood).bind fun value valueGood => ih valueGood

end Follows

/-! ## Bodies -/

/-- A body of the compiler as the open body of a walk. -/
def Body.opened (body : Body) (name : String) (arrangement : Arrangement) : OpenBody :=
  ⟨name, arrangement, body.fields⟩

/-- The body with one more field. -/
def Body.extended (body : Body) (arrangement : Arrangement) (field : LayoutField Layout) : Body :=
  ⟨body.fields ++ [field], arrangement.extend body.extent field.width⟩

/-- What holds of every body on the way through its fields. -/
structure Body.Regular (arrangement : Arrangement) (body : Body) : Prop where
  distinct : (body.fields.map (·.name)).Nodup
  inhabited : ∀ field ∈ body.fields, field.shape.count ≠ 0
  extent_eq : body.extent = (Layout.place arrangement 0 body.fields).2
  extent_lt : body.extent < widthBound

theorem regular_empty (arrangement : Arrangement) : Body.empty.Regular arrangement := by
  refine ⟨List.nodup_nil, fun field member => ?_, rfl, by decide⟩
  cases member

theorem Body.Regular.extended {arrangement : Arrangement} {body : Body}
    (regular : body.Regular arrangement) {field : LayoutField Layout}
    (fresh : ∀ other ∈ body.fields, other.name ≠ field.name) (elements : field.shape.count ≠ 0)
    (within : arrangement.extend body.extent field.width < widthBound) :
    (body.extended arrangement field).Regular arrangement := by
  constructor
  · rw [Body.extended, List.map_append, List.nodup_append]
    refine ⟨regular.distinct, by simp, fun name used last isLast same => ?_⟩
    obtain ⟨other, member, rfl⟩ := List.mem_map.mp used
    rw [List.map_singleton, List.mem_singleton] at isLast
    exact fresh other member (same.trans isLast)
  · intro other member
    rcases List.mem_append.mp member with earlier | last
    · exact regular.inhabited other earlier
    · rw [List.mem_singleton.mp last]
      exact elements
  · rw [Body.extended, Layout.place_append, ← regular.extent_eq]
    rfl
  · exact within

/-- Only a struct can outgrow the bound. -/
theorem extend_lt_iff {arrangement : Arrangement} {body : Body} {width : Nat}
    (regular : body.Regular arrangement) (narrow : width < widthBound) :
    arrangement.extend body.extent width < widthBound ↔
      (arrangement = .struct → (body.fields.map LayoutField.width).sum + width < widthBound) := by
  cases arrangement with
  | struct =>
    have extent := regular.extent_eq
    rw [Layout.place_struct_sum] at extent
    rw [Arrangement.extend, extent]
    exact ⟨fun within _ => within, fun within => within rfl⟩
  | union =>
    have within : max body.extent width < widthBound := Nat.max_lt.mpr ⟨regular.extent_lt, narrow⟩
    exact iff_of_true within (fun other => by cases other)

theorem checkNew_eq_ok_iff {body : Body} {typeName name : String} {line : Nat} :
    body.checkNew typeName name line = .ok () ↔ ∀ field ∈ body.fields, field.name ≠ name := by
  rw [Body.checkNew]
  cases taken : body.fields.any fun field => field.name == name with
  | true =>
    obtain ⟨field, member, same⟩ := List.any_eq_true.mp taken
    refine iff_of_false (fun accepted => by cases accepted) fun fresh => ?_
    exact fresh field member (beq_iff_eq.mp same)
  | false =>
    refine iff_of_true rfl fun field member same => ?_
    exact List.any_eq_false.mp taken field member (beq_iff_eq.mpr same)

theorem append_eq_ok_iff {body result : Body} {typeName : String} {arrangement : Arrangement}
    {line : Nat} {field : LayoutField Layout} :
    body.append typeName arrangement line field = .ok result ↔
      field.width < widthBound ∧ arrangement.extend body.extent field.width < widthBound ∧
        result = body.extended arrangement field := by
  rw [Body.append]
  by_cases wide : widthBound ≤ field.width
  · simp [refuse, wide, Nat.not_lt.mpr wide]
  · by_cases large : widthBound ≤ arrangement.extend body.extent field.width
    · simp [refuse, wide, large, Nat.not_lt.mpr large]
    · simp only [if_neg wide, if_neg large, Except.ok.injEq, Nat.not_le.mp wide,
        Nat.not_le.mp large, true_and, Body.extended]
      exact eq_comm

theorem resolve_eq_ok_iff {registry : Registry} {type referencedBy : String}
    {element : Element Layout} :
    resolve registry type referencedBy = .ok element ↔ registry.element? type = some element := by
  rw [resolve, Registry.element?, Registry.require]
  cases Primitive.named? type with
  | some primitive => simp
  | none => cases registry.get? type <;> simp [Except.map]

/-- The last check of a layout refuses no regular body. -/
theorem finish_eq_ok {arrangement : Arrangement} {body : Body} (name : String)
    (regular : body.Regular arrangement) :
    finish name arrangement body = .ok (Layout.build name arrangement body.fields) := by
  have placed := Layout.place_of_built ⟨name, arrangement, body.fields, rfl⟩
  have names : (Layout.build name arrangement body.fields).fields.map (·.name) =
      body.fields.map (·.name) := Layout.place_names _ _ _
  have accepted : (Layout.build name arrangement body.fields).validate = .ok () := by
    rw [Layout.validate_eq_ok_iff, names]
    refine ⟨fun field member => ⟨?_, Layout.end_le_of_place placed member⟩, regular.distinct⟩
    obtain ⟨given, among, offset, rfl⟩ := Layout.exists_of_mem_place member
    exact regular.inhabited given among
  rw [finish, accepted]
  rfl

/-! ## Fields and structs -/

theorem check_bind_eq_ok {α : Type} {check : Except Fault Unit} {next : Except Fault α}
    {result : α} : (check >>= fun _ => next) = .ok result ↔ check = .ok () ∧ next = .ok result := by
  cases check with
  | error fault => simp [bind, Except.bind]
  | ok done => simp [bind, Except.bind]

/-- To know the type of a field and to go on with it is to go on with the field of
the walk. -/
theorem resolve_bind_eq_ok (registry : Registry) (referencedBy : String) (declared : Outline.Field)
    (next : LayoutField Layout → Except Fault Body) (result : Body) :
    (resolve registry declared.type.typeName referencedBy >>= fun element =>
        next ⟨fieldName declared.name, declared.name, element, declared.type.shape, 0⟩) = .ok result ↔
      (registry.element? declared.type.typeName).isSome ∧
        next (registry.fieldOf declared) = .ok result := by
  rw [bind_eq_ok]
  simp only [resolve_eq_ok_iff, Registry.fieldOf]
  cases registry.element? declared.type.typeName <;> simp

/-- Compiling a field is to check its name and its length, to know its type and to
append it. -/
theorem compileField_eq_ok_iff {registry : Registry} {typeName : String} {arrangement : Arrangement}
    {body result : Body} {decl : FieldDecl} :
    compileField registry typeName arrangement body decl = .ok result ↔
      (∀ field ∈ body.fields, field.name ≠ fieldName decl.name) ∧ 1 ≤ decl.type.shape.count ∧
        (registry.element? decl.type.typeName).isSome ∧
        body.append typeName arrangement decl.line (registry.fieldOf decl.outline) = .ok result := by
  obtain ⟨index, line, name, type⟩ := decl
  have resolved := resolve_bind_eq_ok registry typeName ⟨name, type⟩
    (body.append typeName arrangement line) result
  rw [compileField, check_bind_eq_ok, checkNew_eq_ok_iff]
  refine and_congr Iff.rfl ?_
  cases type with
  | named type => exact resolved.trans (and_iff_right (Nat.le_refl 1)).symm
  | array type length =>
    by_cases empty : length = 0
    · simp [empty, refuse, bind, Except.bind, FieldType.shape, Shape.count]
    · dsimp only
      rw [if_neg empty]
      exact resolved.trans (and_iff_right (Nat.one_le_iff_ne_zero.mpr empty)).symm

/-- A field is admitted iff it passes the checks that come before it is appended, and
is appended. -/
theorem admits_iff_append {registry : Registry} {arrangement : Arrangement} {body : Body}
    {name : String} {declared : Outline.Field} (line : Nat) (regular : body.Regular arrangement) :
    (body.opened name arrangement).Admits registry declared ↔
      (∀ field ∈ body.fields, field.name ≠ fieldName declared.name) ∧
        1 ≤ declared.type.shape.count ∧ (registry.element? declared.type.typeName).isSome ∧
        body.append name arrangement line (registry.fieldOf declared) =
          .ok (body.extended arrangement (registry.fieldOf declared)) := by
  rw [append_eq_ok_iff]
  constructor
  · rintro ⟨fresh, inhabited, known, narrow, bounded⟩
    exact ⟨fresh, inhabited, known, narrow, (extend_lt_iff regular narrow).mpr bounded, rfl⟩
  · rintro ⟨fresh, inhabited, known, narrow, within, -⟩
    exact ⟨fresh, inhabited, known, narrow, (extend_lt_iff regular narrow).mp within⟩

/-- A field of a body follows the step that declares it. -/
theorem follows_compileField (registry : Registry) {arrangement : Arrangement} {body : Body}
    (name : String) (outer : List OpenBody) (decl : FieldDecl) (regular : body.Regular arrangement) :
    Follows ⟨registry, body.opened name arrangement :: outer⟩ [.field decl.outline]
      (fun result => ⟨registry, result.opened name arrangement :: outer⟩)
      (fun result => result.Regular arrangement)
      (compileField registry name arrangement body decl) := by
  constructor
  · intro result compiled
    obtain ⟨fresh, elements, known, appended⟩ := compileField_eq_ok_iff.mp compiled
    obtain ⟨-, within, rfl⟩ := append_eq_ok_iff.mp appended
    refine ⟨Walk.passes_singleton_iff.mpr ?_, rfl,
      regular.extended fresh (Nat.one_le_iff_ne_zero.mp elements) within⟩
    rintro opened ⟨⟩
    exact (admits_iff_append decl.line regular).mpr ⟨fresh, elements, known, appended⟩
  · intro passes
    have admitted : (body.opened name arrangement).Admits registry decl.outline :=
      Walk.passes_singleton_iff.mp passes _ rfl
    obtain ⟨fresh, elements, known, appended⟩ := (admits_iff_append decl.line regular).mp admitted
    exact ⟨_, compileField_eq_ok_iff.mpr ⟨fresh, elements, known, appended⟩⟩

theorem get?_eq_none_iff {registry : Registry} {name : String} :
    registry.get? name = none ↔ ∀ layout ∈ registry.layouts, layout.name ≠ name := by
  simp [Registry.get?]

theorem checkTypeName_eq_ok_iff {registry : Registry} {outer : List OpenBody} {name : String}
    {line : Nat} :
    checkTypeName registry (outer.map (·.name)) name line = .ok () ↔
      Walk.AdmitsType ⟨registry, outer⟩ name := by
  have isFree : ((registry.get? name).isSome || (outer.map (·.name)).contains name ||
      (Primitive.named? name).isSome) = false ↔ Walk.AdmitsType ⟨registry, outer⟩ name := by
    simp only [Bool.or_eq_false_iff, Option.isSome_eq_false_iff, Option.isNone_iff_eq_none,
      get?_eq_none_iff, List.contains_eq_mem, decide_eq_false_iff_not, List.mem_map, not_exists,
      not_and]
    exact ⟨fun ⟨⟨completed, isOpen⟩, primitive⟩ => ⟨primitive, completed, isOpen⟩,
      fun admitted => ⟨⟨admitted.not_completed, admitted.not_open⟩, admitted.not_primitive⟩⟩
  rw [← isFree, checkTypeName]
  cases ((registry.get? name).isSome || (outer.map (·.name)).contains name ||
      (Primitive.named? name).isSome) with
  | true => exact iff_of_false (fun accepted => by cases accepted) (fun free => by cases free)
  | false => exact iff_of_true rfl rfl

theorem follows_checkTypeName (registry : Registry) (outer : List OpenBody) (name : String)
    (arrangement : Arrangement) (line : Nat) :
    Follows ⟨registry, outer⟩ [.opens name arrangement]
      (fun _ => ⟨registry, Body.empty.opened name arrangement :: outer⟩) (fun _ => True)
      (checkTypeName registry (outer.map (·.name)) name line) := by
  constructor
  · intro _ accepted
    exact ⟨Walk.passes_singleton_iff.mpr (checkTypeName_eq_ok_iff.mp accepted), rfl, trivial⟩
  · intro passes
    exact ⟨(), checkTypeName_eq_ok_iff.mpr (Walk.passes_singleton_iff.mp passes)⟩

theorem follows_finish {registry : Registry} {arrangement : Arrangement} {body : Body}
    (name : String) (outer : List OpenBody) (regular : body.Regular arrangement) :
    Follows ⟨registry, body.opened name arrangement :: outer⟩ [.closes]
      (fun layout => ⟨registry.add layout, outer⟩) (fun layout => layout.name = name)
      (finish name arrangement body) := by
  rw [finish_eq_ok name regular]
  constructor
  · rintro _ ⟨⟩
    exact ⟨Walk.passes_singleton_iff.mpr trivial, rfl, rfl⟩
  · exact fun _ => ⟨_, rfl⟩

/-- A struct follows its steps, in whatever bodies it stands. -/
theorem follows_compileStruct (registry : Registry) (outer : List OpenBody) (name : String)
    (decl : StructBody) :
    Follows ⟨registry, outer⟩ (structSteps name decl.outline)
      (fun layout => ⟨registry.add layout, outer⟩) (fun layout => layout.name = name)
      (compileStruct registry (outer.map (·.name)) name decl) := by
  have fields (body : Body) (regular : body.Regular .struct) :=
    Follows.foldlM (fun body decl regular => follows_compileField registry name outer decl regular)
      decl.fields regular
  have steps : structSteps name decl.outline =
      [.opens name .struct] ++
        (decl.fields.flatMap (fun field => [.field field.outline]) ++ [.closes]) := by
    rw [← List.map_eq_flatMap, structSteps, StructBody.outline, List.map_map]
    rfl
  rw [steps]
  refine (follows_checkTypeName registry outer name .struct decl.line).bind fun _ _ => ?_
  refine (fields .empty (regular_empty .struct)).bind fun body regular => ?_
  exact follows_finish name outer regular

/-! ## Unions and specifications -/

theorem get?_add {registry : Registry} {layout : Layout}
    (free : ∀ other ∈ registry.layouts, other.name ≠ layout.name) :
    (registry.add layout).get? layout.name = some layout := by
  have absent := get?_eq_none_iff.mpr free
  rw [Registry.get?] at absent
  rw [Registry.get?, Registry.add, List.find?_append, absent]
  simp

/-- A type that was free when it opened is known by its name when it is complete. -/
theorem element?_add {registry : Registry} {outer : List OpenBody} {layout : Layout}
    (free : Walk.AdmitsType ⟨registry, outer⟩ layout.name) :
    (registry.add layout).element? layout.name = some (.nested layout) := by
  rw [Registry.element?, free.not_primitive, get?_add free.not_completed]
  rfl

theorem fieldOf_named {registry : Registry} {type : String} {element : Element Layout}
    (name : String) (known : registry.element? type = some element) :
    registry.fieldOf ⟨name, .named type⟩ = ⟨fieldName name, name, element, .single, 0⟩ := by
  simp only [Registry.fieldOf, FieldType.typeName, known]
  rfl

/-- The point of a walk between two members of a union. -/
def unionPoint (name : String) (state : Registry × Body) : Walk :=
  ⟨state.1, [state.2.opened name .union]⟩

theorem compileMember_inline_eq_ok_iff {unionName memberName : String} {registry : Registry}
    {body : Body} {index : Nat} {decl : StructBody} {result : Registry × Body} :
    compileMember unionName (registry, body) (.inline index memberName decl) = .ok result ↔
      (∀ field ∈ body.fields, field.name ≠ fieldName memberName) ∧
        ∃ layout, compileStruct registry [unionName] (inlineName memberName) decl = .ok layout ∧
          ∃ extended, body.append unionName .union decl.line
              ⟨fieldName memberName, memberName, .nested layout, .single, 0⟩ = .ok extended ∧
            (registry.add layout, extended) = result := by
  rw [compileMember, check_bind_eq_ok, checkNew_eq_ok_iff]
  refine and_congr Iff.rfl ?_
  simp only [bind_eq_ok, pure, Except.pure, Except.ok.injEq]
  rfl

/-- A member of a union follows its steps. -/
theorem follows_compileMember (unionName : String) (state : Registry × Body) (member : Member)
    (regular : state.2.Regular .union) :
    Follows (unionPoint unionName state) member.outline.steps (unionPoint unionName)
      (fun result => result.2.Regular .union) (compileMember unionName state member) := by
  obtain ⟨registry, body⟩ := state
  cases member with
  | field decl =>
    exact (follows_compileField registry unionName [] decl regular).returning
      fun extended regular => ⟨rfl, regular⟩
  | inline index memberName decl =>
    have struct := follows_compileStruct registry [body.opened unionName .union]
      (inlineName memberName) decl
    -- The member is a field of the type that its struct has become.
    have known (layout : Layout) (named : layout.name = inlineName memberName)
        (passes : (unionPoint unionName (registry, body)).Passes
          (structSteps (inlineName memberName) decl.outline)) :
        (registry.add layout).element? (inlineName memberName) = some (.nested layout) := by
      have free := (Walk.passes_cons_iff.mp passes).1
      rw [← named] at free ⊢
      exact element?_add free
    constructor
    · intro result compiled
      obtain ⟨fresh, layout, structCompiled, extended, appended, rfl⟩ :=
        compileMember_inline_eq_ok_iff.mp compiled
      obtain ⟨-, within, rfl⟩ := append_eq_ok_iff.mp appended
      obtain ⟨passes, reached, named⟩ := struct.sound layout structCompiled
      have isKnown := known layout named passes
      have field := fieldOf_named memberName isKnown
      rw [← field] at appended
      have admitted : (body.opened unionName .union).Admits (registry.add layout)
          (Outline.Member.inline memberName decl.outline).asField :=
        (admits_iff_append decl.line regular).mpr
          ⟨fresh, Nat.le_refl 1, Option.isSome_of_eq_some isKnown, appended⟩
      refine ⟨Walk.passes_append_iff.mpr ⟨passes, ?_⟩, ?_,
        regular.extended fresh Nat.one_ne_zero within⟩
      · rw [unionPoint, reached, Walk.passes_singleton_iff]
        rintro opened ⟨⟩
        exact admitted
      · rw [Member.outline, Outline.Member.steps, Walk.run_append, unionPoint, reached]
        simp only [Walk.run_cons, Walk.run_nil, Walk.after, Outline.Member.asField, field]
        rfl
    · intro passes
      obtain ⟨structPasses, fieldPasses⟩ := Walk.passes_append_iff.mp passes
      obtain ⟨layout, structCompiled⟩ := struct.complete structPasses
      obtain ⟨-, reached, named⟩ := struct.sound layout structCompiled
      rw [unionPoint, reached, Walk.passes_singleton_iff] at fieldPasses
      have admitted : (body.opened unionName .union).Admits (registry.add layout)
          (Outline.Member.inline memberName decl.outline).asField := fieldPasses _ rfl
      obtain ⟨fresh, -, -, appended⟩ := (admits_iff_append decl.line regular).mp admitted
      have field := fieldOf_named memberName (known layout named structPasses)
      rw [Outline.Member.asField, field] at appended
      exact ⟨_, compileMember_inline_eq_ok_iff.mpr
        ⟨fresh, layout, structCompiled, _, appended, rfl⟩⟩

/-- A declaration follows its steps, from no open body to no open body. -/
theorem follows_compileDeclaration (registry : Registry) (declaration : Declaration) :
    Follows ⟨registry, []⟩ declaration.outline.steps (fun result => ⟨result, []⟩) (fun _ => True)
      (compileDeclaration registry declaration) := by
  cases declaration with
  | struct name decl =>
    cases name with
    | none =>
      refine ⟨fun result done => ?_, fun _ => ⟨registry, rfl⟩⟩
      cases done
      exact ⟨Walk.passes_nil, rfl, trivial⟩
    | some name =>
      exact (follows_compileStruct registry [] name decl).returning fun _ _ => ⟨rfl, trivial⟩
  | union index line name members =>
    have compiled (state : Registry × Body) (regular : state.2.Regular .union) :=
      Follows.foldlM (fun state member regular => follows_compileMember name state member regular)
        members regular
    have steps : (Declaration.union index line name members).outline.steps =
        [.opens name .union] ++
          (members.flatMap (fun member => member.outline.steps) ++ [.closes]) := by
      rw [Declaration.outline, Outline.Declaration.steps, List.flatMap_map]
      rfl
    rw [steps]
    refine (follows_checkTypeName registry [] name .union line).bind fun _ _ => ?_
    refine (compiled (registry, .empty) (regular_empty .union)).bind fun state regular => ?_
    exact (follows_finish name [] regular).returning fun _ _ => ⟨rfl, trivial⟩

/-- The compiler follows the walk through a specification, from its start. -/
theorem follows_ofSpecification (specification : Specification) :
    Follows Walk.start specification.steps (fun registry => ⟨registry, []⟩) (fun _ => True)
      (Registry.ofSpecification specification) := by
  have steps : specification.steps =
      specification.declarations.flatMap fun declaration => declaration.outline.steps := by
    rw [Specification.steps, Specification.outline, List.flatMap_map]
  rw [steps]
  exact Follows.foldlM (fun registry declaration _ => follows_compileDeclaration registry declaration)
    specification.declarations trivial

end LapTelemetry.Spec
