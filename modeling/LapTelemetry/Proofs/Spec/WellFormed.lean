import LapTelemetry.Proofs.Spec.Compilation
import LapTelemetry.Proofs.Splits

/-! # Compiled registries are well-formed

`Registry.WellFormed` says what every user of a registry relies on: names stand for
one layout each, fields lie where the layout rules put them, and a layout is built
from primitives and from layouts that stand before it.

The walk carries it. `Walk.Sound` extends it to points with open bodies; each
admitted step keeps it (`Walk.Sound.after`), so it holds after every list of steps
that passes (`Walk.Sound.run`), and what compiles has passed all of its steps
(`compile_wellFormed`). -/

namespace LapTelemetry.Spec

open LapTelemetry.Wire

set_option autoImplicit false

/-! ## What is well-formed -/

/-- The consistency of a layout that stands behind others. -/
structure WellFormedLayout (earlier : List Layout) (layout : Layout) : Prop where
  names_distinct : (layout.fields.map (·.name)).Nodup
  names_normal : ∀ field ∈ layout.fields,
    field.name = FieldName.onText FieldName.normalize field.wireName
  arrays_inhabited : ∀ field ∈ layout.fields, ∀ length, field.shape = .array length → 1 ≤ length
  struct_offsets : layout.arrangement = .struct → ∀ before field later,
    layout.fields = before ++ field :: later →
      field.offset = (before.map fun other => other.element.width * other.shape.count).sum
  struct_size : layout.arrangement = .struct →
    layout.size = (layout.fields.map fun field => field.element.width * field.shape.count).sum
  union_offsets : layout.arrangement = .union → ∀ field ∈ layout.fields, field.offset = 0
  union_size : layout.arrangement = .union →
    layout.size = ((layout.fields.map fun field => field.element.width * field.shape.count).max?).getD 0
  nested_earlier : ∀ field ∈ layout.fields, ∀ nested, field.element = .nested nested →
    nested ∈ earlier

/-- The consistency of a registry. -/
structure Registry.WellFormed (registry : Registry) : Prop where
  names_distinct : (registry.layouts.map (·.name)).Nodup
  names_not_primitive : ∀ layout ∈ registry.layouts, ∀ type : Primitive,
    layout.name ≠ type.spelling
  get?_iff : ∀ name layout,
    registry.get? name = some layout ↔ layout ∈ registry.layouts ∧ layout.name = name
  layouts : ∀ earlier layout later, registry.layouts = earlier ++ layout :: later →
    WellFormedLayout earlier layout
  nested_entries : ∀ layout ∈ registry.layouts, ∀ field ∈ layout.fields, ∀ nested,
    field.element = .nested nested → registry.get? nested.name = some nested

/-! ## Layouts that the rules built -/

section Built

variable {layout : Layout}

theorem offset_of_built (built : layout.Built) {before later : List (LayoutField Layout)}
    {field : LayoutField Layout} (split : layout.fields = before ++ field :: later) :
    field.offset = layout.arrangement.offset (Layout.place layout.arrangement 0 before).2 :=
  Layout.offset_of_place (Layout.place_of_built built) split

theorem size_of_built (built : layout.Built) :
    layout.size = (Layout.place layout.arrangement 0 layout.fields).2 := by
  rw [Layout.place_of_built built]

theorem place_union_widest (fields : List (LayoutField Layout)) :
    (Layout.place .union 0 fields).2 = ((fields.map LayoutField.width).max?).getD 0 := by
  rw [Layout.place_union_size]
  cases fields with
  | nil => rfl
  | cons field rest =>
    rw [List.map_cons, List.foldl_cons, Nat.zero_max, List.max?_cons', Option.getD_some]

end Built

/-! ## Fields that are known -/

/-- The name of the type of an element. -/
def elementName : Element Layout → String
  | .primitive type => type.spelling
  | .nested layout => layout.name

section Known

variable {registry : Registry} {type : String} {element : Element Layout}

theorem elementName_of_element? (known : registry.element? type = some element) :
    elementName element = type := by
  rw [Registry.element?] at known
  cases primitive : Primitive.named? type with
  | some found =>
    rw [primitive] at known
    cases known
    exact Primitive.spelling_of_named? primitive
  | none =>
    rw [primitive] at known
    obtain ⟨layout, found, rfl⟩ := Option.map_eq_some_iff.mp known
    have hit := List.find?_some found
    exact beq_iff_eq.mp hit

theorem mem_of_element? {nested : Layout} (known : registry.element? type = some (.nested nested)) :
    nested ∈ registry.layouts := by
  rw [Registry.element?] at known
  cases primitive : Primitive.named? type with
  | some found =>
    rw [primitive] at known
    cases known
  | none =>
    rw [primitive] at known
    obtain ⟨layout, found, same⟩ := Option.map_eq_some_iff.mp known
    cases same
    exact List.mem_of_find?_eq_some found

/-- What a name stands for is not changed by a layout that joins later. -/
theorem element?_add_of_element? (layout : Layout) (known : registry.element? type = some element) :
    (registry.add layout).element? type = some element := by
  rw [Registry.element?] at known ⊢
  cases primitive : Primitive.named? type with
  | some found =>
    rw [primitive] at known
    exact known
  | none =>
    rw [primitive] at known
    obtain ⟨nested, found, rfl⟩ := Option.map_eq_some_iff.mp known
    have still : (registry.add layout).get? type = some nested := by
      rw [Registry.get?] at found
      rw [Registry.get?, Registry.add, List.find?_append, found]
      rfl
    exact Option.map_eq_some_iff.mpr ⟨nested, still, rfl⟩

end Known

/-- What holds of the fields of a body, open or complete, among complete types. -/
structure FieldsSound (registry : Registry) (fields : List (LayoutField Layout)) : Prop where
  distinct : (fields.map (·.name)).Nodup
  normal : ∀ field ∈ fields, field.name = fieldName field.wireName
  inhabited : ∀ field ∈ fields, 1 ≤ field.shape.count
  known : ∀ field ∈ fields, registry.element? (elementName field.element) = some field.element

namespace FieldsSound

variable {registry : Registry} {fields : List (LayoutField Layout)}

theorem nil : FieldsSound registry [] := by
  constructor <;> simp

theorem add (sound : FieldsSound registry fields) (layout : Layout) :
    FieldsSound (registry.add layout) fields :=
  { sound with
    known := fun field member => element?_add_of_element? layout (sound.known field member) }

theorem concat (sound : FieldsSound registry fields) {body : OpenBody} (same : body.fields = fields)
    {declared : Outline.Field} (admitted : body.Admits registry declared) :
    FieldsSound registry (fields ++ [registry.fieldOf declared]) := by
  subst same
  obtain ⟨element, known⟩ := Option.isSome_iff_exists.mp admitted.known
  have isElement : (registry.fieldOf declared).element = element := by
    simp only [Registry.fieldOf, known, Option.getD_some]
  have each {holds : LayoutField Layout → Prop} (earlier : ∀ field ∈ body.fields, holds field)
      (last : holds (registry.fieldOf declared)) :
      ∀ field ∈ body.fields ++ [registry.fieldOf declared], holds field := by
    intro field member
    rcases List.mem_append.mp member with among | isLast
    · exact earlier field among
    · rw [List.mem_singleton.mp isLast]
      exact last
  refine ⟨?_, each sound.normal rfl, each sound.inhabited admitted.inhabited, each sound.known ?_⟩
  · rw [List.map_append, List.nodup_append]
    refine ⟨sound.distinct, by simp, fun name used last isLast same => ?_⟩
    obtain ⟨other, member, rfl⟩ := List.mem_map.mp used
    rw [List.map_singleton, List.mem_singleton] at isLast
    exact admitted.fresh other member (same.trans isLast)
  · rw [isElement, elementName_of_element? known]
    exact known

/-- Placing fields changes nothing but their offsets. -/
theorem build (sound : FieldsSound registry fields) (name : String) (arrangement : Arrangement) :
    FieldsSound registry (Layout.build name arrangement fields).fields := by
  have each {holds : LayoutField Layout → Prop} (given : ∀ field ∈ fields, holds field)
      (moved : ∀ field offset, holds field → holds { field with offset }) :
      ∀ field ∈ (Layout.build name arrangement fields).fields, holds field := by
    intro field member
    obtain ⟨original, among, offset, rfl⟩ := Layout.exists_of_mem_place member
    exact moved original offset (given original among)
  refine ⟨?_, each sound.normal fun _ _ holds => holds, each sound.inhabited fun _ _ holds => holds,
    each sound.known fun _ _ holds => holds⟩
  have names : (Layout.build name arrangement fields).fields.map (·.name) = fields.map (·.name) :=
    Layout.place_names _ _ _
  rw [names]
  exact sound.distinct

end FieldsSound

/-! ## Points of the walk -/

/-- The names that a type may not take: those of open bodies and complete types. -/
def Walk.names (walk : Walk) : List String :=
  walk.openBodies.map (·.name) ++ walk.completed.layouts.map (·.name)

/-- What holds at every point of a walk that passes. -/
structure Walk.Sound (walk : Walk) : Prop where
  names_distinct : walk.names.Nodup
  names_free : ∀ name ∈ walk.names, Primitive.named? name = none
  bodies : ∀ body ∈ walk.openBodies, FieldsSound walk.completed body.fields
  layouts : ∀ earlier layout later, walk.completed.layouts = earlier ++ layout :: later →
    layout.Built ∧ FieldsSound ⟨earlier⟩ layout.fields

namespace Walk.Sound

variable {walk : Walk}

theorem start : Walk.start.Sound := by
  refine ⟨List.nodup_nil, fun name member => ?_, fun body member => ?_,
    fun earlier layout later split => ?_⟩
  · cases member
  · cases member
  · cases earlier <;> cases split

theorem opens (sound : walk.Sound) {name : String} (arrangement : Arrangement)
    (admitted : walk.AdmitsType name) : (walk.after (.opens name arrangement)).Sound := by
  have unused : name ∉ walk.names := by
    intro used
    rcases List.mem_append.mp used with isOpen | completed
    · obtain ⟨body, member, same⟩ := List.mem_map.mp isOpen
      exact admitted.not_open body member same
    · obtain ⟨layout, member, same⟩ := List.mem_map.mp completed
      exact admitted.not_completed layout member same
  refine ⟨List.nodup_cons.mpr ⟨unused, sound.names_distinct⟩, ?_, ?_, sound.layouts⟩
  · exact List.forall_mem_cons.mpr ⟨admitted.not_primitive, sound.names_free⟩
  · exact List.forall_mem_cons.mpr ⟨FieldsSound.nil, sound.bodies⟩

theorem field (sound : walk.Sound) {declared : Outline.Field}
    (admitted : walk.Admits (.field declared)) : (walk.after (.field declared)).Sound := by
  obtain ⟨completed, openBodies⟩ := walk
  cases openBodies with
  | nil => exact sound
  | cons body outer =>
    obtain ⟨own, others⟩ := List.forall_mem_cons.mp sound.bodies
    refine ⟨sound.names_distinct, sound.names_free, ?_, sound.layouts⟩
    exact List.forall_mem_cons.mpr ⟨own.concat rfl (admitted body rfl), others⟩

theorem closes (sound : walk.Sound) : (walk.after .closes).Sound := by
  obtain ⟨completed, openBodies⟩ := walk
  cases openBodies with
  | nil => exact sound
  | cons body outer =>
    obtain ⟨own, others⟩ := List.forall_mem_cons.mp sound.bodies
    -- The name of the body is now the last instead of the first.
    have moved : (Walk.after ⟨completed, body :: outer⟩ .closes).names.Perm
        (Walk.names ⟨completed, body :: outer⟩) := by
      simp only [Walk.names, Walk.after, Registry.add, List.map_append, List.map_cons, List.map_nil,
        ← List.append_assoc, List.cons_append]
      exact List.perm_append_singleton _ _
    refine ⟨moved.nodup_iff.mpr sound.names_distinct,
      fun name member => sound.names_free name (moved.mem_iff.mp member),
      fun other member => (others other member).add _, fun earlier layout later split => ?_⟩
    rcases split_concat split with ⟨rfl, rfl, -⟩ | ⟨rest, among, -⟩
    · exact ⟨⟨_, _, _, rfl⟩, own.build _ _⟩
    · exact sound.layouts earlier layout rest among

/-- **Every admitted step keeps a point sound.** -/
theorem after (sound : walk.Sound) {step : Step} (admitted : walk.Admits step) :
    (walk.after step).Sound := by
  cases step with
  | opens name arrangement => exact sound.opens arrangement admitted
  | field declared => exact sound.field admitted
  | closes => exact sound.closes

theorem run (sound : walk.Sound) {steps : List Step} (passes : walk.Passes steps) :
    (walk.run steps).Sound := by
  induction steps generalizing walk with
  | nil => exact sound
  | cons step steps ih =>
    obtain ⟨admitted, later⟩ := Walk.passes_cons_iff.mp passes
    exact ih (sound.after admitted) later

end Walk.Sound

/-! ## Registries -/

theorem get?_eq_some_iff {registry : Registry} (distinct : (registry.layouts.map (·.name)).Nodup)
    {name : String} {layout : Layout} :
    registry.get? name = some layout ↔ layout ∈ registry.layouts ∧ layout.name = name := by
  rw [Registry.get?]
  constructor
  · intro found
    have hit := List.find?_some found
    exact ⟨List.mem_of_find?_eq_some found, beq_iff_eq.mp hit⟩
  · rintro ⟨member, rfl⟩
    obtain ⟨before, later, split⟩ := List.append_of_mem member
    rw [split] at distinct ⊢
    have absent : before.find? (fun other => other.name == layout.name) = none := by
      rw [List.find?_eq_none]
      intro other among same
      rw [List.map_append, List.nodup_append] at distinct
      refine distinct.2.2 other.name (List.mem_map_of_mem among) layout.name ?_ (beq_iff_eq.mp same)
      exact List.mem_cons_self
    rw [List.find?_append, absent, List.find?_cons, beq_self_eq_true]
    rfl

/-- A layout that the rules built from sound fields is well-formed. -/
theorem wellFormedLayout_of_built {registry : Registry} {layout : Layout} (built : layout.Built)
    (sound : FieldsSound registry layout.fields) : WellFormedLayout registry.layouts layout := by
  have widths : (layout.fields.map fun field => field.element.width * field.shape.count) =
      layout.fields.map LayoutField.width := rfl
  constructor
  case names_distinct => exact sound.distinct
  case names_normal => exact sound.normal
  case arrays_inhabited =>
    intro field member length shape
    have inhabited := sound.inhabited field member
    rw [shape] at inhabited
    exact inhabited
  case struct_offsets =>
    intro arrangement before field later split
    rw [offset_of_built built split, arrangement, Arrangement.offset, Layout.place_struct_sum]
    rfl
  case struct_size =>
    intro arrangement
    rw [size_of_built built, arrangement, Layout.place_struct_sum]
    rfl
  case union_offsets =>
    intro arrangement field member
    obtain ⟨before, later, split⟩ := List.append_of_mem member
    rw [offset_of_built built split, arrangement]
    rfl
  case union_size =>
    intro arrangement
    rw [size_of_built built, arrangement, place_union_widest]
    rfl
  case nested_earlier =>
    intro field member nested element
    have known := sound.known field member
    rw [element] at known
    exact mem_of_element? known

theorem wellFormed_of_sound {registry : Registry} (sound : Walk.Sound ⟨registry, []⟩) :
    registry.WellFormed := by
  constructor
  case names_distinct => exact sound.names_distinct
  case names_not_primitive =>
    intro layout member type same
    have free := sound.names_free layout.name (List.mem_map_of_mem member)
    rw [same, Primitive.named?_spelling] at free
    cases free
  case get?_iff =>
    intro name layout
    exact get?_eq_some_iff sound.names_distinct
  case layouts =>
    intro earlier layout later split
    obtain ⟨built, fields⟩ := sound.layouts earlier layout later split
    exact wellFormedLayout_of_built built fields
  case nested_entries =>
    intro layout member field among nested element
    obtain ⟨earlier, later, split⟩ := List.append_of_mem member
    obtain ⟨built, fields⟩ := sound.layouts earlier layout later split
    have standsEarlier :=
      (wellFormedLayout_of_built built fields).nested_earlier field among nested element
    refine (get?_eq_some_iff sound.names_distinct).mpr ⟨?_, rfl⟩
    rw [split]
    exact List.mem_append_left _ standsEarlier

/-- A point that a compiled specification leads to is sound. -/
theorem sound_of_ofSpecification {specification : Specification} {registry : Registry}
    (compiled : Registry.ofSpecification specification = .ok registry) :
    Walk.Sound ⟨registry, []⟩ := by
  obtain ⟨passes, reached, -⟩ := (follows_ofSpecification specification).sound registry compiled
  have sound := Walk.Sound.start.run passes
  rwa [reached] at sound

/-- The layouts of a sound point are built by the rules throughout, and no field name occurs twice
in them: what is nested in one of them stands before it. -/
theorem everywhere_of_sound {registry : Registry} (sound : Walk.Sound ⟨registry, []⟩)
    {layout : Layout} (member : layout ∈ registry.layouts) :
    layout.Everywhere fun inner => inner.Built ∧ (inner.fields.map (·.name)).Nodup := by
  obtain ⟨earlier, later, split⟩ := List.append_of_mem member
  -- by the number of layouts that stand before
  induction count : earlier.length using Nat.strongRecOn generalizing earlier layout later with
  | _ number ih =>
    obtain ⟨built, fields⟩ := sound.layouts earlier layout later split
    refine .intro ⟨built, fields.distinct⟩ fun field among nested element => ?_
    have standsEarlier : nested ∈ earlier :=
      (wellFormedLayout_of_built built fields).nested_earlier field among nested element
    obtain ⟨front, rest, divided⟩ := List.append_of_mem standsEarlier
    have whole : registry.layouts = front ++ nested :: (rest ++ layout :: later) := by
      rw [split, divided, List.append_assoc, List.cons_append]
    have fewer : front.length < number := by
      rw [← count, divided, List.length_append, List.length_cons]
      omega
    exact ih front.length fewer (by simp [whole]) front _ whole rfl

/-- **Every registry that a text compiles to is well-formed.** -/
theorem compile_wellFormed (text : String) (registry : Registry)
    (compiled : Registry.compile text = .ok registry) : registry.WellFormed := by
  obtain ⟨specification, -, accepted⟩ := bind_eq_ok.mp compiled
  exact wellFormed_of_sound (sound_of_ofSpecification accepted)

/-- A union with an inline struct among its members, behind a struct that both are
built from. -/
def lapText : String :=
  "struct Split \x7b uint8 m_sector; uint16 m_ms; \x7d;
   union Lap \x7b Split m_splits[3]; struct \x7b Split m_best; \x7d m_bestOf; \x7d;"

theorem compile_wellFormed_lap :
    ∃ registry, Registry.compile lapText = .ok registry ∧
      registry.layouts.map (fun layout => (layout.name, layout.size)) =
        [("Split", 3), ("BestOf", 3), ("Lap", 9)] ∧ registry.WellFormed := by
  have sizes : (Registry.compile lapText).toOption.map
      (fun registry => registry.layouts.map fun layout => (layout.name, layout.size)) =
        some [("Split", 3), ("BestOf", 3), ("Lap", 9)] := by decide +kernel
  cases compiled : Registry.compile lapText with
  | error fault =>
    rw [compiled] at sizes
    cases sizes
  | ok registry =>
    rw [compiled] at sizes
    exact ⟨registry, rfl, Option.some.inj sizes, compile_wellFormed lapText registry compiled⟩

end LapTelemetry.Spec
