import LapTelemetry.Spec.Declaration.Parser
import LapTelemetry.Spec.FieldName
import LapTelemetry.Wire.Layout
import LapTelemetry.Number.Power

/-! # The registry of layouts

Compiling a specification turns its declarations into layouts, in order. A field
refers to a primitive or to a type that is complete at that point, so a layout
stands after everything it is built from. An inline struct is compiled when its
member is reached, under a name made from the member's, and stands before its
union. A struct without a name at the top is skipped, whatever is in it.

A declaration is refused if its name is taken by a primitive, by a complete type
or by the union it stands in, if two of its fields get one name, if an array has
no elements, and if a width does not fit sixty-four bits. Either the whole text
compiles or there is no registry. -/

namespace LapTelemetry.Spec

open LapTelemetry.Number LapTelemetry.Wire

set_option autoImplicit false

/-- Widths stay below this bound. -/
def widthBound : Nat := pow2 64

/-- The layouts of a specification in order of completion. -/
structure Registry where
  layouts : List Layout
  deriving Repr

namespace Registry

/-- The layout of a name. -/
def get? (registry : Registry) (name : String) : Option Layout :=
  registry.layouts.find? fun layout => layout.name == name

/-- The layout of a name, which someone cannot work without. -/
def require (registry : Registry) (name neededBy : String) : Except Fault Layout :=
  match registry.get? name with
  | some layout => .ok layout
  | none => .error (.unresolvedType name neededBy)

/-- The registry with one more layout. -/
def add (registry : Registry) (layout : Layout) : Registry := ⟨registry.layouts ++ [layout]⟩

end Registry

/-- The part of a body that is compiled: its fields, and how far they extend. -/
structure Body where
  fields : List (LayoutField Layout)
  extent : Nat
  deriving Repr

namespace Body

/-- The body without fields. -/
def empty : Body := ⟨[], 0⟩

/-- Refuse a field name that the body has already. -/
def checkNew (body : Body) (typeName fieldName : String) (line : Nat) : Except Fault Unit :=
  if body.fields.any fun field => field.name == fieldName then
    refuse line (.duplicateField typeName fieldName)
  else .ok ()

/-- Append a field whose width, and the extent with it, stay below the bound. -/
def append (body : Body) (typeName : String) (arrangement : Arrangement) (line : Nat)
    (field : LayoutField Layout) : Except Fault Body :=
  let extent := arrangement.extend body.extent field.width
  if widthBound ≤ field.width then refuse line (.oversizedArray field.wireName)
  else if widthBound ≤ extent then refuse line (.oversizedType typeName)
  else .ok ⟨body.fields ++ [field], extent⟩

end Body

/-- Refuse a type name that is taken by a primitive, a complete type or an
enclosing one. -/
def checkTypeName (registry : Registry) (enclosing : List String) (name : String) (line : Nat) :
    Except Fault Unit :=
  if (registry.get? name).isSome || enclosing.contains name || (Primitive.named? name).isSome then
    refuse line (.duplicateType name)
  else .ok ()

/-- What a type name stands for in a body. -/
def resolve (registry : Registry) (type referencedBy : String) : Except Fault (Element Layout) :=
  match Primitive.named? type with
  | some primitive => .ok (.primitive primitive)
  | none => (registry.require type referencedBy).map .nested

/-- The layout of compiled fields. -/
def finish (name : String) (arrangement : Arrangement) (body : Body) : Except Fault Layout := do
  let layout := Layout.build name arrangement body.fields
  layout.validate
  return layout

/-- Compile a field into a body. -/
def compileField (registry : Registry) (typeName : String) (arrangement : Arrangement) (body : Body)
    (decl : FieldDecl) : Except Fault Body := do
  let name := FieldName.onText FieldName.normalize decl.name
  body.checkNew typeName name decl.line
  let (element, shape) ← match decl.type with
    | .named type => do
      let element ← resolve registry type typeName
      pure (element, Shape.single)
    | .array type length => do
      if length = 0 then refuse decl.line (.emptyArray decl.name)
      let element ← resolve registry type typeName
      pure (element, Shape.array length)
  body.append typeName arrangement decl.line ⟨name, decl.name, element, shape, 0⟩

/-- Compile a struct. -/
def compileStruct (registry : Registry) (enclosing : List String) (name : String)
    (decl : StructBody) : Except Fault Layout := do
  checkTypeName registry enclosing name decl.line
  let body ← decl.fields.foldlM (compileField registry name .struct) .empty
  finish name .struct body

/-- Compile a member of a union into its body; an inline struct joins the
registry. -/
def compileMember (unionName : String) (state : Registry × Body) (member : Member) :
    Except Fault (Registry × Body) := do
  let (registry, body) := state
  match member with
  | .field decl => return (registry, ← compileField registry unionName .union body decl)
  | .inline _ memberName decl =>
    let name := FieldName.onText FieldName.normalize memberName
    body.checkNew unionName name decl.line
    let layout ← compileStruct registry [unionName] (FieldName.onText FieldName.camel name) decl
    let body ← body.append unionName .union decl.line ⟨name, memberName, .nested layout, .single, 0⟩
    return (registry.add layout, body)

/-- Compile a declaration into the registry. -/
def compileDeclaration (registry : Registry) : Declaration → Except Fault Registry
  | .struct none _ => .ok registry
  | .struct (some name) decl => do
    let layout ← compileStruct registry [] name decl
    return registry.add layout
  | .union _ line name members => do
    checkTypeName registry [] name line
    let (registry, body) ← members.foldlM (compileMember name) (registry, .empty)
    let layout ← finish name .union body
    return registry.add layout

namespace Registry

/-- The registry of a specification. -/
def ofSpecification (specification : Specification) : Except Fault Registry :=
  specification.declarations.foldlM compileDeclaration ⟨[]⟩

/-- The registry of specification text. -/
def ofChars (text : List Char) : Except Fault Registry := do
  ofSpecification (← Specification.ofText text)

/-- The registry of specification text. -/
def compile (text : String) : Except Fault Registry := ofChars text.toList

end Registry

end LapTelemetry.Spec
