/-! # Declarations of a specification

A specification declares structs and unions. The body of a struct holds fields;
the body of a union holds fields and inline structs, which have a member name and
no type name. Nothing nests deeper.

Every node of a specification is numbered in the order in which it is known: a
struct or a union when its body opens, a field when it is complete, and so an
inline struct before its fields and its member after them. The specification
itself is node 0. A node also keeps the line its first word stands on. -/

namespace LapTelemetry.Spec

set_option autoImplicit false

/-- The declared type of a field. -/
inductive FieldType where
  | named (type : String)
  | array (element : String) (length : Nat)
  deriving DecidableEq, Repr

/-- A field: `type name;` or `type name[length];`. -/
structure FieldDecl where
  index : Nat
  line : Nat
  name : String
  type : FieldType
  deriving DecidableEq, Repr

/-- The body of a struct. -/
structure StructBody where
  index : Nat
  line : Nat
  fields : List FieldDecl
  deriving DecidableEq, Repr

/-- A member of a union. -/
inductive Member where
  | field (decl : FieldDecl)
  | inline (index : Nat) (name : String) (body : StructBody)
  deriving DecidableEq, Repr

/-- A declaration; a struct may go without a name. -/
inductive Declaration where
  | struct (name : Option String) (body : StructBody)
  | union (index : Nat) (line : Nat) (name : String) (members : List Member)
  deriving DecidableEq, Repr

/-- The declarations of a specification in order, and how many nodes it has. -/
structure Specification where
  declarations : List Declaration
  nodeCount : Nat
  deriving DecidableEq, Repr

end LapTelemetry.Spec
