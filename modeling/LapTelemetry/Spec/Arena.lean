import LapTelemetry.Spec.Declaration

/-! # Arenas

The nodes of a specification stand in one list, the arena, and refer to each other by their
places in it. The specification itself is the first node. A node is allocated behind all others and
has no children then; it becomes a child of another node when that is known to hold it. -/

namespace LapTelemetry.Spec

set_option autoImplicit false

/-- The type of a field, with an inline struct by its place. -/
inductive NodeType where
  | named (type : String)
  | array (element : String) (length : Nat)
  | inline (target : Nat)
  deriving DecidableEq, Repr

def FieldType.node : FieldType → NodeType
  | .named type => .named type
  | .array element length => .array element length

/-- What a node is. -/
inductive NodeKind where
  | specification
  | struct (name : Option String)
  | union (name : String)
  | field (name : String) (type : NodeType)
  deriving DecidableEq, Repr

/-- The name of a struct or a union. -/
def NodeKind.scopeName? : NodeKind → Option String
  | .struct name => name
  | .union name => some name
  | _ => none

/-- A node, with the places of its children in order. -/
structure Node where
  kind : NodeKind
  children : List Nat
  /-- The line that the node is declared on. -/
  line : Nat
  deriving DecidableEq, Repr

namespace Arena

/-- The arena of a specification that declares nothing. -/
def empty : List Node := [⟨.specification, [], 1⟩]

/-- Put a node without children behind the others, and tell its place. -/
def alloc (arena : List Node) (kind : NodeKind) (line : Nat) : List Node × Nat :=
  (arena ++ [⟨kind, [], line⟩], arena.length)

/-- Make a node the last child of another. -/
def attach (arena : List Node) (parent child : Nat) : List Node :=
  arena.modify parent fun node => { node with children := node.children ++ [child] }

/-- What the node at a place is. -/
def kind (arena : List Node) (id : Nat) : NodeKind :=
  (arena[id]?.map Node.kind).getD .specification

/-- The line of the node at a place. -/
def line (arena : List Node) (id : Nat) : Nat := (arena[id]?.map Node.line).getD 1

/-- Whether nothing is declared. -/
def isEmpty (arena : List Node) : Bool := arena.length == 1

end Arena

end LapTelemetry.Spec
