import LapTelemetry.Proofs.Spec.Recognition
import LapTelemetry.Spec.Arena

/-! # The numbers of nodes

Here the tree of a specification is laid out as one list of nodes, in the order in which
they are numbered (`Specification.entries`). A node names its children, and a member its
inline struct, by number alone.

The reader hands out numbers one after the other, and each of its rules hands out the
numbers from the one that it is given up to the one that it returns (`Numbered`). So the
number of a node is its place in the list (`numbers_ofTokens`). -/

namespace LapTelemetry.Spec

set_option autoImplicit false

/-! ## Layout -/

namespace NodeKind

def isBody : NodeKind → Bool
  | .struct _ | .union _ => true
  | _ => false

def isField : NodeKind → Bool
  | .field _ _ => true
  | _ => false

end NodeKind

namespace Node

/-- The inline struct that is the type of a field. -/
def target? (node : Node) : Option Nat :=
  match node.kind with
  | .field _ (.inline target) => some target
  | _ => none

/-- Every number that a node holds. -/
def references (node : Node) : List Nat := node.children ++ node.target?.toList

end Node

/-- A node and its number. -/
structure Entry where
  number : Nat
  node : Node
  deriving DecidableEq

def FieldDecl.entry (decl : FieldDecl) : Entry :=
  ⟨decl.index, .field decl.name decl.type.node, [], decl.line⟩

def StructBody.entries (name : Option String) (body : StructBody) : List Entry :=
  ⟨body.index, .struct name, body.fields.map (·.index), body.line⟩ ::
    body.fields.map FieldDecl.entry

def Member.number : Member → Nat
  | .field decl => decl.index
  | .inline own _ _ => own

/-- An inline struct comes before the member that it is the type of. -/
def Member.entries : Member → List Entry
  | .field decl => [decl.entry]
  | .inline own name body =>
    body.entries none ++ [⟨own, .field name (.inline body.index), [], body.line⟩]

def Declaration.number : Declaration → Nat
  | .struct _ body => body.index
  | .union index _ _ _ => index

def Declaration.entries : Declaration → List Entry
  | .struct name body => body.entries name
  | .union index line name members =>
    ⟨index, .union name, members.map Member.number, line⟩ :: members.flatMap Member.entries

namespace Specification

/-- The nodes of a specification with their numbers, from the first to the last. -/
def entries (specification : Specification) : List Entry :=
  ⟨0, .specification, specification.declarations.map Declaration.number, 1⟩ ::
    specification.declarations.flatMap Declaration.entries

/-- The nodes of a specification. -/
def arena (specification : Specification) : List Node := specification.entries.map Entry.node

end Specification

/-! ## Numbers that are handed out -/

/-- The numbers from the first up to the next that is free. -/
def Numbered (first next : Nat) (numbers : List Nat) : Prop :=
  first ≤ next ∧ numbers = List.range' first (next - first)

namespace Numbered

theorem nil (first : Nat) : Numbered first first [] :=
  ⟨Nat.le_refl first, by rw [Nat.sub_self]; rfl⟩

theorem append {first between next : Nat} {numbers others : List Nat}
    (begins : Numbered first between numbers) (goes : Numbered between next others) :
    Numbered first next (numbers ++ others) := by
  obtain ⟨up, rfl⟩ := begins
  obtain ⟨on, rfl⟩ := goes
  refine ⟨Nat.le_trans up on, ?_⟩
  have whole : next - first = (between - first) + (next - between) := by omega
  rw [whole, ← List.range'_append_1, Nat.add_sub_cancel' up]

theorem single (first : Nat) : Numbered first (first + 1) [first] :=
  ⟨Nat.le_succ first, by rw [Nat.add_sub_cancel_left]; rfl⟩

theorem cons {first next : Nat} {others : List Nat} (goes : Numbered (first + 1) next others) :
    Numbered first next (first :: others) :=
  (single first).append goes

/-- So many numbers lead from the first to the next that is free. -/
theorem next_eq {first next : Nat} {numbers : List Nat} (numbered : Numbered first next numbers) :
    next = first + numbers.length := by
  obtain ⟨up, rfl⟩ := numbered
  rw [List.length_range', Nat.add_sub_cancel' up]

end Numbered

section Reading

variable {last index line : Nat} {tokens : List Token}

theorem index_of_fieldAfter {type : String} {parsed : Parsed FieldDecl tokens}
    (read : fieldAfter last index type line tokens = .ok parsed) : parsed.value.index = index := by
  rw [fieldAfter] at read
  obtain ⟨name, -, read⟩ := bind_eq_ok.mp read
  obtain ⟨mark, -, read⟩ := bind_eq_ok.mp read
  dsimp only at read
  split at read
  · cases read
    rfl
  · obtain ⟨size, -, read⟩ := bind_eq_ok.mp read
    split at read
    · cases read
    · obtain ⟨close, -, read⟩ := bind_eq_ok.mp read
      obtain ⟨stop, -, read⟩ := bind_eq_ok.mp read
      cases read
      rfl
  · cases read

theorem numbered_structFields {name : Option String}
    {parsed : Parsed (List FieldDecl × Nat) tokens}
    (read : structFields last name index tokens = .ok parsed) :
    Numbered index parsed.value.2 (parsed.value.1.map (·.index)) := by
  refine structFields_induction (motive := fun index _ value _ =>
    Numbered index value.2 (value.1.map (·.index))) ?closes ?goesOn read
  case closes => exact fun index _ _ => .nil index
  case goesOn =>
    intro index type line rest first fields next behind firstRead later
    rw [List.map_cons, index_of_fieldAfter firstRead]
    exact later.cons

theorem numbers_body (name : Option String) (body : StructBody) :
    (body.entries name).map Entry.number = body.index :: body.fields.map (·.index) := by
  rw [StructBody.entries, List.map_cons, List.map_map]
  rfl

theorem numbered_inlineStruct {parsed : Parsed (Member × Nat) tokens}
    (read : inlineStruct last index line tokens = .ok parsed) :
    Numbered index parsed.value.2 (parsed.value.1.entries.map Entry.number) := by
  rw [inlineStruct] at read
  obtain ⟨start, -, read⟩ := bind_eq_ok.mp read
  obtain ⟨body, bodyRead, read⟩ := bind_eq_ok.mp read
  obtain ⟨name, -, read⟩ := bind_eq_ok.mp read
  obtain ⟨stop, -, read⟩ := bind_eq_ok.mp read
  have inner := (numbered_structFields bodyRead).cons
  cases read
  rw [Member.entries, List.map_append, numbers_body]
  exact inner.append (.single _)

theorem numbered_memberAfter {type : String} {parsed : Parsed (Member × Nat) tokens}
    (read : memberAfter last index type line tokens = .ok parsed) :
    Numbered index parsed.value.2 (parsed.value.1.entries.map Entry.number) := by
  rw [memberAfter] at read
  split at read
  · exact numbered_inlineStruct read
  · obtain ⟨field, fieldRead, read⟩ := bind_eq_ok.mp read
    have own := index_of_fieldAfter fieldRead
    cases read
    rw [Member.entries, List.map_singleton, FieldDecl.entry, own]
    exact .single index

theorem numbered_unionMembers {name : String} {parsed : Parsed (List Member × Nat) tokens}
    (read : unionMembers last name index tokens = .ok parsed) :
    Numbered index parsed.value.2 ((parsed.value.1.flatMap Member.entries).map Entry.number) := by
  refine unionMembers_induction (motive := fun index _ value _ =>
    Numbered index value.2 ((value.1.flatMap Member.entries).map Entry.number)) ?closes ?goesOn read
  case closes => exact fun index _ _ _ _ => .nil index
  case goesOn =>
    intro index type line rest first members next behind firstRead later
    rw [List.flatMap_cons, List.map_append]
    exact (numbered_memberAfter firstRead).append later

theorem numbered_structAfter {parsed : Parsed (Declaration × Nat) tokens}
    (read : structAfter last index line tokens = .ok parsed) :
    Numbered index parsed.value.2 (parsed.value.1.entries.map Entry.number) := by
  rw [structAfter] at read
  obtain ⟨head, -, read⟩ := bind_eq_ok.mp read
  dsimp only at read
  split at read
  · obtain ⟨body, bodyRead, read⟩ := bind_eq_ok.mp read
    cases read
    rw [Declaration.entries, numbers_body]
    exact (numbered_structFields bodyRead).cons
  · obtain ⟨start, -, read⟩ := bind_eq_ok.mp read
    obtain ⟨body, bodyRead, read⟩ := bind_eq_ok.mp read
    cases read
    rw [Declaration.entries, numbers_body]
    exact (numbered_structFields bodyRead).cons
  · cases read

theorem numbered_unionAfter {parsed : Parsed (Declaration × Nat) tokens}
    (read : unionAfter last index line tokens = .ok parsed) :
    Numbered index parsed.value.2 (parsed.value.1.entries.map Entry.number) := by
  rw [unionAfter] at read
  obtain ⟨name, -, read⟩ := bind_eq_ok.mp read
  obtain ⟨start, -, read⟩ := bind_eq_ok.mp read
  obtain ⟨body, bodyRead, read⟩ := bind_eq_ok.mp read
  cases read
  rw [Declaration.entries, List.map_cons]
  exact (numbered_unionMembers bodyRead).cons

theorem numbered_declarationAfter {text : String} {parsed : Parsed (Declaration × Nat) tokens}
    (read : declarationAfter last index text line tokens = .ok parsed) :
    Numbered index parsed.value.2 (parsed.value.1.entries.map Entry.number) := by
  rw [declarationAfter] at read
  split at read
  · exact numbered_structAfter read
  split at read
  · exact numbered_unionAfter read
  · cases read

theorem numbered_declarationList {declared : List Declaration} {next : Nat}
    (read : declarationList last index tokens = .ok (declared, next)) :
    Numbered index next ((declared.flatMap Declaration.entries).map Entry.number) := by
  refine declarationList_induction (motive := fun index _ declared next =>
    Numbered index next ((declared.flatMap Declaration.entries).map Entry.number))
    ?ends ?separator ?goesOn read
  case ends => exact fun index => .nil index
  case separator => exact fun _ _ _ _ _ later => later
  case goesOn =>
    intro index text line rest first others next firstRead later
    rw [List.flatMap_cons, List.map_append]
    exact (numbered_declarationAfter firstRead).append later

/-- **The number of a node is its place in the list**, and the count of nodes is right. -/
theorem numbers_ofTokens {specification : Specification}
    (accepted : Specification.ofTokens tokens = .ok specification) :
    specification.entries.map Entry.number = List.range specification.nodeCount := by
  obtain ⟨⟨declared, next⟩, read, given⟩ := bind_eq_ok.mp accepted
  cases given
  obtain ⟨-, numbers⟩ := (numbered_declarationList read).cons
  rw [Specification.entries, List.map_cons, numbers, Nat.sub_zero, ← List.range_eq_range']

end Reading

end LapTelemetry.Spec
