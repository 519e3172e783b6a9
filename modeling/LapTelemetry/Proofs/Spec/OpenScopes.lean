import Mathlib.Data.List.Perm.Basic
import LapTelemetry.Spec.Scopes
import LapTelemetry.Proofs.Spec.Numbering

/-! # No node is left dangling or shared

A node is allocated detached. A field is attached at once, but a struct or a union is attached, or
made the type of a member, only when its scope is closed, and until then it is on the stack. So
between two turns of the loop every node is either an open scope or referred to, and either once
(`Scopes.Accounted`). Every turn keeps this, and a text ends with the specification alone open. -/

namespace LapTelemetry.Spec

open scoped List

set_option autoImplicit false

/-! ## References -/

/-- Every number that the nodes of an arena hold. -/
def references (arena : List Node) : List Nat := arena.flatMap Node.references

theorem references_append (arena others : List Node) :
    references (arena ++ others) = references arena ++ references others :=
  List.flatMap_append

/-- Attaching a node makes one reference more, to that node. -/
theorem references_attach {arena : List Node} {parent : Nat} (child : Nat)
    (isNode : parent < arena.length) :
    references (Arena.attach arena parent child) ~ child :: references arena := by
  obtain ⟨before, node, behind, rfl, -, changed⟩ := List.exists_of_modify
    (fun node : Node => { node with children := node.children ++ [child] }) isNode
  have last_child : (before.flatMap Node.references ++ node.children) ++
      child :: (node.target?.toList ++ behind.flatMap Node.references) ~ _ := List.perm_middle
  rw [Arena.attach, changed]
  simp only [references, List.flatMap_append, List.flatMap_cons, Node.references,
    List.append_assoc, List.cons_append, List.nil_append] at last_child ⊢
  exact last_child

theorem length_attach (arena : List Node) (parent child : Nat) :
    (Arena.attach arena parent child).length = arena.length :=
  List.length_modify ..

theorem perm_range_succ {ids : List Nat} {size : Nat} (each : ids ~ List.range size) :
    size :: ids ~ List.range (size + 1) := by
  rw [List.range_succ]
  exact (each.cons size).trans (List.perm_append_singleton _ _).symm

/-! ## Open scopes -/

namespace Scopes

theorem length_addField (scopes : Scopes) (name : String) (type : NodeType) (line : Nat) :
    (scopes.addField name type line).arena.length = scopes.arena.length + 1 := by
  simp [addField, Arena.alloc, length_attach]

/-- A field is allocated and attached at once. An inline struct that is its type is referred to
with it. -/
theorem references_addField (scopes : Scopes) (name : String) (type : NodeType) (line : Nat)
    (isNode : scopes.top < scopes.arena.length) :
    (scopes.addField name type line).stack ++ references (scopes.addField name type line).arena ~
      scopes.arena.length :: ((Node.target? ⟨.field name type, [], line⟩).toList ++
        (scopes.stack ++ references scopes.arena)) := by
  have allocated : references (Arena.alloc scopes.arena (.field name type) line).1 =
      references scopes.arena ++ (Node.target? ⟨.field name type, [], line⟩).toList := by
    rw [Arena.alloc, references_append]
    simp [references, Node.references]
  have still : scopes.top < (Arena.alloc scopes.arena (.field name type) line).1.length := by
    rw [Arena.alloc, List.length_append]
    omega
  have attached := references_attach scopes.arena.length still
  rw [allocated] at attached
  calc scopes.stack ++ references (scopes.addField name type line).arena
    _ ~ scopes.stack ++ scopes.arena.length :: (references scopes.arena ++ _) :=
        attached.append_left _
    _ ~ scopes.arena.length :: (scopes.stack ++ (references scopes.arena ++ _)) := List.perm_middle
    _ ~ scopes.arena.length :: (_ ++ (scopes.stack ++ references scopes.arena)) := by
        rw [← List.append_assoc]
        exact List.perm_append_comm.cons _

/-- Every node is either an open scope or referred to, and either once. -/
structure Accounted (scopes : Scopes) : Prop where
  bottom : ∃ inner, scopes.stack = inner ++ [0]
  each : scopes.stack ++ references scopes.arena ~ List.range scopes.arena.length

namespace Accounted

theorem start : Accounted start := ⟨⟨[], rfl⟩, .refl _⟩

variable {scopes : Scopes} (accounted : Accounted scopes) {last : Nat}
include accounted

theorem top_isNode : scopes.top < scopes.arena.length := by
  obtain ⟨inner, bottom⟩ := accounted.bottom
  refine List.mem_range.mp (accounted.each.subset (List.mem_append_left _ ?_))
  rw [top, bottom]
  cases inner <;> simp

/-- What is opened is allocated behind all other nodes. -/
theorem enter {kind : NodeKind} (isBody : kind.isBody = true) (line : Nat) :
    Accounted (scopes.enter kind line) := by
  obtain ⟨⟨inner, bottom⟩, each⟩ := accounted
  have none : references [⟨kind, [], line⟩] = [] := by
    cases kind with
    | struct | union => rfl
    | specification | field => cases isBody
  refine ⟨⟨scopes.arena.length :: inner, ?_⟩, ?_⟩
  · rw [Scopes.enter, Arena.alloc, bottom]
    rfl
  · simp only [Scopes.enter, Arena.alloc, references_append, none, List.append_nil,
      List.cons_append, List.length_append, List.length_singleton]
    exact perm_range_succ each

theorem readField {type : String} {line : Nat} {tokens : List Token} {left : Left Scopes tokens}
    (read : scopes.readField last type line tokens = .ok left) : Accounted left.value := by
  obtain ⟨field, -, read⟩ := bind_eq_ok.mp read
  cases read
  have more := references_addField scopes field.value.name field.value.type.node field.value.line
    accounted.top_isNode
  have plain : Node.target? ⟨.field field.value.name field.value.type.node, [],
      field.value.line⟩ = none := by
    cases field.value.type <;> rfl
  rw [plain] at more
  refine ⟨accounted.bottom, ?_⟩
  rw [length_addField]
  exact more.trans (perm_range_succ accounted.each)

/-- What is closed is no longer open, and is referred to from then on. -/
theorem leave {line : Nat} {tokens : List Token} {left : Left Scopes tokens}
    (closed : scopes.leave last line tokens = .ok left) : Accounted left.value := by
  obtain ⟨arena, stack⟩ := scopes
  obtain ⟨⟨inner, bottom⟩, each⟩ := accounted
  rcases stack with _ | ⟨done, _ | ⟨parent, below⟩⟩
  · cases closed
  · cases closed
  · have around : ∃ inner, parent :: below = inner ++ [0] := by
      cases inner with
      | nil => cases bottom
      | cons _ inner => exact ⟨inner, (List.cons.inj bottom).2⟩
    have isNode : parent < arena.length := List.mem_range.mp (each.subset (by simp))
    simp only [Scopes.leave] at closed
    split at closed
    · cases closed
      refine ⟨around, ?_⟩
      rw [length_attach]
      exact ((references_attach done isNode).append_left _).trans (List.perm_middle.trans each)
    · obtain ⟨name, -, closed⟩ := bind_eq_ok.mp closed
      obtain ⟨stop, -, closed⟩ := bind_eq_ok.mp closed
      cases closed
      have more := references_addField ⟨arena, parent :: below⟩ name.value (.inline done)
        (Arena.line arena done) isNode
      refine ⟨around, ?_⟩
      rw [length_addField]
      exact more.trans (perm_range_succ each)
    · cases closed
    · cases closed

theorem inSpecification {token : Token} {tokens : List Token} {left : Left Scopes tokens}
    (taken : scopes.inSpecification last token tokens = .ok left) : Accounted left.value := by
  rw [Scopes.inSpecification] at taken
  split at taken
  · cases taken
    exact accounted
  · split at taken
    · obtain ⟨head, -, taken⟩ := bind_eq_ok.mp taken
      split at taken
      · cases taken
        exact accounted.enter rfl _
      · obtain ⟨brace, -, taken⟩ := bind_eq_ok.mp taken
        cases taken
        exact accounted.enter rfl _
      · cases taken
    split at taken
    · obtain ⟨name, -, taken⟩ := bind_eq_ok.mp taken
      obtain ⟨brace, -, taken⟩ := bind_eq_ok.mp taken
      cases taken
      exact accounted.enter rfl _
    · cases taken
  · cases taken

theorem inStruct {token : Token} {tokens : List Token} {left : Left Scopes tokens}
    (taken : scopes.inStruct last token tokens = .ok left) : Accounted left.value := by
  rw [Scopes.inStruct] at taken
  split at taken
  · exact accounted.leave taken
  · exact accounted.readField taken
  · cases taken

theorem inUnion {token : Token} {tokens : List Token} {left : Left Scopes tokens}
    (taken : scopes.inUnion last token tokens = .ok left) : Accounted left.value := by
  rw [Scopes.inUnion] at taken
  split at taken
  · obtain ⟨stop, -, taken⟩ := bind_eq_ok.mp taken
    obtain ⟨inner, closed, taken⟩ := bind_eq_ok.mp taken
    cases taken
    exact (accounted.leave closed :)
  · split at taken
    · obtain ⟨brace, -, taken⟩ := bind_eq_ok.mp taken
      cases taken
      exact accounted.enter rfl _
    · exact accounted.readField taken
  · cases taken

/-- Every turn of the loop leaves each node open or referred to once. -/
theorem step {token : Token} {tokens : List Token} {left : Left Scopes tokens}
    (taken : scopes.step last token tokens = .ok left) : Accounted left.value := by
  rw [Scopes.step] at taken
  split at taken
  · exact accounted.inStruct taken
  · exact accounted.inUnion taken
  all_goals exact accounted.inSpecification taken

/-- **Nothing is left dangling or shared.** At the end of a text that is read, every node but the
specification is referred to, and that once. -/
theorem run {tokens : List Token} {arena : List Node}
    (read : scopes.run last tokens = .ok arena) :
    0 :: references arena ~ List.range arena.length := by
  induction total : tokens.length using Nat.strongRecOn generalizing tokens scopes with
  | _ size ih =>
    cases tokens with
    | nil =>
      obtain ⟨nodes, stack⟩ := scopes
      obtain ⟨⟨inner, rfl⟩, each⟩ := accounted
      rw [Scopes.run] at read
      rcases inner with _ | ⟨_, _ | ⟨_, _⟩⟩
      · cases read
        exact each
      · cases read
      · cases read
    | cons token rest =>
      rw [Scopes.run] at read
      obtain ⟨next, taken, read⟩ := bind_eq_ok.mp read
      have fewer := next.noMore
      simp only [List.length_cons] at total
      exact ih next.rest.length (by omega) (accounted.step taken) read rfl

end Accounted

end Scopes

end LapTelemetry.Spec
