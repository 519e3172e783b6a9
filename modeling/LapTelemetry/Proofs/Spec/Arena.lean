import Mathlib.Data.List.Flatten
import Mathlib.Data.List.Nodup
import Mathlib.Data.List.Perm.Basic
import LapTelemetry.Proofs.Spec.OpenScopes
import LapTelemetry.Proofs.Spec.Scopes

/-! # The arena of a text is a tree

The nodes of an arena hold each other's places. That each of them but the first is held once is kept
by the loop that reads the arena (`Scopes.Accounted`). What the others say of kinds and order follows
from the layout: the loop lays the nodes out as the rules of the grammar number them
(`ofTokens_arena`), and there a node stands among the others as its kind says (`Entry.IsPlaced`).

So the arena is a tree (`IsTree`). What refers to a node stands before it, or is a member of a union
that does, so the first node leads to all others (`IsTree.reached`). -/

namespace LapTelemetry.Spec

open scoped List

set_option autoImplicit false

/-! ## Places -/

/-- How a node stands among others: behind it and in their order its children, which are fields if
it is a body and none if it is a field; its type, if that is an inline struct, before it and behind
the union that it is a member of. -/
structure Entry.IsPlaced (entries : List Entry) (entry : Entry) : Prop where
  ordered : entry.number :: entry.node.children <+ entries.map Entry.number
  fields : entry.node.kind.isBody = true → ∀ number ∈ entry.node.children,
    ∃ child ∈ entries, child.number = number ∧ child.node.kind.isField = true
  leaf : entry.node.kind.isField = true → entry.node.children = []
  inline : ∀ target, entry.node.target? = some target →
    ∃ union ∈ entries, ∃ body ∈ entries, (∃ name, union.node.kind = .union name) ∧
      entry.number ∈ union.node.children ∧ body.number = target ∧ body.node.kind = .struct none ∧
        [union.number, target, entry.number] <+ entries.map Entry.number

theorem Entry.IsPlaced.mono {entries within : List Entry} {entry : Entry}
    (placed : entry.IsPlaced entries) (sublist : entries <+ within) : entry.IsPlaced within where
  ordered := placed.ordered.trans (sublist.map _)
  fields := by
    intro isBody number member
    obtain ⟨child, among, found⟩ := placed.fields isBody number member
    exact ⟨child, sublist.subset among, found⟩
  leaf := placed.leaf
  inline := by
    intro target isTarget
    obtain ⟨union, unionAmong, body, bodyAmong, isUnion, isMember, isNumber, isBody, ordered⟩ :=
      placed.inline target isTarget
    exact ⟨union, sublist.subset unionAmong, body, sublist.subset bodyAmong, isUnion, isMember,
      isNumber, isBody, ordered.trans (sublist.map _)⟩

theorem FieldDecl.target?_entry (decl : FieldDecl) : decl.entry.node.target? = none := by
  obtain ⟨index, line, name, type⟩ := decl
  cases type <;> rfl

theorem FieldDecl.isPlaced {decl : FieldDecl} {entries : List Entry}
    (among : decl.entry ∈ entries) : decl.entry.IsPlaced entries where
  ordered := List.singleton_sublist.mpr (List.mem_map_of_mem among)
  fields := by rintro ⟨⟩
  leaf := fun _ => rfl
  inline := by
    intro target isTarget
    rw [decl.target?_entry] at isTarget
    cases isTarget

theorem StructBody.isPlaced {name : Option String} {body : StructBody} {entry : Entry}
    (among : entry ∈ body.entries name) : entry.IsPlaced (body.entries name) := by
  rw [StructBody.entries] at among
  rcases List.mem_cons.mp among with rfl | isField
  · refine ⟨?_, ?_, by rintro ⟨⟩, by rintro target ⟨⟩⟩
    · rw [numbers_body]
    · rintro - number member
      obtain ⟨decl, declared, rfl⟩ := List.mem_map.mp member
      exact ⟨decl.entry, List.mem_cons_of_mem _ (List.mem_map_of_mem declared), rfl, rfl⟩
  · obtain ⟨decl, declared, rfl⟩ := List.mem_map.mp isField
    exact FieldDecl.isPlaced (List.mem_cons_of_mem _ isField)

theorem sublist_flatMap {α β : Type} {parts : List α} {part : α} (member : part ∈ parts)
    (entries : α → List β) : entries part <+ parts.flatMap entries := by
  have alone := (List.singleton_sublist.mpr member).flatMap entries
  rwa [List.flatMap_singleton] at alone

theorem Member.exists_head (member : Member) :
    ∃ entry ∈ member.entries, entry.number = member.number ∧ entry.node.kind.isField = true := by
  cases member with
  | field decl => exact ⟨decl.entry, List.mem_singleton_self _, rfl, rfl⟩
  | inline own name body => exact ⟨_, List.mem_append_right _ (List.mem_singleton_self _), rfl, rfl⟩

theorem Declaration.exists_head (declaration : Declaration) :
    ∃ entry ∈ declaration.entries, entry.number = declaration.number ∧
      entry.node.kind.isBody = true := by
  cases declaration with
  | struct name body => exact ⟨_, List.mem_cons_self, rfl, rfl⟩
  | union index line name members => exact ⟨_, List.mem_cons_self, rfl, rfl⟩

/-- The heads of parts side by side are found in them, in their order. -/
theorem heads_of_parts {α : Type} {number : α → Nat} {entries : α → List Entry}
    {holds : Entry → Prop}
    (head : ∀ part, ∃ entry ∈ entries part, entry.number = number part ∧ holds entry)
    (parts : List α) :
    parts.map number <+ (parts.flatMap entries).map Entry.number ∧
      ∀ n ∈ parts.map number, ∃ entry ∈ parts.flatMap entries, entry.number = n ∧ holds entry := by
  constructor
  · rw [List.map_eq_flatMap, List.map_flatMap]
    refine List.Sublist.flatMap_right parts fun part _ => List.singleton_sublist.mpr ?_
    obtain ⟨entry, among, same, -⟩ := head part
    exact same ▸ List.mem_map_of_mem among
  · intro n member
    obtain ⟨part, isPart, rfl⟩ := List.mem_map.mp member
    obtain ⟨entry, among, found⟩ := head part
    exact ⟨entry, List.mem_flatMap.mpr ⟨part, isPart, among⟩, found⟩

/-- The nodes of a member, behind the union that it is a member of. -/
theorem Member.isPlaced {union : Entry} {members : List Member} {member : Member} {entry : Entry}
    (isUnion : ∃ name, union.node.kind = .union name)
    (children : union.node.children = members.map Member.number) (isMember : member ∈ members)
    (among : entry ∈ member.entries) :
    entry.IsPlaced (union :: members.flatMap Member.entries) := by
  have within := sublist_flatMap isMember Member.entries
  have inside := (within.cons union).subset
  cases member with
  | field decl =>
    obtain rfl := List.mem_singleton.mp among
    exact FieldDecl.isPlaced (inside among)
  | inline own name body =>
    rcases List.mem_append.mp among with inBody | isOwn
    · have sublist := (List.sublist_append_left (body.entries none) _).trans within
      exact (StructBody.isPlaced inBody).mono (sublist.cons union)
    · obtain rfl := List.mem_singleton.mp isOwn
      refine ⟨?_, by rintro ⟨⟩, fun _ => rfl, ?_⟩
      · exact List.singleton_sublist.mpr (List.mem_map_of_mem (inside among))
      · rintro target ⟨⟩
        have isChild : own ∈ union.node.children := children ▸ List.mem_map_of_mem isMember
        have ends : [body.index, own] <+
            (Member.inline own name body).entries.map Entry.number := by
          rw [Member.entries, List.map_append, numbers_body]
          exact (List.sublist_append_right _ [own]).cons_cons body.index
        exact ⟨union, List.mem_cons_self, _, inside List.mem_cons_self, isUnion, isChild, rfl, rfl,
          (ends.trans (within.map _)).cons_cons union.number⟩

theorem Declaration.isPlaced {declaration : Declaration} {entry : Entry}
    (among : entry ∈ declaration.entries) : entry.IsPlaced declaration.entries := by
  cases declaration with
  | struct name body => exact StructBody.isPlaced among
  | union index line name members =>
    obtain ⟨ordered, found⟩ := heads_of_parts Member.exists_head members
    rw [Declaration.entries] at among ⊢
    rcases List.mem_cons.mp among with rfl | inside
    · refine ⟨ordered.cons_cons index, ?_, by rintro ⟨⟩, by rintro target ⟨⟩⟩
      intro _ number member
      obtain ⟨child, inside, isChild⟩ := found number member
      exact ⟨child, List.mem_cons_of_mem _ inside, isChild⟩
    · obtain ⟨member, isMember, inside⟩ := List.mem_flatMap.mp inside
      exact Member.isPlaced ⟨name, rfl⟩ rfl isMember inside

theorem Specification.isPlaced {specification : Specification} {entry : Entry}
    (among : entry ∈ specification.entries) : entry.IsPlaced specification.entries := by
  rw [Specification.entries] at among ⊢
  rcases List.mem_cons.mp among with rfl | inside
  · have ordered := (heads_of_parts Declaration.exists_head specification.declarations).1
    exact ⟨ordered.cons_cons 0, by rintro ⟨⟩, by rintro ⟨⟩, by rintro target ⟨⟩⟩
  · obtain ⟨declaration, isDeclared, inside⟩ := List.mem_flatMap.mp inside
    have within := sublist_flatMap isDeclared Declaration.entries
    exact (Declaration.isPlaced inside).mono (within.cons _)

/-! ## The arena -/

/-- Nodes that refer to each other by their places as the nodes of a tree do: the first is the
specification, its children are bodies, the children of bodies are fields, fields have none and an
inline struct is the type of a member of a union. -/
structure IsTree (arena : List Node) : Prop where
  root : ∃ node, arena[0]? = some node ∧ node.kind = .specification ∧
    ∀ child ∈ node.children, ∃ body, arena[child]? = some body ∧ body.kind.isBody = true
  fields : ∀ node ∈ arena, node.kind.isBody = true →
    ∀ child ∈ node.children, ∃ field, arena[child]? = some field ∧ field.kind.isField = true
  leaves : ∀ node ∈ arena, node.kind.isField = true → node.children = []
  inline : ∀ (id : Nat) (node : Node) (target : Nat), arena[id]? = some node →
    node.target? = some target →
      ∃ body above union name, arena[target]? = some body ∧ body.kind = .struct none ∧
        arena[above]? = some union ∧ union.kind = .union name ∧ id ∈ union.children ∧
          above < target ∧ target < id
  ascending : ∀ (id : Nat) (node : Node), arena[id]? = some node →
    (id :: node.children).Pairwise (· < ·)
  valid : ∀ node ∈ arena, ∀ id ∈ node.references, 0 < id ∧ id < arena.length
  referredOnce : ∀ id, 0 < id → id < arena.length →
    (references arena).count id = 1

/-- A node that the first node leads to. -/
inductive Reached (arena : List Node) : Nat → Prop where
  | root : Reached arena 0
  | step {id : Nat} {node : Node} {next : Nat} (before : Reached arena id)
      (here : arena[id]? = some node) (refers : next ∈ node.references) : Reached arena next

/-- In a tree the root leads to every node. -/
theorem IsTree.reached {arena : List Node} (tree : IsTree arena) {id : Nat}
    (within : id < arena.length) : Reached arena id := by
  induction id using Nat.strongRecOn with
  | _ id ih =>
    rcases Nat.eq_zero_or_pos id with rfl | positive
    · exact .root
    · have once := tree.referredOnce id positive within
      have member : id ∈ references arena := List.count_pos_iff.mp (by omega)
      obtain ⟨node, isNode, refers⟩ := List.mem_flatMap.mp member
      obtain ⟨place, here⟩ := List.getElem?_of_mem isNode
      have inArena : place < arena.length := (List.getElem?_eq_some_iff.mp here).1
      rcases List.mem_append.mp refers with isChild | isTarget
      · have earlier := (List.pairwise_cons.mp (tree.ascending place node here)).1 id isChild
        exact .step (ih place earlier inArena) here refers
      · -- The member that the struct is the type of comes later, but their union comes before both.
        obtain ⟨-, above, union, -, -, -, isUnion, -, isMember, earlier, -⟩ :=
          tree.inline place node id here (Option.mem_toList.mp isTarget)
        have first := ih above earlier (List.getElem?_eq_some_iff.mp isUnion).1
        exact .step (.step first isUnion (List.mem_append_left _ isMember)) here refers

/-- Nodes hold the places of all but the first node, each of them once. -/
theorem mem_references {arena : List Node} (whole : 0 :: references arena ~ List.range arena.length) :
    (references arena).Nodup ∧ ∀ id, id ∈ references arena ↔ 0 < id ∧ id < arena.length := by
  obtain ⟨notFirst, distinct⟩ := List.nodup_cons.mp (whole.nodup_iff.mpr List.nodup_range)
  refine ⟨distinct, fun id => ⟨fun member => ?_, fun ⟨positive, within⟩ => ?_⟩⟩
  · have within := List.mem_range.mp (whole.subset (List.mem_cons_of_mem 0 member))
    exact ⟨Nat.pos_of_ne_zero fun zero => notFirst (zero ▸ member), within⟩
  · have member := whole.symm.subset (List.mem_range.mpr within)
    exact (List.mem_cons.mp member).resolve_left (Nat.ne_of_gt positive)

section Tree

variable {specification : Specification}
  (numbered : specification.entries.map Entry.number = List.range specification.nodeCount)

include numbered

theorem number_of_place {place : Nat} {entry : Entry}
    (here : specification.entries[place]? = some entry) : entry.number = place := by
  have number : (specification.entries.map Entry.number)[place]? = some entry.number := by
    rw [List.getElem?_map, here, Option.map_some]
  rw [numbered] at number
  obtain ⟨within, same⟩ := List.getElem?_eq_some_iff.mp number
  rw [← same, List.getElem_range]

theorem place_of_entry {entry : Entry} (among : entry ∈ specification.entries) :
    specification.arena[entry.number]? = some entry.node := by
  obtain ⟨place, here⟩ := List.getElem?_of_mem among
  rw [number_of_place numbered here, Specification.arena, List.getElem?_map, here, Option.map_some]

theorem entry_of_place {id : Nat} {node : Node} (here : specification.arena[id]? = some node) :
    ⟨id, node⟩ ∈ specification.entries := by
  rw [Specification.arena, List.getElem?_map, Option.map_eq_some_iff] at here
  obtain ⟨entry, here, rfl⟩ := here
  obtain rfl := number_of_place numbered here
  exact List.mem_of_getElem? here

theorem isTree_of_numbered
    (whole : 0 :: references specification.arena ~ List.range specification.arena.length) :
    IsTree specification.arena where
  root := by
    refine ⟨_, rfl, rfl, fun child isChild => ?_⟩
    obtain ⟨body, among, same, isBody⟩ :=
      (heads_of_parts Declaration.exists_head specification.declarations).2 child isChild
    have here := place_of_entry numbered (List.mem_cons_of_mem _ among)
    exact ⟨body.node, same ▸ here, isBody⟩
  fields := by
    intro node isNode isBody child isChild
    obtain ⟨entry, among, rfl⟩ := List.mem_map.mp isNode
    obtain ⟨field, isAmong, rfl, isField⟩ :=
      (Specification.isPlaced among).fields isBody child isChild
    exact ⟨field.node, place_of_entry numbered isAmong, isField⟩
  leaves := by
    intro node isNode isField
    obtain ⟨entry, among, rfl⟩ := List.mem_map.mp isNode
    exact (Specification.isPlaced among).leaf isField
  inline := by
    intro id node target here isTarget
    obtain ⟨union, unionAmong, body, bodyAmong, ⟨name, isUnion⟩, isMember, rfl, isBody, ordered⟩ :=
      (Specification.isPlaced (entry_of_place numbered here)).inline target isTarget
    have ascending := List.pairwise_lt_range.sublist (numbered ▸ ordered)
    simp only [List.pairwise_cons, List.mem_cons] at ascending
    exact ⟨body.node, union.number, union.node, name, place_of_entry numbered bodyAmong, isBody,
      place_of_entry numbered unionAmong, isUnion, isMember, ascending.1 _ (.inl rfl),
      ascending.2.1 _ (.inl rfl)⟩
  ascending := by
    intro id node here
    have ordered := (Specification.isPlaced (entry_of_place numbered here)).ordered
    exact List.pairwise_lt_range.sublist (numbered ▸ ordered)
  valid := by
    intro node isNode id refers
    exact ((mem_references whole).2 id).mp (List.mem_flatMap.mpr ⟨node, isNode, refers⟩)
  referredOnce := by
    intro id positive within
    obtain ⟨distinct, places⟩ := mem_references whole
    exact List.count_eq_one_of_mem distinct ((places id).mpr ⟨positive, within⟩)

end Tree

/-- **What a text spells is a tree.** The nodes that the loop allocates and attaches while it reads
a text refer to each other as those of a tree do: every node but the root is referred to once, and
all of them are reached from the root. -/
theorem ofText_isTree {text : List Char} {arena : List Node}
    (accepted : Arena.ofText text = .ok arena) :
    IsTree arena ∧ ∀ id < arena.length, Reached arena id := by
  have whole := Scopes.Accounted.start.run accepted
  rw [ofText_arena] at accepted
  cases read : Specification.ofText text with
  | error fault =>
    rw [read] at accepted
    cases accepted
  | ok specification =>
    rw [read] at accepted
    cases accepted
    have tree := isTree_of_numbered (numbers_ofTokens read) whole
    exact ⟨tree, fun id within => tree.reached within⟩

/-- A union with an inline struct and an array, and a struct without a name. -/
def unionText : String := "union u \x7b
  struct \x7b a b; \x7d c;
  d e[2];
\x7d; struct \x7b f g; \x7d"

def unionNodes : List Node :=
  [⟨.specification, [1, 6], 1⟩, ⟨.union "u", [4, 5], 1⟩, ⟨.struct none, [3], 2⟩,
    ⟨.field "b" (.named "a"), [], 2⟩, ⟨.field "c" (.inline 2), [], 2⟩,
    ⟨.field "e" (.array "d" 2), [], 3⟩, ⟨.struct none, [7], 4⟩, ⟨.field "g" (.named "f"), [], 4⟩]

theorem ofText_isTree_union :
    Arena.ofText unionText.toList = .ok unionNodes ∧ IsTree unionNodes ∧
      ∀ id < unionNodes.length, Reached unionNodes id := by
  have accepted : Arena.ofText unionText.toList = .ok unionNodes := by decide +kernel
  exact ⟨accepted, ofText_isTree accepted⟩

end LapTelemetry.Spec
