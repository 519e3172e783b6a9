import LapTelemetry.Spec.Scopes
import LapTelemetry.Proofs.Spec.Numbering

/-! # The loop over scopes and the rules of the grammar

The loop that reads an arena and the rules that read declarations do the same: the arena has the
nodes of the specification, each at the place of its number, and a text that the one refuses the
other refuses with the same fault (`ofTokens_arena`).

Between two turns of the loop the arena is made of the nodes of the scopes that are open, one scope
behind the other, each scope with what it has read so far. `Scopes.within` puts the entries of the
innermost scope behind all that stands before it, and each way to change the scopes is one equation
about it. A rule that reads to the end of a scope is then the loop up to the token that closes the
scope, whatever is done afterwards. -/

namespace LapTelemetry.Spec

set_option autoImplicit false

/-! ## Open scopes -/

/-- The nodes of entries. -/
def nodes (entries : List Entry) : List Node := entries.map Entry.node

theorem nodes_append (entries others : List Entry) :
    nodes (entries ++ others) = nodes entries ++ nodes others := List.map_append

@[simp] theorem length_nodes (entries : List Entry) : (nodes entries).length = entries.length :=
  List.length_map ..

/-- An entry with one child more. -/
def Entry.adopt (entry : Entry) (child : Nat) : Entry :=
  { entry with node := { entry.node with children := entry.node.children ++ [child] } }

section Scope

variable (front : List Node) (head : Entry) (inside : List Entry)

theorem kind_scope :
    Arena.kind (front ++ nodes (head :: inside)) front.length = head.node.kind := by
  simp [Arena.kind, nodes]

theorem line_scope :
    Arena.line (front ++ nodes (head :: inside)) front.length = head.node.line := by
  simp [Arena.line, nodes]

theorem nodes_scope (others : List Entry) :
    front ++ nodes (head :: inside) ++ nodes others =
      front ++ nodes (head :: (inside ++ others)) := by
  rw [List.append_assoc, ← nodes_append, List.cons_append]

theorem attach_scope (child : Nat) :
    Arena.attach (front ++ nodes (head :: inside)) front.length child =
      front ++ nodes (head.adopt child :: inside) := by
  rw [Arena.attach, List.modify_eq_take_cons_drop (by simp [nodes])]
  simp [nodes, Entry.adopt]

end Scope

namespace Scopes

/-- The innermost scope with its entries, behind the nodes and on top of the scopes around it. -/
def within (front : List Node) (below : List Nat) (entries : List Entry) : Scopes :=
  ⟨front ++ nodes entries, front.length :: below⟩

variable (front : List Node) (below : List Nat) (head : Entry) (inside : List Entry)

theorem addField_within (name : String) (type : NodeType) (line number : Nat)
    (next : number = front.length + (inside.length + 1)) :
    (within front below (head :: inside)).addField name type line =
      within front below (head.adopt number :: inside ++ [⟨number, .field name type, [], line⟩]) := by
  subst next
  have grown : front ++ nodes (head :: inside) ++ [⟨.field name type, [], line⟩] =
      front ++ nodes (head :: (inside ++ [⟨0, .field name type, [], line⟩])) :=
    nodes_scope front head inside [⟨0, .field name type, [], line⟩]
  simp only [addField, within, Arena.alloc, top, List.headD_cons, grown, attach_scope]
  simp [nodes]

/-- The turns of the loop after one. -/
def goOn (last : Nat) {tokens : List Token} (left : Left Scopes tokens) :
    Except Fault (List Node) := left.value.run last left.rest

theorem run_cons (last : Nat) (scopes : Scopes) (token : Token) (tokens : List Token) :
    scopes.run last (token :: tokens) = scopes.step last token tokens >>= goOn last := by
  rw [run]
  rfl

theorem kind_top : Arena.kind (within front below (head :: inside)).arena
    (within front below (head :: inside)).top = head.node.kind :=
  kind_scope front head inside

/-- A text does not end in a scope that is inside another. -/
theorem finish_within (last outer : Nat) :
    (within front (outer :: below) (head :: inside)).finish last =
      refuse last (.unclosed head.node.kind.scopeName?) := by
  rw [← kind_scope front head inside]
  rfl

/-- A closed scope stands in the specification around it. -/
theorem leave_specification (inner : Entry) (nested : List Entry)
    (isRoot : head.node.kind = .specification) (last line number : Nat) (tokens : List Token)
    (next : number = front.length + (inside.length + 1)) :
    (within (front ++ nodes (head :: inside)) (front.length :: below) (inner :: nested)).leave
        last line tokens >>= goOn last =
      (within front below (head.adopt number :: (inside ++ inner :: nested))).run last tokens := by
  subst next
  simp only [leave, within, nodes_scope, kind_scope, isRoot, attach_scope]
  simp [nodes, bind, Except.bind, goOn]

/-- A closed struct stands in the union around it, in front of the member that it is the type of. -/
theorem leave_union (inner : Entry) (nested : List Entry) {unionName : String}
    (isUnion : head.node.kind = .union unionName) (last line number own : Nat)
    (tokens : List Token) (this : number = front.length + (inside.length + 1))
    (next : own = number + (nested.length + 1)) :
    (within (front ++ nodes (head :: inside)) (front.length :: below) (inner :: nested)).leave
        last line tokens >>= goOn last =
      (do
        let name ← word last .memberName tokens
        let stop ← exactly last .semicolon name.rest
        (within front below (head.adopt own :: (inside ++ inner :: nested) ++
          [⟨own, .field name.value (.inline number), [], inner.node.line⟩])).run last stop.rest) := by
  subst this
  have lineOf : Arena.line (front ++ nodes (head :: (inside ++ inner :: nested)))
      (front ++ nodes (head :: inside)).length = inner.node.line := by
    rw [← nodes_scope, line_scope]
  simp only [leave, within, nodes_scope, kind_scope, isUnion, bind_assoc, pure_bind, lineOf]
  refine bind_congr fun name => bind_congr fun stop => ?_
  have added := addField_within front below head (inside ++ inner :: nested) name.value
    (.inline (front ++ nodes (head :: inside)).length) inner.node.line own (by
      rw [next, List.length_append, List.length_cons]; omega)
  rw [within] at added
  rw [goOn, added, List.length_append, length_nodes, List.length_cons]
  rfl

/-! ## Bodies of structs -/

/-- The body of a struct, with what it has been read to hold. -/
def ofBody (front : List Node) (below : List Nat) (name : Option String) (line : Nat)
    (fields : List FieldDecl) : Scopes :=
  within front below (StructBody.entries name ⟨front.length, line, fields⟩)

theorem addField_ofBody {name : Option String} {line : Nat} {fields : List FieldDecl}
    {decl : FieldDecl} (next : decl.index = front.length + (fields.length + 1)) :
    (ofBody front below name line fields).addField decl.name decl.type.node decl.line =
      ofBody front below name line (fields ++ [decl]) := by
  have added := addField_within front below ⟨front.length, .struct name, fields.map (·.index), line⟩
    (fields.map FieldDecl.entry) decl.name decl.type.node decl.line decl.index
    (by rw [List.length_map, next])
  simp only [ofBody, StructBody.entries, List.map_append]
  exact added

/-- A field behind its type is read alike, and the loop goes on behind it. -/
theorem readField_goOn (last : Nat) (scopes : Scopes) (type : String) (line : Nat)
    (tokens : List Token) :
    scopes.readField last type line tokens >>= goOn last =
      (do
        let field ← fieldAfter last scopes.arena.length type line tokens
        (scopes.addField field.value.name field.value.type.node field.value.line).run last
          field.rest) := by
  rw [readField, bind_assoc]
  rfl

/-- The loop in the body of a struct reads fields, up to the brace that closes the body. -/
theorem run_ofBody {last line outer : Nat} {name : Option String}
    {after : List FieldDecl → List Token → Except Fault (List Node)}
    (closes : ∀ fields brace rest,
      (ofBody front (outer :: below) name line fields).leave last brace rest >>= goOn last =
        after fields rest)
    {index : Nat} (fields : List FieldDecl) (tokens : List Token)
    (count : index = front.length + (fields.length + 1)) :
    (ofBody front (outer :: below) name line fields).run last tokens = (do
      let parsed ← structFields last name index tokens
      after (fields ++ parsed.value.1) parsed.rest) := by
  -- On the number of tokens: the loop goes on behind a whole field.
  induction total : tokens.length using Nat.strongRecOn generalizing tokens index fields with
  | _ size ih =>
    cases tokens with
    | nil =>
      rw [run, structFields, ofBody, StructBody.entries, finish_within]
      rfl
    | cons token rest =>
      obtain ⟨kind, brace⟩ := token
      have isStruct : Arena.kind (ofBody front (outer :: below) name line fields).arena
          (ofBody front (outer :: below) name line fields).top = .struct name := kind_top ..
      rw [run_cons, step, isStruct]
      cases kind with
      | closeBrace =>
        rw [structFields]
        simp only [inStruct, closes]
        exact congrArg (after · rest) (List.append_nil fields).symm
      | word type =>
        have free : (ofBody front (outer :: below) name line fields).arena.length = index := by
          simp [ofBody, within, StructBody.entries, count]
        rw [structFields]
        simp only [inStruct, readField_goOn, free, bind_assoc, pure_bind]
        refine bind_eq_bind fun first read => ?_
        have own := (index_of_fieldAfter read).trans count
        have later := @ih _ (first.fewer total) (index + 1) (fields ++ [first.value]) first.rest
          (by rw [List.length_append, List.length_singleton]; omega) rfl
        rw [addField_ofBody front _ own, later]
        simp only [List.append_assoc, List.singleton_append]
      | semicolon | openBracket | closeBracket | openBrace =>
        rw [structFields]
        rfl

/-- A body that has just been opened. -/
theorem run_enter_struct {last : Nat} (line : Nat) (name : Option String) (entries : List Entry)
    {after : List FieldDecl → List Token → Except Fault (List Node)}
    (closes : ∀ fields brace rest,
      (ofBody (front ++ nodes entries) (front.length :: below) name line fields).leave
        last brace rest >>= goOn last = after fields rest)
    {index : Nat} (tokens : List Token) (count : index = front.length + entries.length) :
    ((within front below entries).enter (.struct name) line).run last tokens = (do
      let parsed ← structFields last name (index + 1) tokens
      after parsed.value.1 parsed.rest) := by
  have place : index + 1 = (front ++ nodes entries).length + 1 := by simp [count]
  exact run_ofBody _ _ closes [] tokens place

/-! ## Bodies of unions -/

/-- The body of a union, with the members that it has been read to hold. -/
def ofUnion (front : List Node) (below : List Nat) (name : String) (line : Nat)
    (members : List Member) : Scopes :=
  within front below (Declaration.union front.length line name members).entries

/-- How many nodes stand in front of the next member of a union. -/
def placeInUnion (front : List Node) (members : List Member) : Nat :=
  front.length + ((members.flatMap Member.entries).length + 1)

theorem placeInUnion_append (members : List Member) (member : Member) :
    placeInUnion front (members ++ [member]) =
      placeInUnion front members + member.entries.length := by
  simp only [placeInUnion, List.flatMap_append, List.flatMap_singleton, List.length_append]
  omega

variable (unionName : String) (line : Nat) (members : List Member)

theorem length_ofUnion :
    (ofUnion front below unionName line members).arena.length = placeInUnion front members := by
  simp [ofUnion, within, Declaration.entries, placeInUnion]

theorem addField_ofUnion {decl : FieldDecl} (next : decl.index = placeInUnion front members) :
    (ofUnion front below unionName line members).addField decl.name decl.type.node decl.line =
      ofUnion front below unionName line (members ++ [.field decl]) := by
  have added := addField_within front below
    ⟨front.length, .union unionName, members.map Member.number, line⟩
    (members.flatMap Member.entries) decl.name decl.type.node decl.line decl.index next
  simp only [ofUnion, Declaration.entries, List.map_append, List.flatMap_append,
    List.flatMap_singleton]
  exact added

/-- The body of an inline struct is closed, and the name of its member follows. -/
theorem leave_ofUnion (last inlineLine : Nat) (fields : List FieldDecl) (brace : Nat)
    (tokens : List Token) :
    (ofBody (ofUnion front below unionName line members).arena (front.length :: below) none
        inlineLine fields).leave last brace tokens >>= goOn last =
      (do
        let name ← word last .memberName tokens
        let stop ← exactly last .semicolon name.rest
        (ofUnion front below unionName line (members ++
          [.inline (placeInUnion front members + (fields.length + 1)) name.value
            ⟨placeInUnion front members, inlineLine, fields⟩])).run last stop.rest) := by
  have left := leave_union front below
    ⟨front.length, .union unionName, members.map Member.number, line⟩
    (members.flatMap Member.entries)
    ⟨placeInUnion front members, .struct none, fields.map (·.index), inlineLine⟩
    (fields.map FieldDecl.entry) rfl last brace (placeInUnion front members)
    (placeInUnion front members + (fields.length + 1)) tokens rfl (by rw [List.length_map])
  rw [ofBody, StructBody.entries, length_ofUnion]
  refine left.trans (bind_congr fun name => bind_congr fun stop => ?_)
  simp only [ofUnion, Declaration.entries, List.map_append, List.flatMap_append,
    List.flatMap_singleton]
  rw [List.cons_append, List.append_assoc]
  rfl

/-- A member is read alike, and the loop goes on behind it. -/
theorem goOn_member (last startLine : Nat) (type : String) (tokens : List Token) :
    (ofUnion front below unionName line members).inUnion last ⟨.word type, startLine⟩ tokens >>=
        goOn last =
      (do
        let member ← memberAfter last (placeInUnion front members) type startLine tokens
        (ofUnion front below unionName line (members ++ [member.value.1])).run last
          member.rest) := by
  rw [memberAfter]
  by_cases inline : type = "struct"
  · simp only [inUnion, inline, if_true, inlineStruct, bind_assoc, pure_bind]
    refine bind_congr fun start => ?_
    refine (run_enter_struct front below startLine none _
      (leave_ofUnion front below unionName line members last startLine) start.rest
      (show placeInUnion front members = _ from rfl)).trans ?_
    refine bind_eq_bind fun body bodyRead => ?_
    have own : body.value.2 = placeInUnion front members + (body.value.1.length + 1) := by
      rw [(numbered_structFields bodyRead).next_eq, List.length_map, Nat.add_assoc, Nat.add_comm 1]
    rw [own]
  · simp only [inUnion, if_neg inline, readField_goOn, length_ofUnion, bind_assoc, pure_bind]
    refine bind_eq_bind fun field read => ?_
    rw [addField_ofUnion front below unionName line members (index_of_fieldAfter read)]

/-- The loop in the body of a union reads members, up to the brace and the semicolon that close the
body. -/
theorem run_ofUnion {last outer : Nat} {after : List Member → List Token → Except Fault (List Node)}
    (closes : ∀ members brace rest,
      (ofUnion front (outer :: below) unionName line members).leave last brace rest >>= goOn last =
        after members rest)
    {index : Nat} (tokens : List Token) (count : index = placeInUnion front members) :
    (ofUnion front (outer :: below) unionName line members).run last tokens = (do
      let parsed ← unionMembers last unionName index tokens
      after (members ++ parsed.value.1) parsed.rest) := by
  induction total : tokens.length using Nat.strongRecOn generalizing tokens index members with
  | _ size ih =>
    cases tokens with
    | nil =>
      rw [run, unionMembers, ofUnion, Declaration.entries, finish_within]
      rfl
    | cons token rest =>
      obtain ⟨kind, brace⟩ := token
      have isUnion : Arena.kind (ofUnion front (outer :: below) unionName line members).arena
          (ofUnion front (outer :: below) unionName line members).top = .union unionName :=
        kind_top ..
      rw [run_cons, step, isUnion]
      cases kind with
      | closeBrace =>
        rw [unionMembers]
        simp only [inUnion, bind_assoc, pure_bind]
        refine bind_congr fun stop => ?_
        rw [List.append_nil, ← closes members brace stop.rest]
        rfl
      | word type =>
        subst count
        simp only [goOn_member, unionMembers_word, bind_assoc, pure_bind]
        refine bind_eq_bind fun first read => ?_
        have next : first.value.2 = placeInUnion front (members ++ [first.value.1]) := by
          rw [placeInUnion_append, (numbered_memberAfter read).next_eq, List.length_map]
        rw [@ih _ (first.fewer total) (members ++ [first.value.1]) first.value.2 first.rest next rfl]
        simp only [List.append_assoc, List.singleton_append]
      | semicolon | openBracket | closeBracket | openBrace =>
        rw [unionMembers]
        rfl

/-- A body that has just been opened. -/
theorem run_enter_union {last : Nat} (entries : List Entry)
    {after : List Member → List Token → Except Fault (List Node)}
    (closes : ∀ members brace rest,
      (ofUnion (front ++ nodes entries) (front.length :: below) unionName line members).leave
        last brace rest >>= goOn last = after members rest)
    {index : Nat} (tokens : List Token) (count : index = front.length + entries.length) :
    ((within front below entries).enter (.union unionName) line).run last tokens = (do
      let parsed ← unionMembers last unionName (index + 1) tokens
      after parsed.value.1 parsed.rest) := by
  have place : index + 1 = placeInUnion (front ++ nodes entries) [] := by
    simp [placeInUnion, count]
  exact run_ofUnion _ _ unionName line [] closes tokens place

/-! ## Declarations -/

/-- A specification, with the declarations that it has been read to hold. -/
def ofDeclared (declared : List Declaration) : Scopes :=
  within [] [] (Specification.entries ⟨declared, 0⟩)

/-- How many nodes stand in front of the next declaration. -/
def placeInSpecification (declared : List Declaration) : Nat :=
  (declared.flatMap Declaration.entries).length + 1

theorem placeInSpecification_append (declared : List Declaration) (declaration : Declaration) :
    placeInSpecification (declared ++ [declaration]) =
      placeInSpecification declared + declaration.entries.length := by
  simp only [placeInSpecification, List.flatMap_append, List.flatMap_singleton, List.length_append]
  omega

theorem length_ofDeclared (declared : List Declaration) :
    (ofDeclared declared).arena.length = placeInSpecification declared := by
  simp [ofDeclared, within, Specification.entries, placeInSpecification]

/-- A closed struct or union stands in the specification. -/
theorem leave_ofDeclared (last : Nat) (declared : List Declaration) (declaration : Declaration)
    {head : Entry} {nested : List Entry} (entries : declaration.entries = head :: nested)
    (number : declaration.number = placeInSpecification declared) (brace : Nat)
    (tokens : List Token) :
    (within (ofDeclared declared).arena [0] declaration.entries).leave last brace tokens >>=
        goOn last = (ofDeclared (declared ++ [declaration])).run last tokens := by
  have left := leave_specification [] [] ⟨0, .specification, declared.map Declaration.number, 1⟩
    (declared.flatMap Declaration.entries) head nested rfl last brace declaration.number tokens
    (by rw [number, placeInSpecification, List.length_nil, Nat.zero_add])
  rw [entries]
  refine left.trans ?_
  simp only [ofDeclared, Specification.entries, List.map_append, List.flatMap_append,
    List.flatMap_singleton, entries]
  rfl

theorem run_struct (last startLine : Nat) (name : Option String) (declared : List Declaration)
    (tokens : List Token) :
    ((ofDeclared declared).enter (.struct name) startLine).run last tokens =
      (do
        let body ← structFields last name (placeInSpecification declared + 1) tokens
        (ofDeclared (declared ++
          [.struct name ⟨placeInSpecification declared, startLine, body.value.1⟩])).run last
            body.rest) := by
  have closes (fields : List FieldDecl) (brace : Nat) (rest : List Token) :
      (ofBody (ofDeclared declared).arena [0] name startLine fields).leave last brace rest >>=
          goOn last =
        (ofDeclared (declared ++
          [.struct name ⟨placeInSpecification declared, startLine, fields⟩])).run last rest := by
    rw [ofBody, length_ofDeclared]
    exact leave_ofDeclared last declared
      (.struct name ⟨placeInSpecification declared, startLine, fields⟩) rfl rfl brace rest
  exact run_enter_struct [] [] startLine name _ closes tokens (Nat.zero_add _).symm

theorem run_union (last startLine : Nat) (name : String) (declared : List Declaration)
    (tokens : List Token) :
    ((ofDeclared declared).enter (.union name) startLine).run last tokens =
      (do
        let body ← unionMembers last name (placeInSpecification declared + 1) tokens
        (ofDeclared (declared ++
          [.union (placeInSpecification declared) startLine name body.value.1])).run last
            body.rest) := by
  have closes (members : List Member) (brace : Nat) (rest : List Token) :
      (ofUnion (ofDeclared declared).arena [0] name startLine members).leave last brace rest >>=
          goOn last =
        (ofDeclared (declared ++
          [.union (placeInSpecification declared) startLine name members])).run last rest := by
    rw [ofUnion, length_ofDeclared]
    exact leave_ofDeclared last declared
      (.union (placeInSpecification declared) startLine name members) rfl rfl brace rest
  exact run_enter_union [] [] name startLine _ closes tokens (Nat.zero_add _).symm

/-- A declaration is read alike, and the loop goes on behind it. -/
theorem goOn_declaration (last startLine : Nat) (declared : List Declaration) (text : String)
    (tokens : List Token) :
    (ofDeclared declared).inSpecification last ⟨.word text, startLine⟩ tokens >>= goOn last =
      (do
        let declaration ← declarationAfter last (placeInSpecification declared) text startLine tokens
        (ofDeclared (declared ++ [declaration.value.1])).run last declaration.rest) := by
  rw [declarationAfter]
  by_cases isStruct : text = "struct"
  · simp only [inSpecification, if_pos isStruct, structAfter, bind_assoc]
    refine bind_congr fun head => ?_
    cases found : head.value.kind with
    | openBrace =>
      simp only [bind_assoc, pure_bind]
      exact run_struct last startLine none declared head.rest
    | word name =>
      simp only [bind_assoc, pure_bind]
      exact bind_congr fun start => run_struct last startLine (some name) declared start.rest
    | semicolon | openBracket | closeBracket | closeBrace => rfl
  by_cases isUnion : text = "union"
  · simp only [inSpecification, if_neg isStruct, if_pos isUnion, unionAfter, bind_assoc, pure_bind]
    exact bind_congr fun name => bind_congr fun start =>
      run_union last startLine name.value declared start.rest
  · simp only [inSpecification, if_neg isStruct, if_neg isUnion]
    rfl

/-- The loop outside all bodies reads declarations to the end of the text. -/
theorem run_ofDeclared (last : Nat) (declared : List Declaration) (tokens : List Token) :
    (ofDeclared declared).run last tokens =
      (do
        let (others, next) ← declarationList last (placeInSpecification declared) tokens
        return Specification.arena ⟨declared ++ others, next⟩) := by
  induction total : tokens.length using Nat.strongRecOn generalizing tokens declared with
  | _ size ih =>
    cases tokens with
    | nil =>
      rw [run, declarationList]
      exact congrArg (fun whole => Except.ok (Specification.arena ⟨whole, 0⟩))
        (List.append_nil declared).symm
    | cons token rest =>
      obtain ⟨kind, line⟩ := token
      have isRoot : Arena.kind (ofDeclared declared).arena (ofDeclared declared).top =
          .specification := kind_top ..
      rw [run_cons, step, isRoot]
      cases kind with
      | semicolon =>
        rw [declarationList]
        exact ih _ (by simp only [List.length_cons] at total; omega) declared rest rfl
      | word text =>
        simp only [goOn_declaration, declarationList_word, bind_assoc, pure_bind]
        refine bind_eq_bind fun first read => ?_
        have next : first.value.2 = placeInSpecification (declared ++ [first.value.1]) := by
          rw [placeInSpecification_append, (numbered_declarationAfter read).next_eq,
            List.length_map]
        rw [ih _ (first.fewer total) (declared ++ [first.value.1]) first.rest rfl, next]
        simp only [List.append_assoc, List.singleton_append]
      | openBracket | closeBracket | openBrace | closeBrace =>
        rw [declarationList]
        rfl

end Scopes

/-- **The loop and the rules read alike.** For all tokens the loop gives the nodes of the
specification that the rules give, in the order of their numbers, or the fault that they give. -/
theorem ofTokens_arena (tokens : List Token) :
    Arena.ofTokens tokens = (Specification.ofTokens tokens).map Specification.arena := by
  have read : Arena.ofTokens tokens = _ := Scopes.run_ofDeclared (lastLine tokens) [] tokens
  rw [read, Specification.ofTokens]
  change _ = (declarationList (lastLine tokens) 1 tokens >>= _).map _
  exact bind_eq_map fun _ => rfl

theorem ofText_arena (text : List Char) :
    Arena.ofText text = (Specification.ofText text).map Specification.arena :=
  ofTokens_arena (Token.ofText (blankTrivia text))

end LapTelemetry.Spec
