import LapTelemetry.Proofs.Outcome
import LapTelemetry.Proofs.Spec.Grammar

/-! # The specifications that are read are those of the grammar

`Recognizes` says of a rule of the reader that it does what a rule of the grammar
says: what it takes from the front of the tokens is derivable and stands for what it
returns, and where something derivable is in front it takes that and succeeds. Each
rule of the reader recognizes its rule of the grammar, whatever the line of the last
token and the node numbers are, which reach only faults and numbers. What holds of all
that a repetition reads is proved by `structFields_induction` and its like.

Declarations go to the end of the text, so the reader accepts tokens iff they are a
specification, and it has one tree for them (`ofTokens_iff_isSpecification`). -/

namespace LapTelemetry.Spec

open LapTelemetry.Number LapTelemetry.Text

set_option autoImplicit false

/-! ## Tokens and faults -/

/-- The lexical units of tokens, without their lines. -/
def kinds (tokens : List Token) : List TokenKind := tokens.map (·.kind)

@[simp] theorem kinds_cons (token : Token) (rest : List Token) :
    kinds (token :: rest) = token.kind :: kinds rest := rfl

theorem kinds_eq_cons {tokens : List Token} {kind : TokenKind} {tail : List TokenKind}
    (split : kinds tokens = kind :: tail) :
    ∃ line rest, tokens = ⟨kind, line⟩ :: rest ∧ kinds rest = tail := by
  obtain ⟨token, rest, rfl, rfl, rest_kinds⟩ := List.map_eq_cons_iff.mp split
  exact ⟨token.line, rest, rfl, rest_kinds⟩

/-! ## Rules of the reader -/

/-- Behind what is read after a token there are fewer tokens than with it. -/
theorem Parsed.fewer {α : Type} {token : Token} {rest : List Token} (parsed : Parsed α rest)
    {count : Nat} (total : (token :: rest).length = count) : parsed.rest.length < count := by
  have := parsed.shorter
  simp only [List.length_cons] at total
  omega

/-- A rule of the reader does what a rule of the grammar says, on the trees that
`view` shows. -/
structure Recognizes {α β : Type} {tokens : List Token} (derives : List TokenKind → β → Prop)
    (view : α → β) (result : Except Fault (Parsed α tokens)) : Prop where
  sound : ∀ parsed, result = .ok parsed →
    ∃ front, kinds tokens = front ++ kinds parsed.rest ∧ derives front (view parsed.value)
  complete : ∀ front tail value, kinds tokens = front ++ tail → derives front value →
    ∃ parsed, result = .ok parsed ∧ view parsed.value = value ∧ kinds parsed.rest = tail

theorem kinds_of_nextToken {last : Nat} {expected : Expected} {tokens : List Token}
    {parsed : Parsed Token tokens} (read : nextToken last expected tokens = .ok parsed) :
    kinds tokens = parsed.value.kind :: kinds parsed.rest := by
  cases tokens with
  | nil => cases read
  | cons token rest =>
    cases read
    rfl

theorem recognizes_exactly (last : Nat) (kind : TokenKind) (tokens : List Token) :
    Recognizes (fun front (_ : Unit) => front = [kind]) (fun done => done)
      (exactly last kind tokens) := by
  constructor
  · intro parsed read
    obtain ⟨token, next, read⟩ := bind_eq_ok.mp read
    by_cases same : token.value.kind = kind
    · rw [if_pos same] at read
      cases read
      refine ⟨[kind], ?_, rfl⟩
      rw [kinds_of_nextToken next, same]
      rfl
    · rw [if_neg same] at read
      cases read
  · rintro front tail value split rfl
    obtain ⟨line, rest, rfl, rest_kinds⟩ := kinds_eq_cons split
    exact ⟨⟨(), rest, by simp⟩, if_pos rfl, rfl, rest_kinds⟩

theorem recognizes_word (last : Nat) (expected : Expected) (tokens : List Token) :
    Recognizes (fun front text => front = [.word text]) (fun text => text)
      (word last expected tokens) := by
  constructor
  · intro parsed read
    obtain ⟨token, next, read⟩ := bind_eq_ok.mp read
    split at read
    · rename_i text spelled
      cases read
      refine ⟨[.word text], ?_, rfl⟩
      rw [kinds_of_nextToken next, spelled]
      rfl
    · cases read
  · rintro front tail text split rfl
    obtain ⟨line, rest, rfl, rest_kinds⟩ := kinds_eq_cons split
    exact ⟨⟨text, rest, by simp⟩, rfl, rfl, rest_kinds⟩

theorem recognizes_fieldAfter (last index : Nat) (type : String) (line : Nat)
    (tokens : List Token) :
    Recognizes (fun front => IsField (.word type :: front)) FieldDecl.outline
      (fieldAfter last index type line tokens) := by
  constructor
  · intro parsed read
    rw [fieldAfter] at read
    obtain ⟨name, named, read⟩ := bind_eq_ok.mp read
    obtain ⟨mark, marked, read⟩ := bind_eq_ok.mp read
    obtain ⟨_, name_kinds, rfl⟩ := (recognizes_word ..).sound name named
    have mark_kinds := kinds_of_nextToken marked
    dsimp only at read
    split at read
    · rename_i semicolon
      cases read
      refine ⟨[.word name.value, .semicolon], ?_, .named type name.value⟩
      rw [name_kinds, mark_kinds, semicolon]
      rfl
    · rename_i bracket
      obtain ⟨size, sized, read⟩ := bind_eq_ok.mp read
      obtain ⟨_, size_kinds, rfl⟩ := (recognizes_word ..).sound size sized
      split at read
      · cases read
      · rename_i length spelled
        obtain ⟨close, closed, read⟩ := bind_eq_ok.mp read
        obtain ⟨stop, stopped, read⟩ := bind_eq_ok.mp read
        obtain ⟨_, close_kinds, rfl⟩ := (recognizes_exactly ..).sound close closed
        obtain ⟨_, stop_kinds, rfl⟩ := (recognizes_exactly ..).sound stop stopped
        cases read
        refine ⟨[.word name.value, .openBracket, .word size.value, .closeBracket, .semicolon], ?_,
          .array type name.value (arrayLength?_eq_some_iff.mp spelled)⟩
        rw [name_kinds, mark_kinds, bracket, size_kinds, close_kinds, stop_kinds]
        rfl
    · cases read
  · intro front tail field split derived
    cases derived with
    | named type name =>
      obtain ⟨_, _, rfl, after_name⟩ := kinds_eq_cons split
      obtain ⟨_, rest, rfl, rest_kinds⟩ := kinds_eq_cons after_name
      exact ⟨⟨⟨index, line, name, .named type⟩, rest, by simp only [List.length_cons]; omega⟩,
        rfl, rfl, rest_kinds⟩
    | @array type name text length spells =>
      obtain ⟨_, _, rfl, after_name⟩ := kinds_eq_cons split
      obtain ⟨_, _, rfl, after_bracket⟩ := kinds_eq_cons after_name
      obtain ⟨_, _, rfl, after_length⟩ := kinds_eq_cons after_bracket
      obtain ⟨_, _, rfl, after_close⟩ := kinds_eq_cons after_length
      obtain ⟨_, rest, rfl, rest_kinds⟩ := kinds_eq_cons after_close
      refine ⟨⟨⟨index, line, name, .array type length⟩, rest, by
        simp only [List.length_cons]; omega⟩, ?_, rfl, rest_kinds⟩
      simp only [fieldAfter, word, nextToken, bind, Except.bind, pure, Except.pure,
        arrayLength?_eq_some_iff.mpr spells, exactly, if_true]

/-! ## Bodies -/

/-- What holds of an empty body, and of a field and what is read behind it, holds of every body that
is read. -/
theorem structFields_induction {last : Nat} {name : Option String}
    {motive : Nat → List Token → List FieldDecl × Nat → List Token → Prop}
    (closes : ∀ index line rest, motive index (⟨.closeBrace, line⟩ :: rest) ([], index) rest)
    (goesOn : ∀ index type line rest first fields next behind,
      fieldAfter last index type line rest = .ok first →
        motive (index + 1) first.rest (fields, next) behind →
          motive index (⟨.word type, line⟩ :: rest) (first.value :: fields, next) behind)
    {index : Nat} {tokens : List Token} {parsed : Parsed (List FieldDecl × Nat) tokens}
    (read : structFields last name index tokens = .ok parsed) :
    motive index tokens parsed.value parsed.rest := by
  -- On the number of tokens: the loop goes on behind a whole field.
  induction total : tokens.length using Nat.strongRecOn generalizing tokens index with
  | _ count ih =>
    cases tokens with
    | nil =>
      rw [structFields] at read
      cases read
    | cons token rest =>
      obtain ⟨kind, line⟩ := token
      cases kind with
      | closeBrace =>
        rw [structFields] at read
        cases read
        exact closes index line rest
      | word type =>
        rw [structFields] at read
        obtain ⟨first, firstRead, read⟩ := bind_eq_ok.mp read
        obtain ⟨others, othersRead, read⟩ := bind_eq_ok.mp read
        have later := ih _ (first.fewer total) othersRead rfl
        cases read
        exact goesOn index type line rest first _ _ _ firstRead later
      | semicolon | openBracket | closeBracket | openBrace =>
        rw [structFields] at read
        cases read

theorem sound_structFields {last index : Nat} {name : Option String} {tokens : List Token}
    {parsed : Parsed (List FieldDecl × Nat) tokens}
    (read : structFields last name index tokens = .ok parsed) :
    ∃ body, kinds tokens = body ++ .closeBrace :: kinds parsed.rest ∧
      Many IsField body (parsed.value.1.map FieldDecl.outline) := by
  refine structFields_induction (motive := fun _ tokens value behind =>
    ∃ body, kinds tokens = body ++ .closeBrace :: kinds behind ∧
      Many IsField body (value.1.map FieldDecl.outline)) ?closes ?goesOn read
  case closes => exact fun index line rest => ⟨[], rfl, .nil⟩
  case goesOn =>
    rintro index type line rest first others next behind firstRead ⟨body, others_kinds, fields⟩
    obtain ⟨front, front_kinds, field⟩ := (recognizes_fieldAfter ..).sound first firstRead
    refine ⟨.word type :: front ++ body, ?_, .cons field fields⟩
    rw [kinds_cons, front_kinds, others_kinds]
    simp only [List.cons_append, List.append_assoc]

theorem complete_structFields (last index : Nat) (name : Option String) {tokens : List Token}
    {body tail : List TokenKind} {fields : List Outline.Field} (derived : Many IsField body fields)
    (split : kinds tokens = body ++ .closeBrace :: tail) :
    ∃ parsed, structFields last name index tokens = .ok parsed ∧
      parsed.value.1.map FieldDecl.outline = fields ∧ kinds parsed.rest = tail := by
  induction derived generalizing tokens index with
  | nil =>
    obtain ⟨line, rest, rfl, rest_kinds⟩ := kinds_eq_cons split
    exact ⟨⟨([], index), rest, by simp⟩, by rw [structFields], rfl, rest_kinds⟩
  | cons head _ ih =>
    obtain ⟨type, front, rfl⟩ := head.exists_word
    rw [List.append_assoc] at split
    obtain ⟨line, rest, rfl, rest_kinds⟩ := kinds_eq_cons split
    obtain ⟨first, firstRead, rfl, first_kinds⟩ :=
      (recognizes_fieldAfter last index type line rest).complete _ _ _ rest_kinds head
    obtain ⟨others, othersRead, rfl, others_kinds⟩ :=
      ih (index + 1) first_kinds
    refine ⟨⟨(first.value :: others.value.1, others.value.2), others.rest, ?_⟩, ?_, rfl,
      others_kinds⟩
    · have := first.shorter
      have := others.shorter
      simp only [List.length_cons]
      omega
    · rw [structFields]
      simp only [firstRead, othersRead, bind, Except.bind, pure, Except.pure]

theorem recognizes_inlineStruct (last index line : Nat) (tokens : List Token) :
    Recognizes (fun front => IsMember (.word "struct" :: front)) (fun member => member.1.outline)
      (inlineStruct last index line tokens) := by
  constructor
  · intro parsed read
    rw [inlineStruct] at read
    obtain ⟨start, startRead, read⟩ := bind_eq_ok.mp read
    obtain ⟨body, bodyRead, read⟩ := bind_eq_ok.mp read
    obtain ⟨name, named, read⟩ := bind_eq_ok.mp read
    obtain ⟨stop, stopRead, read⟩ := bind_eq_ok.mp read
    obtain ⟨_, start_kinds, rfl⟩ := (recognizes_exactly ..).sound start startRead
    obtain ⟨inner, body_kinds, fields⟩ := sound_structFields bodyRead
    obtain ⟨_, name_kinds, rfl⟩ := (recognizes_word ..).sound name named
    obtain ⟨_, stop_kinds, rfl⟩ := (recognizes_exactly ..).sound stop stopRead
    cases read
    refine ⟨.openBrace :: inner ++ [.closeBrace, .word name.value, .semicolon], ?_,
      isMember_struct_iff.mpr ⟨inner, name.value, _, rfl, rfl, fields⟩⟩
    rw [start_kinds, body_kinds, name_kinds, stop_kinds]
    simp only [List.cons_append, List.nil_append, List.append_assoc]
  · intro front tail member split derived
    obtain ⟨inner, name, fields, rfl, rfl, fieldsDerived⟩ := isMember_struct_iff.mp derived
    simp only [List.cons_append, List.append_assoc, List.nil_append] at split
    obtain ⟨start, startRead, _, start_kinds⟩ :=
      (recognizes_exactly last .openBrace tokens).complete [.openBrace] _ () split rfl
    obtain ⟨body, bodyRead, rfl, body_kinds⟩ :=
      complete_structFields last (index + 1) none fieldsDerived start_kinds
    obtain ⟨named, namedRead, rfl, named_kinds⟩ :=
      (recognizes_word last .memberName body.rest).complete [.word name] _ _ body_kinds rfl
    obtain ⟨stop, stopRead, _, stop_kinds⟩ :=
      (recognizes_exactly last .semicolon named.rest).complete [.semicolon] _ () named_kinds rfl
    refine ⟨⟨(.inline body.value.2 named.value ⟨index, line, body.value.1⟩, body.value.2 + 1),
      stop.rest, ?_⟩, ?_, rfl, stop_kinds⟩
    · have := start.shorter
      have := body.shorter
      have := named.shorter
      have := stop.shorter
      omega
    · simp only [inlineStruct, startRead, bodyRead, namedRead, stopRead, bind, Except.bind, pure,
        Except.pure]

/-- A member of a union after its first word, with the next node number. -/
def memberAfter (last index : Nat) (type : String) (line : Nat) (tokens : List Token) :
    Except Fault (Parsed (Member × Nat) tokens) :=
  if type = "struct" then inlineStruct last index line tokens
  else do
    let field ← fieldAfter last index type line tokens
    return ⟨(.field field.value, index + 1), field.rest, field.shorter⟩

theorem recognizes_memberAfter (last index : Nat) (type : String) (line : Nat)
    (tokens : List Token) :
    Recognizes (fun front => IsMember (.word type :: front)) (fun member => member.1.outline)
      (memberAfter last index type line tokens) := by
  by_cases inline : type = "struct"
  · subst inline
    rw [memberAfter, if_pos rfl]
    exact recognizes_inlineStruct last index line tokens
  · have field := recognizes_fieldAfter last index type line tokens
    rw [memberAfter, if_neg inline]
    constructor
    · intro parsed read
      obtain ⟨first, firstRead, read⟩ := bind_eq_ok.mp read
      obtain ⟨front, front_kinds, derived⟩ := field.sound first firstRead
      cases read
      exact ⟨front, front_kinds, (isMember_field_iff inline).mpr ⟨_, rfl, derived⟩⟩
    · intro front tail member split derived
      obtain ⟨value, rfl, plain⟩ := (isMember_field_iff inline).mp derived
      obtain ⟨first, firstRead, rfl, first_kinds⟩ := field.complete front tail value split plain
      refine ⟨⟨(.field first.value, index + 1), first.rest, first.shorter⟩, ?_, rfl, first_kinds⟩
      rw [firstRead]
      rfl

/-- The members after a word, one member at a time. -/
theorem unionMembers_word (last : Nat) (name : String) (index : Nat) (type : String) (line : Nat)
    (rest : List Token) :
    unionMembers last name index (⟨.word type, line⟩ :: rest) = do
      let first ← memberAfter last index type line rest
      let others ← unionMembers last name first.value.2 first.rest
      return ⟨(first.value.1 :: others.value.1, others.value.2), others.rest, by
        have := first.shorter
        have := others.shorter
        simp only [List.length_cons]; omega⟩ := by
  rw [unionMembers, memberAfter]
  by_cases inline : type = "struct"
  · simp only [if_pos inline]
  · simp only [if_neg inline]
    cases fieldAfter last index type line rest <;> rfl

/-- What holds of an empty union, and of a member and what is read behind it, holds of the members
of every union that is read. -/
theorem unionMembers_induction {last : Nat} {name : String}
    {motive : Nat → List Token → List Member × Nat → List Token → Prop}
    (closes : ∀ index line rest stop, exactly last .semicolon rest = .ok stop →
      motive index (⟨.closeBrace, line⟩ :: rest) ([], index) stop.rest)
    (goesOn : ∀ index type line rest first members next behind,
      memberAfter last index type line rest = .ok first →
        motive first.value.2 first.rest (members, next) behind →
          motive index (⟨.word type, line⟩ :: rest) (first.value.1 :: members, next) behind)
    {index : Nat} {tokens : List Token} {parsed : Parsed (List Member × Nat) tokens}
    (read : unionMembers last name index tokens = .ok parsed) :
    motive index tokens parsed.value parsed.rest := by
  induction total : tokens.length using Nat.strongRecOn generalizing tokens index with
  | _ count ih =>
    cases tokens with
    | nil =>
      rw [unionMembers] at read
      cases read
    | cons token rest =>
      obtain ⟨kind, line⟩ := token
      cases kind with
      | closeBrace =>
        rw [unionMembers] at read
        obtain ⟨stop, stopRead, read⟩ := bind_eq_ok.mp read
        cases read
        exact closes index line rest stop stopRead
      | word type =>
        rw [unionMembers_word] at read
        obtain ⟨first, firstRead, read⟩ := bind_eq_ok.mp read
        obtain ⟨others, othersRead, read⟩ := bind_eq_ok.mp read
        have later := ih _ (first.fewer total) othersRead rfl
        cases read
        exact goesOn index type line rest first _ _ _ firstRead later
      | semicolon | openBracket | closeBracket | openBrace =>
        rw [unionMembers] at read
        cases read

theorem sound_unionMembers {last index : Nat} {name : String} {tokens : List Token}
    {parsed : Parsed (List Member × Nat) tokens}
    (read : unionMembers last name index tokens = .ok parsed) :
    ∃ body, kinds tokens = body ++ .closeBrace :: .semicolon :: kinds parsed.rest ∧
      Many IsMember body (parsed.value.1.map Member.outline) := by
  refine unionMembers_induction (motive := fun _ tokens value behind =>
    ∃ body, kinds tokens = body ++ .closeBrace :: .semicolon :: kinds behind ∧
      Many IsMember body (value.1.map Member.outline)) ?closes ?goesOn read
  case closes =>
    intro index line rest stop stopRead
    obtain ⟨_, stop_kinds, rfl⟩ := (recognizes_exactly ..).sound stop stopRead
    exact ⟨[], by rw [kinds_cons, stop_kinds]; rfl, .nil⟩
  case goesOn =>
    rintro index type line rest first others next behind firstRead ⟨body, others_kinds, members⟩
    obtain ⟨front, front_kinds, member⟩ := (recognizes_memberAfter ..).sound first firstRead
    refine ⟨.word type :: front ++ body, ?_, .cons member members⟩
    rw [kinds_cons, front_kinds, others_kinds]
    simp only [List.cons_append, List.append_assoc]

theorem complete_unionMembers (last index : Nat) (name : String) {tokens : List Token}
    {body tail : List TokenKind} {members : List Outline.Member}
    (derived : Many IsMember body members)
    (split : kinds tokens = body ++ .closeBrace :: .semicolon :: tail) :
    ∃ parsed, unionMembers last name index tokens = .ok parsed ∧
      parsed.value.1.map Member.outline = members ∧ kinds parsed.rest = tail := by
  induction derived generalizing tokens index with
  | nil =>
    obtain ⟨line, rest, rfl, rest_kinds⟩ := kinds_eq_cons split
    obtain ⟨stop, stopRead, _, stop_kinds⟩ :=
      (recognizes_exactly last .semicolon rest).complete [.semicolon] _ () rest_kinds rfl
    refine ⟨⟨([], index), stop.rest, ?_⟩, ?_, rfl, stop_kinds⟩
    · have := stop.shorter
      simp only [List.length_cons]
      omega
    · rw [unionMembers, stopRead]
      rfl
  | cons head _ ih =>
    obtain ⟨type, front, rfl⟩ := head.exists_word
    rw [List.append_assoc] at split
    obtain ⟨line, rest, rfl, rest_kinds⟩ := kinds_eq_cons split
    obtain ⟨first, firstRead, rfl, first_kinds⟩ :=
      (recognizes_memberAfter last index type line rest).complete _ _ _ rest_kinds head
    obtain ⟨others, othersRead, rfl, others_kinds⟩ := ih first.value.2 first_kinds
    refine ⟨⟨(first.value.1 :: others.value.1, others.value.2), others.rest, ?_⟩, ?_, rfl,
      others_kinds⟩
    · have := first.shorter
      have := others.shorter
      simp only [List.length_cons]
      omega
    · rw [unionMembers_word]
      simp only [firstRead, othersRead, bind, Except.bind, pure, Except.pure]

/-! ## Declarations -/

theorem recognizes_structAfter (last index line : Nat) (tokens : List Token) :
    Recognizes (fun front => IsDeclaration (.word "struct" :: front))
      (fun declared => declared.1.outline) (structAfter last index line tokens) := by
  constructor
  · intro parsed read
    rw [structAfter] at read
    obtain ⟨head, headRead, read⟩ := bind_eq_ok.mp read
    have head_kinds := kinds_of_nextToken headRead
    dsimp only at read
    split at read
    · rename_i bracket
      obtain ⟨body, bodyRead, read⟩ := bind_eq_ok.mp read
      obtain ⟨inner, body_kinds, fields⟩ := sound_structFields bodyRead
      cases read
      refine ⟨.openBrace :: inner ++ [.closeBrace], ?_,
        isDeclaration_struct_iff.mpr ⟨inner, _, fields, .inl ⟨rfl, rfl⟩⟩⟩
      rw [head_kinds, bracket, body_kinds]
      simp only [List.cons_append, List.nil_append, List.append_assoc]
    · rename_i name named
      obtain ⟨start, startRead, read⟩ := bind_eq_ok.mp read
      obtain ⟨body, bodyRead, read⟩ := bind_eq_ok.mp read
      obtain ⟨_, start_kinds, rfl⟩ := (recognizes_exactly ..).sound start startRead
      obtain ⟨inner, body_kinds, fields⟩ := sound_structFields bodyRead
      cases read
      refine ⟨.word name :: .openBrace :: inner ++ [.closeBrace], ?_,
        isDeclaration_struct_iff.mpr ⟨inner, _, fields, .inr ⟨name, rfl, rfl⟩⟩⟩
      rw [head_kinds, named, start_kinds, body_kinds]
      simp only [List.cons_append, List.nil_append, List.append_assoc]
    · cases read
  · intro front tail declaration split derived
    obtain ⟨inner, _, fields, ⟨rfl, rfl⟩ | ⟨name, rfl, rfl⟩⟩ :=
      isDeclaration_struct_iff.mp derived
    · simp only [List.cons_append, List.append_assoc, List.nil_append] at split
      obtain ⟨_, inside, rfl, inside_kinds⟩ := kinds_eq_cons split
      obtain ⟨body, bodyRead, rfl, body_kinds⟩ :=
        complete_structFields last (index + 1) none fields inside_kinds
      refine ⟨⟨(.struct none ⟨index, line, body.value.1⟩, body.value.2), body.rest, ?_⟩, ?_, rfl,
        body_kinds⟩
      · have := body.shorter
        simp only [List.length_cons]
        omega
      · simp only [structAfter, nextToken, bodyRead, bind, Except.bind, pure, Except.pure]
    · simp only [List.cons_append, List.append_assoc, List.nil_append] at split
      obtain ⟨_, after, rfl, after_kinds⟩ := kinds_eq_cons split
      obtain ⟨start, startRead, _, start_kinds⟩ :=
        (recognizes_exactly last .openBrace after).complete [.openBrace] _ () after_kinds rfl
      obtain ⟨body, bodyRead, rfl, body_kinds⟩ :=
        complete_structFields last (index + 1) (some name) fields start_kinds
      refine ⟨⟨(.struct (some name) ⟨index, line, body.value.1⟩, body.value.2), body.rest, ?_⟩, ?_,
        rfl, body_kinds⟩
      · have := start.shorter
        have := body.shorter
        simp only [List.length_cons]
        omega
      · simp only [structAfter, nextToken, startRead, bodyRead, bind, Except.bind, pure,
          Except.pure]

theorem recognizes_unionAfter (last index line : Nat) (tokens : List Token) :
    Recognizes (fun front => IsDeclaration (.word "union" :: front))
      (fun declared => declared.1.outline) (unionAfter last index line tokens) := by
  constructor
  · intro parsed read
    rw [unionAfter] at read
    obtain ⟨name, named, read⟩ := bind_eq_ok.mp read
    obtain ⟨start, startRead, read⟩ := bind_eq_ok.mp read
    obtain ⟨body, bodyRead, read⟩ := bind_eq_ok.mp read
    obtain ⟨_, name_kinds, rfl⟩ := (recognizes_word ..).sound name named
    obtain ⟨_, start_kinds, rfl⟩ := (recognizes_exactly ..).sound start startRead
    obtain ⟨inner, body_kinds, members⟩ := sound_unionMembers bodyRead
    cases read
    refine ⟨.word name.value :: .openBrace :: inner ++ [.closeBrace, .semicolon], ?_,
      isDeclaration_union_iff.mpr ⟨inner, name.value, _, rfl, rfl, members⟩⟩
    rw [name_kinds, start_kinds, body_kinds]
    simp only [List.cons_append, List.nil_append, List.append_assoc]
  · intro front tail declaration split derived
    obtain ⟨inner, name, members, rfl, rfl, membersDerived⟩ := isDeclaration_union_iff.mp derived
    simp only [List.cons_append, List.append_assoc, List.nil_append] at split
    obtain ⟨named, namedRead, rfl, named_kinds⟩ :=
      (recognizes_word last .unionName tokens).complete [.word name] _ _ split rfl
    obtain ⟨start, startRead, _, start_kinds⟩ :=
      (recognizes_exactly last .openBrace named.rest).complete [.openBrace] _ () named_kinds rfl
    obtain ⟨body, bodyRead, rfl, body_kinds⟩ :=
      complete_unionMembers last (index + 1) named.value membersDerived start_kinds
    refine ⟨⟨(.union index line named.value body.value.1, body.value.2), body.rest, ?_⟩, ?_, rfl,
      body_kinds⟩
    · have := named.shorter
      have := start.shorter
      have := body.shorter
      omega
    · simp only [unionAfter, namedRead, startRead, bodyRead, bind, Except.bind, pure, Except.pure]

/-- A declaration after its first word, with the next node number. -/
def declarationAfter (last index : Nat) (text : String) (line : Nat) (tokens : List Token) :
    Except Fault (Parsed (Declaration × Nat) tokens) :=
  if text = "struct" then structAfter last index line tokens
  else if text = "union" then unionAfter last index line tokens
  else refuse line (.unexpected .declaration (.word text))

theorem recognizes_declarationAfter (last index : Nat) (text : String) (line : Nat)
    (tokens : List Token) :
    Recognizes (fun front => IsDeclaration (.word text :: front))
      (fun declared => declared.1.outline) (declarationAfter last index text line tokens) := by
  rw [declarationAfter]
  by_cases isStruct : text = "struct"
  · subst isStruct
    exact recognizes_structAfter last index line tokens
  by_cases isUnion : text = "union"
  · subst isUnion
    exact recognizes_unionAfter last index line tokens
  rw [if_neg isStruct, if_neg isUnion]
  constructor
  · intro parsed read
    cases read
  · intro front tail declaration split derived
    obtain ⟨_, _, shape, isKeyword⟩ := derived.exists_word
    cases shape
    exact absurd isKeyword (not_or.mpr ⟨isStruct, isUnion⟩)

/-- The declarations after a word, one declaration at a time. -/
theorem declarationList_word (last index : Nat) (text : String) (line : Nat) (rest : List Token) :
    declarationList last index (⟨.word text, line⟩ :: rest) = do
      let first ← declarationAfter last index text line rest
      let (others, next) ← declarationList last first.value.2 first.rest
      return (first.value.1 :: others, next) := by
  rw [declarationList, declarationAfter]
  by_cases isStruct : text = "struct"
  · simp only [if_pos isStruct]
  by_cases isUnion : text = "union"
  · simp only [if_neg isStruct, if_pos isUnion]
  · simp only [if_neg isStruct, if_neg isUnion]

/-- What holds of the end of a text and goes on in front of semicolons and declarations holds of
every text that is read. -/
theorem declarationList_induction {last : Nat}
    {motive : Nat → List Token → List Declaration → Nat → Prop}
    (ends : ∀ index, motive index [] [] index)
    (separator : ∀ index line rest declared next, motive index rest declared next →
      motive index (⟨.semicolon, line⟩ :: rest) declared next)
    (goesOn : ∀ index text line rest first others next,
      declarationAfter last index text line rest = .ok first →
        motive first.value.2 first.rest others next →
          motive index (⟨.word text, line⟩ :: rest) (first.value.1 :: others) next)
    {index next : Nat} {tokens : List Token} {declared : List Declaration}
    (read : declarationList last index tokens = .ok (declared, next)) :
    motive index tokens declared next := by
  induction total : tokens.length using Nat.strongRecOn generalizing tokens index declared next with
  | _ count ih =>
    cases tokens with
    | nil =>
      rw [declarationList] at read
      cases read
      exact ends index
    | cons token rest =>
      obtain ⟨kind, line⟩ := token
      simp only [List.length_cons] at total
      cases kind with
      | semicolon =>
        rw [declarationList] at read
        exact separator index line rest _ _ (ih rest.length (by omega) read rfl)
      | word text =>
        rw [declarationList_word] at read
        obtain ⟨first, firstRead, read⟩ := bind_eq_ok.mp read
        obtain ⟨⟨others, _⟩, othersRead, read⟩ := bind_eq_ok.mp read
        have fewer := first.shorter
        have later := ih first.rest.length (by omega) othersRead rfl
        cases read
        exact goesOn index text line rest first _ _ firstRead later
      | openBracket | closeBracket | openBrace | closeBrace =>
        rw [declarationList] at read
        cases read

theorem sound_declarationList {last index next : Nat} {tokens : List Token}
    {declared : List Declaration}
    (read : declarationList last index tokens = .ok (declared, next)) :
    IsSpecification (kinds tokens) (declared.map Declaration.outline) := by
  refine declarationList_induction (motive := fun _ tokens declared _ =>
    IsSpecification (kinds tokens) (declared.map Declaration.outline)) ?ends ?separator ?goesOn read
  case ends => exact fun _ => .nil
  case separator => exact fun _ _ _ _ _ => .separator
  case goesOn =>
    intro index text line rest first others next firstRead specification
    obtain ⟨front, front_kinds, declaration⟩ :=
      (recognizes_declarationAfter ..).sound first firstRead
    rw [kinds_cons, front_kinds]
    exact .declaration declaration specification

theorem complete_declarationList (last index : Nat) {tokens : List Token}
    {tree : List Outline.Declaration} (derived : IsSpecification (kinds tokens) tree) :
    ∃ declared next, declarationList last index tokens = .ok (declared, next) ∧
      declared.map Declaration.outline = tree := by
  generalize spelled : kinds tokens = units at derived
  induction derived generalizing tokens index with
  | nil =>
    obtain rfl := List.map_eq_nil_iff.mp spelled
    exact ⟨[], index, by rw [declarationList], rfl⟩
  | separator _ ih =>
    obtain ⟨line, rest, rfl, rest_kinds⟩ := kinds_eq_cons spelled
    rw [declarationList]
    exact ih index rest_kinds
  | declaration head _ ih =>
    obtain ⟨text, front, rfl, _⟩ := head.exists_word
    obtain ⟨line, rest, rfl, rest_kinds⟩ := kinds_eq_cons spelled
    obtain ⟨first, firstRead, rfl, first_kinds⟩ :=
      (recognizes_declarationAfter last index text line rest).complete _ _ _ rest_kinds head
    obtain ⟨others, next, othersRead, rfl⟩ := ih first.value.2 first_kinds
    refine ⟨first.value.1 :: others, next, ?_, rfl⟩
    rw [declarationList_word]
    simp only [firstRead, othersRead, bind, Except.bind, pure, Except.pure]

/-- **The reader accepts exactly the specifications of the grammar.** Tokens give a
specification iff their units are derivable, and what they give is, up to lines and
node numbers, the one tree of the derivation, with everything in source order. -/
theorem ofTokens_iff_isSpecification (tokens : List Token) :
    ((∃ specification, Specification.ofTokens tokens = .ok specification) ↔
        ∃ tree, IsSpecification (kinds tokens) tree) ∧
      ∀ tree, IsSpecification (kinds tokens) tree ↔
        ∃ specification, Specification.ofTokens tokens = .ok specification ∧
          specification.outline = tree := by
  have each (tree : List Outline.Declaration) : IsSpecification (kinds tokens) tree ↔
      ∃ specification, Specification.ofTokens tokens = .ok specification ∧
        specification.outline = tree := by
    constructor
    · intro derived
      obtain ⟨declared, next, read, rfl⟩ := complete_declarationList (lastLine tokens) 1 derived
      refine ⟨⟨declared, next⟩, ?_, rfl⟩
      rw [Specification.ofTokens, read]
      rfl
    · rintro ⟨specification, accepted, rfl⟩
      obtain ⟨⟨declared, next⟩, read, given⟩ := bind_eq_ok.mp accepted
      cases given
      exact sound_declarationList read
  refine ⟨⟨?_, ?_⟩, each⟩
  · rintro ⟨specification, accepted⟩
    exact ⟨specification.outline, (each _).mpr ⟨specification, accepted, rfl⟩⟩
  · rintro ⟨tree, derived⟩
    obtain ⟨specification, accepted, _⟩ := (each tree).mp derived
    exact ⟨specification, accepted⟩

end LapTelemetry.Spec
