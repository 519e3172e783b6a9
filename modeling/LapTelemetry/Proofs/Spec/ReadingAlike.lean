import Mathlib.Data.List.Forall2
import LapTelemetry.Proofs.Spec.Recognition

/-! # What lines do to the reading of a specification

The lines of tokens reach the lines of declarations and of faults, and nothing else.
That is said by comparing two readings of the same units on different lines: for any
relation `R` between lines, if the tokens stand on related lines, then either both
are read, to declarations on related lines, or both are refused for the same cause,
on related lines (`ofTokens_alike`).

With a relation that holds of all lines this says that lines do not matter. With the
relation of a line to itself while it is within bounds it says that every line that is
reported is within them. -/

namespace LapTelemetry.Spec

set_option autoImplicit false

/-! ## Outcomes -/

section Outcomes

variable (R : Nat → Nat → Prop)

/-- The same fault of a specification, on related lines if it has one. -/
inductive FaultsAlike : Fault → Fault → Prop where
  | onLine {line line' : Nat} (cause : SyntaxFault) (related : R line line') :
      FaultsAlike (.specSyntax line cause) (.specSyntax line' cause)
  | unresolved (name referencedBy : String) :
      FaultsAlike (.unresolvedType name referencedBy) (.unresolvedType name referencedBy)

/-- Two results that are the same in the given sense, or two faults that are alike. -/
inductive OutcomesAlike {α β : Type} (same : α → β → Prop) :
    Except Fault α → Except Fault β → Prop where
  | ok {value : α} {value' : β} (values : same value value') :
      OutcomesAlike same (.ok value) (.ok value')
  | error {fault fault' : Fault} (faults : FaultsAlike R fault fault') :
      OutcomesAlike same (.error fault) (.error fault')

variable {R}

theorem refuse_alike {α β : Type} {same : α → β → Prop} {line line' : Nat} (cause : SyntaxFault)
    (related : R line line') : OutcomesAlike R same (refuse line cause) (refuse line' cause) :=
  .error (.onLine cause related)

theorem OutcomesAlike.bind {α β γ δ : Type} {same : α → β → Prop} {sameLater : γ → δ → Prop}
    {first : Except Fault α} {first' : Except Fault β} {next : α → Except Fault γ}
    {next' : β → Except Fault δ} (begins : OutcomesAlike R same first first')
    (goes : ∀ value value', same value value' →
      OutcomesAlike R sameLater (next value) (next' value')) :
    OutcomesAlike R sameLater (first >>= next) (first' >>= next') := by
  cases begins with
  | ok values => exact goes _ _ values
  | error faults => exact .error faults

end Outcomes

/-! ## Tokens and declarations -/

section Trees

variable (R : Nat → Nat → Prop)

/-- The same unit on related lines. -/
structure TokenAlike (token token' : Token) : Prop where
  kind_eq : token.kind = token'.kind
  line : R token.line token'.line

/-- The same units on related lines. -/
def TokensAlike : List Token → List Token → Prop := List.Forall₂ (TokenAlike R)

/-- The same field on related lines. -/
structure FieldAlike (decl decl' : FieldDecl) : Prop where
  outline_eq : decl.outline = decl'.outline
  line : R decl.line decl'.line

/-- Bodies of the same fields, all on related lines. -/
structure BodyAlike (body body' : StructBody) : Prop where
  line : R body.line body'.line
  fields : List.Forall₂ (FieldAlike R) body.fields body'.fields

/-- The same member on related lines. -/
inductive MemberAlike : Member → Member → Prop where
  | field {decl decl' : FieldDecl} (decls : FieldAlike R decl decl') :
      MemberAlike (.field decl) (.field decl')
  | inline {index index' : Nat} (name : String) {body body' : StructBody}
      (bodies : BodyAlike R body body') :
      MemberAlike (.inline index name body) (.inline index' name body')

/-- The same declaration on related lines. -/
inductive DeclarationAlike : Declaration → Declaration → Prop where
  | struct (name : Option String) {body body' : StructBody} (bodies : BodyAlike R body body') :
      DeclarationAlike (.struct name body) (.struct name body')
  | union {index index' line line' : Nat} (name : String) {members members' : List Member}
      (lines : R line line') (alike : List.Forall₂ (MemberAlike R) members members') :
      DeclarationAlike (.union index line name members) (.union index' line' name members')

/-- The same values, with the same units left on related lines. -/
structure ParsedAlike {α β : Type} {tokens tokens' : List Token} (same : α → β → Prop)
    (parsed : Parsed α tokens) (parsed' : Parsed β tokens') : Prop where
  value : same parsed.value parsed'.value
  rest : TokensAlike R parsed.rest parsed'.rest

/-- Two readings of a rule that are alike. -/
def ReadAlike {α β : Type} {tokens tokens' : List Token} (same : α → β → Prop) :
    Except Fault (Parsed α tokens) → Except Fault (Parsed β tokens') → Prop :=
  OutcomesAlike R (ParsedAlike R same)

end Trees

/-! ## Rules -/

section Rules

variable {R : Nat → Nat → Prop} {last last' line line' index index' : Nat}
  {tokens tokens' : List Token}

theorem nextToken_alike (lasts : R last last') (expected : Expected)
    (alike : TokensAlike R tokens tokens') :
    ReadAlike R (TokenAlike R) (nextToken last expected tokens)
      (nextToken last' expected tokens') := by
  cases alike with
  | nil => exact refuse_alike _ lasts
  | cons first others => exact .ok ⟨first, others⟩

theorem exactly_alike (lasts : R last last') (kind : TokenKind)
    (alike : TokensAlike R tokens tokens') :
    ReadAlike R (fun _ _ => True) (exactly last kind tokens) (exactly last' kind tokens') := by
  apply (nextToken_alike lasts (.token kind) alike).bind
  intro token token' tokensAlike
  have kinds := tokensAlike.value.kind_eq
  by_cases same : token.value.kind = kind
  · rw [if_pos same, if_pos (kinds ▸ same)]
    exact .ok ⟨trivial, tokensAlike.rest⟩
  · rw [if_neg same, if_neg (kinds ▸ same), kinds]
    exact refuse_alike _ tokensAlike.value.line

theorem word_alike (lasts : R last last') (expected : Expected)
    (alike : TokensAlike R tokens tokens') :
    ReadAlike R Eq (word last expected tokens) (word last' expected tokens') := by
  apply (nextToken_alike lasts expected alike).bind
  intro token token' tokensAlike
  obtain ⟨⟨kind, at_⟩, rest, shorter⟩ := token
  obtain ⟨⟨kind', at'⟩, rest', shorter'⟩ := token'
  obtain ⟨⟨rfl, lines⟩, rests⟩ := tokensAlike
  cases kind with
  | word text => exact .ok ⟨rfl, rests⟩
  | semicolon | openBracket | closeBracket | openBrace | closeBrace =>
    exact refuse_alike _ lines

theorem fieldAfter_alike (lasts : R last last') (lines : R line line') (type : String)
    (alike : TokensAlike R tokens tokens') :
    ReadAlike R (FieldAlike R) (fieldAfter last index type line tokens)
      (fieldAfter last' index' type line' tokens') := by
  apply (word_alike lasts .fieldName alike).bind
  intro name name' names
  apply (nextToken_alike lasts .fieldEnd names.rest).bind
  intro mark mark' marks
  obtain ⟨name, nameRest, nameShorter⟩ := name
  obtain ⟨_, nameRest', nameShorter'⟩ := name'
  obtain ⟨⟨kind, at_⟩, rest, shorter⟩ := mark
  obtain ⟨⟨kind', at'⟩, rest', shorter'⟩ := mark'
  obtain ⟨rfl, nameRests⟩ := names
  obtain ⟨⟨rfl, markLines⟩, rests⟩ := marks
  cases kind with
  | semicolon => exact .ok ⟨⟨rfl, lines⟩, rests⟩
  | openBracket =>
    apply (word_alike lasts .arrayLength rests).bind
    intro size size' sizes
    obtain ⟨size, sizeRest, sizeShorter⟩ := size
    obtain ⟨_, sizeRest', sizeShorter'⟩ := size'
    obtain ⟨rfl, sizeRests⟩ := sizes
    dsimp only
    split
    · exact refuse_alike _ lines
    · apply (exactly_alike lasts .closeBracket sizeRests).bind
      intro close close' closes
      apply (exactly_alike lasts .semicolon closes.rest).bind
      intro stop stop' stops
      exact .ok ⟨⟨rfl, lines⟩, stops.rest⟩
  | word text => exact refuse_alike _ markLines
  | closeBracket | openBrace | closeBrace => exact refuse_alike _ markLines

/-! ## Bodies -/

theorem structFields_alike (lasts : R last last') (name : Option String)
    (alike : TokensAlike R tokens tokens') :
    ReadAlike R (fun read read' => List.Forall₂ (FieldAlike R) read.1 read'.1)
      (structFields last name index tokens) (structFields last' name index' tokens') := by
  -- On the number of tokens: the loop goes on behind a whole field.
  induction total : tokens.length using Nat.strongRecOn
    generalizing tokens tokens' index index' with
  | _ count ih =>
    cases alike with
    | nil =>
      rw [structFields, structFields]
      exact refuse_alike _ lasts
    | @cons token token' rest rest' first others =>
      obtain ⟨kind, line⟩ := token
      obtain ⟨kind', line'⟩ := token'
      obtain ⟨rfl, lines⟩ := first
      cases kind with
      | closeBrace =>
        rw [structFields, structFields]
        exact .ok ⟨.nil, others⟩
      | word type =>
        rw [structFields, structFields]
        apply (fieldAfter_alike lasts lines type others).bind
        intro field field' fields
        have fewer : field.rest.length < count := by
          have := field.shorter
          simp only [List.length_cons] at total
          omega
        apply (ih _ fewer fields.rest rfl).bind
        intro later later' laters
        exact .ok ⟨.cons fields.value laters.value, laters.rest⟩
      | semicolon | openBracket | closeBracket | openBrace =>
        rw [structFields, structFields]
        exact refuse_alike _ lines

theorem inlineStruct_alike (lasts : R last last') (lines : R line line')
    (alike : TokensAlike R tokens tokens') :
    ReadAlike R (fun read read' => MemberAlike R read.1 read'.1)
      (inlineStruct last index line tokens) (inlineStruct last' index' line' tokens') := by
  apply (exactly_alike lasts .openBrace alike).bind
  intro start start' starts
  apply (structFields_alike lasts none starts.rest).bind
  intro body body' bodies
  apply (word_alike lasts .memberName bodies.rest).bind
  intro name name' names
  apply (exactly_alike lasts .semicolon names.rest).bind
  intro stop stop' stops
  refine .ok ⟨?_, stops.rest⟩
  have same : name.value = name'.value := names.value
  show MemberAlike R (.inline body.value.2 name.value ⟨index, line, body.value.1⟩)
    (.inline body'.value.2 name'.value ⟨index', line', body'.value.1⟩)
  rw [same]
  exact .inline _ ⟨lines, bodies.value⟩

theorem memberAfter_alike (lasts : R last last') (lines : R line line') (type : String)
    (alike : TokensAlike R tokens tokens') :
    ReadAlike R (fun read read' => MemberAlike R read.1 read'.1)
      (memberAfter last index type line tokens) (memberAfter last' index' type line' tokens') := by
  rw [memberAfter, memberAfter]
  by_cases inline : type = "struct"
  · rw [if_pos inline, if_pos inline]
    exact inlineStruct_alike lasts lines alike
  · rw [if_neg inline, if_neg inline]
    apply (fieldAfter_alike lasts lines type alike).bind
    intro field field' fields
    exact .ok ⟨.field fields.value, fields.rest⟩

theorem unionMembers_alike (lasts : R last last') (name : String)
    (alike : TokensAlike R tokens tokens') :
    ReadAlike R (fun read read' => List.Forall₂ (MemberAlike R) read.1 read'.1)
      (unionMembers last name index tokens) (unionMembers last' name index' tokens') := by
  induction total : tokens.length using Nat.strongRecOn
    generalizing tokens tokens' index index' with
  | _ count ih =>
    cases alike with
    | nil =>
      rw [unionMembers, unionMembers]
      exact refuse_alike _ lasts
    | @cons token token' rest rest' first others =>
      obtain ⟨kind, line⟩ := token
      obtain ⟨kind', line'⟩ := token'
      obtain ⟨rfl, lines⟩ := first
      cases kind with
      | closeBrace =>
        rw [unionMembers, unionMembers]
        apply (exactly_alike lasts .semicolon others).bind
        intro stop stop' stops
        exact .ok ⟨.nil, stops.rest⟩
      | word type =>
        rw [unionMembers_word, unionMembers_word]
        apply (memberAfter_alike lasts lines type others).bind
        intro member member' members
        have fewer : member.rest.length < count := by
          have := member.shorter
          simp only [List.length_cons] at total
          omega
        apply (ih _ fewer members.rest rfl).bind
        intro later later' laters
        exact .ok ⟨.cons members.value laters.value, laters.rest⟩
      | semicolon | openBracket | closeBracket | openBrace =>
        rw [unionMembers, unionMembers]
        exact refuse_alike _ lines

/-! ## Declarations -/

theorem structAfter_alike (lasts : R last last') (lines : R line line')
    (alike : TokensAlike R tokens tokens') :
    ReadAlike R (fun read read' => DeclarationAlike R read.1 read'.1)
      (structAfter last index line tokens) (structAfter last' index' line' tokens') := by
  apply (nextToken_alike lasts .structName alike).bind
  intro head head' heads
  obtain ⟨⟨kind, at_⟩, rest, shorter⟩ := head
  obtain ⟨⟨kind', at'⟩, rest', shorter'⟩ := head'
  obtain ⟨⟨rfl, headLines⟩, rests⟩ := heads
  cases kind with
  | openBrace =>
    apply (structFields_alike lasts none rests).bind
    intro body body' bodies
    exact .ok ⟨.struct none ⟨lines, bodies.value⟩, bodies.rest⟩
  | word name =>
    apply (exactly_alike lasts .openBrace rests).bind
    intro start start' starts
    apply (structFields_alike lasts (some name) starts.rest).bind
    intro body body' bodies
    exact .ok ⟨.struct (some name) ⟨lines, bodies.value⟩, bodies.rest⟩
  | semicolon | openBracket | closeBracket | closeBrace => exact refuse_alike _ headLines

theorem unionAfter_alike (lasts : R last last') (lines : R line line')
    (alike : TokensAlike R tokens tokens') :
    ReadAlike R (fun read read' => DeclarationAlike R read.1 read'.1)
      (unionAfter last index line tokens) (unionAfter last' index' line' tokens') := by
  apply (word_alike lasts .unionName alike).bind
  intro name name' names
  apply (exactly_alike lasts .openBrace names.rest).bind
  intro start start' starts
  obtain ⟨name, nameRest, nameShorter⟩ := name
  obtain ⟨_, nameRest', nameShorter'⟩ := name'
  obtain ⟨rfl, nameRests⟩ := names
  apply (unionMembers_alike lasts name starts.rest).bind
  intro body body' bodies
  exact .ok ⟨.union name lines bodies.value, bodies.rest⟩

theorem declarationAfter_alike (lasts : R last last') (lines : R line line') (text : String)
    (alike : TokensAlike R tokens tokens') :
    ReadAlike R (fun read read' => DeclarationAlike R read.1 read'.1)
      (declarationAfter last index text line tokens)
      (declarationAfter last' index' text line' tokens') := by
  rw [declarationAfter, declarationAfter]
  by_cases isStruct : text = "struct"
  · rw [if_pos isStruct, if_pos isStruct]
    exact structAfter_alike lasts lines alike
  by_cases isUnion : text = "union"
  · rw [if_neg isStruct, if_neg isStruct, if_pos isUnion, if_pos isUnion]
    exact unionAfter_alike lasts lines alike
  · rw [if_neg isStruct, if_neg isStruct, if_neg isUnion, if_neg isUnion]
    exact refuse_alike _ lines

theorem declarationList_alike (lasts : R last last') (alike : TokensAlike R tokens tokens') :
    OutcomesAlike R (fun read read' => List.Forall₂ (DeclarationAlike R) read.1 read'.1)
      (declarationList last index tokens) (declarationList last' index' tokens') := by
  induction total : tokens.length using Nat.strongRecOn
    generalizing tokens tokens' index index' with
  | _ count ih =>
    cases alike with
    | nil =>
      rw [declarationList, declarationList]
      exact .ok .nil
    | @cons token token' rest rest' first others =>
      obtain ⟨kind, line⟩ := token
      obtain ⟨kind', line'⟩ := token'
      obtain ⟨rfl, lines⟩ := first
      simp only [List.length_cons] at total
      cases kind with
      | semicolon =>
        rw [declarationList, declarationList]
        exact ih rest.length (by omega) others rfl
      | word text =>
        rw [declarationList_word, declarationList_word]
        apply (declarationAfter_alike lasts lines text others).bind
        intro declared declared' alike
        have fewer : declared.rest.length < count := by
          have := declared.shorter
          omega
        apply (ih _ fewer alike.rest rfl).bind
        intro later later' laters
        exact .ok (.cons alike.value laters)
      | openBracket | closeBracket | openBrace | closeBrace =>
        rw [declarationList, declarationList]
        exact refuse_alike _ lines

end Rules

/-- The line that a text ends on is that of its last token, or the first. -/
theorem lastLine_alike {R : Nat → Nat → Prop} (first : R 1 1) {tokens tokens' : List Token}
    (alike : TokensAlike R tokens tokens') : R (lastLine tokens) (lastLine tokens') := by
  have reversed : List.Forall₂ (TokenAlike R) tokens.reverse tokens'.reverse :=
    List.rel_reverse alike
  rw [lastLine, lastLine, List.getLast?_eq_head?_reverse, List.getLast?_eq_head?_reverse]
  generalize tokens.reverse = backwards at reversed ⊢
  generalize tokens'.reverse = backwards' at reversed ⊢
  cases reversed with
  | nil => exact first
  | cons last _ => exact last.line

/-- **The lines of tokens reach the lines of declarations and of faults only.** Of the
same units on related lines both are read, to the same declarations on related lines, or
both are refused for the same cause, on related lines. -/
theorem ofTokens_alike {R : Nat → Nat → Prop} (first : R 1 1) {tokens tokens' : List Token}
    (alike : TokensAlike R tokens tokens') :
    OutcomesAlike R
      (fun read read' => List.Forall₂ (DeclarationAlike R) read.declarations read'.declarations)
      (Specification.ofTokens tokens) (Specification.ofTokens tokens') := by
  apply (declarationList_alike (lastLine_alike first alike) alike).bind
  intro declared declared' same
  exact .ok same

end LapTelemetry.Spec
