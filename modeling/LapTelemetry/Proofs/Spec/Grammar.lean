import LapTelemetry.Spec.Declaration.Parser

/-! # The grammar of specifications

The grammar as rules on lists of lexical units, each rule with the tree that it
stands for. It knows nothing of how a text is read: a list of units is derivable or
it is not.

    specification := (';' | struct | union)*
    struct        := 'struct' [word] '{' field* '}'
    union         := 'union' word '{' (field | 'struct' '{' field* '}' word ';')* '}' ';'
    field         := word word ';' | word word '[' length ']' ';'

Names and types are any words, keywords among them, except that a member of a union
does not start with the word `struct` unless it is an inline struct. Trees carry
what the source says and neither lines nor node numbers; `outline` leaves these out
of the declarations that are read. -/

namespace LapTelemetry.Spec

open LapTelemetry.Number LapTelemetry.Text

set_option autoImplicit false

/-! ## Trees -/

namespace Outline

/-- A field: its name, and its type with the length of an array. -/
structure Field where
  name : String
  type : FieldType
  deriving DecidableEq, Repr

/-- A member of a union. -/
inductive Member where
  | field (field : Field)
  | inline (name : String) (fields : List Field)
  deriving DecidableEq, Repr

/-- A declaration. -/
inductive Declaration where
  | struct (name : Option String) (fields : List Field)
  | union (name : String) (members : List Member)
  deriving DecidableEq, Repr

end Outline

/-- A field without its number and line. -/
def FieldDecl.outline (decl : FieldDecl) : Outline.Field := ⟨decl.name, decl.type⟩

/-- The fields of a struct, in order. -/
def StructBody.outline (body : StructBody) : List Outline.Field :=
  body.fields.map FieldDecl.outline

/-- A member without numbers and lines. -/
def Member.outline : Member → Outline.Member
  | .field decl => .field decl.outline
  | .inline _ name body => .inline name body.outline

/-- A declaration without numbers and lines. -/
def Declaration.outline : Declaration → Outline.Declaration
  | .struct name body => .struct name body.outline
  | .union _ _ name members => .union name (members.map Member.outline)

/-- The declarations in order, without numbers and lines. -/
def Specification.outline (specification : Specification) : List Outline.Declaration :=
  specification.declarations.map Declaration.outline

/-! ## Rules -/

/-- The number that decimal digits spell, most significant first. -/
def digitsValue (digits : List Char) : Nat :=
  digits.foldl (fun value c => 10 * value + (c.toNat - '0'.toNat)) 0

/-- A word that spells a length: an optional plus sign and decimal digits, below 2 ^ 64. -/
def SpellsLength (text : String) (length : Nat) : Prop :=
  ∃ sign digits, text.toList = sign ++ digits ∧ (sign = [] ∨ sign = ['+']) ∧ digits ≠ [] ∧
    (∀ c ∈ digits, '0' ≤ c ∧ c ≤ '9') ∧ digitsValue digits = length ∧ length < pow2 64

/-- Any number of derivable things, one after the other. -/
inductive Many {β : Type} (derives : List TokenKind → β → Prop) :
    List TokenKind → List β → Prop where
  | nil : Many derives [] []
  | cons {first later : List TokenKind} {value : β} {others : List β} (head : derives first value)
      (tail : Many derives later others) : Many derives (first ++ later) (value :: others)

/-- A field. -/
inductive IsField : List TokenKind → Outline.Field → Prop where
  | named (type name : String) :
      IsField [.word type, .word name, .semicolon] ⟨name, .named type⟩
  | array (type name : String) {text : String} {length : Nat} (spells : SpellsLength text length) :
      IsField [.word type, .word name, .openBracket, .word text, .closeBracket, .semicolon]
        ⟨name, .array type length⟩

/-- A member of a union: a field whose type is not the word `struct`, or an inline
struct. -/
inductive IsMember : List TokenKind → Outline.Member → Prop where
  | field {kinds : List TokenKind} {field : Outline.Field} (derived : IsField kinds field)
      (plain : kinds.head? ≠ some (.word "struct")) :
      IsMember kinds (.field field)
  | inline {body : List TokenKind} {fields : List Outline.Field} (name : String)
      (derived : Many IsField body fields) :
      IsMember ([.word "struct", .openBrace] ++ body ++ [.closeBrace, .word name, .semicolon])
        (.inline name fields)

/-- A struct, with or without a name, or a union. -/
inductive IsDeclaration : List TokenKind → Outline.Declaration → Prop where
  | anonymous {body : List TokenKind} {fields : List Outline.Field}
      (derived : Many IsField body fields) :
      IsDeclaration ([.word "struct", .openBrace] ++ body ++ [.closeBrace]) (.struct none fields)
  | struct {body : List TokenKind} {fields : List Outline.Field} (name : String)
      (derived : Many IsField body fields) :
      IsDeclaration ([.word "struct", .word name, .openBrace] ++ body ++ [.closeBrace])
        (.struct (some name) fields)
  | union {body : List TokenKind} {members : List Outline.Member} (name : String)
      (derived : Many IsMember body members) :
      IsDeclaration ([.word "union", .word name, .openBrace] ++ body ++ [.closeBrace, .semicolon])
        (.union name members)

/-- A specification: declarations, with semicolons between them wherever one likes. -/
inductive IsSpecification : List TokenKind → List Outline.Declaration → Prop where
  | nil : IsSpecification [] []
  | separator {later : List TokenKind} {declarations : List Outline.Declaration}
      (tail : IsSpecification later declarations) :
      IsSpecification (.semicolon :: later) declarations
  | declaration {first later : List TokenKind} {declaration : Outline.Declaration}
      {others : List Outline.Declaration} (head : IsDeclaration first declaration)
      (tail : IsSpecification later others) :
      IsSpecification (first ++ later) (declaration :: others)

/-! ## What derivable units start with -/

theorem IsField.exists_word {kinds : List TokenKind} {field : Outline.Field}
    (derived : IsField kinds field) : ∃ type later, kinds = .word type :: later := by
  cases derived with
  | named type name => exact ⟨type, _, rfl⟩
  | array type name spells => exact ⟨type, _, rfl⟩

theorem IsMember.exists_word {kinds : List TokenKind} {member : Outline.Member}
    (derived : IsMember kinds member) : ∃ type later, kinds = .word type :: later := by
  cases derived with
  | field field plain => exact field.exists_word
  | inline name fields => exact ⟨"struct", _, rfl⟩

theorem IsDeclaration.exists_word {kinds : List TokenKind} {declaration : Outline.Declaration}
    (derived : IsDeclaration kinds declaration) :
    ∃ text later, kinds = .word text :: later ∧ (text = "struct" ∨ text = "union") := by
  cases derived with
  | anonymous _ => exact ⟨_, _, rfl, .inl rfl⟩
  | struct name _ => exact ⟨_, _, rfl, .inl rfl⟩
  | union name _ => exact ⟨_, _, rfl, .inr rfl⟩

/-- A member that starts with the word `struct` is an inline struct. -/
theorem isMember_struct_iff {front : List TokenKind} {member : Outline.Member} :
    IsMember (.word "struct" :: front) member ↔
      ∃ body name fields, front = .openBrace :: body ++ [.closeBrace, .word name, .semicolon] ∧
        member = .inline name fields ∧ Many IsField body fields := by
  constructor
  · intro derived
    generalize shape : TokenKind.word "struct" :: front = kinds at derived
    cases derived with
    | field field plain =>
      rw [← shape] at plain
      exact absurd rfl plain
    | @inline body fields name derived =>
      exact ⟨body, name, fields, (List.cons.inj shape).2, rfl, derived⟩
  · rintro ⟨body, name, fields, rfl, rfl, derived⟩
    exact .inline name derived

/-- A member that starts with another word is a field. -/
theorem isMember_field_iff {type : String} (plain : type ≠ "struct") {front : List TokenKind}
    {member : Outline.Member} :
    IsMember (.word type :: front) member ↔
      ∃ field, member = .field field ∧ IsField (.word type :: front) field := by
  constructor
  · intro derived
    generalize shape : TokenKind.word type :: front = kinds at derived
    cases derived with
    | field derived _ => exact ⟨_, rfl, derived⟩
    | inline name fields =>
      have same := (List.cons.inj shape).1
      exact absurd (TokenKind.word.inj same) plain
  · rintro ⟨field, rfl, derived⟩
    refine .field derived ?_
    simpa using plain

theorem isDeclaration_struct_iff {front : List TokenKind} {declaration : Outline.Declaration} :
    IsDeclaration (.word "struct" :: front) declaration ↔
      ∃ body fields, Many IsField body fields ∧
        ((front = .openBrace :: body ++ [.closeBrace] ∧ declaration = .struct none fields) ∨
          ∃ name, front = .word name :: .openBrace :: body ++ [.closeBrace] ∧
            declaration = .struct (some name) fields) := by
  constructor
  · intro derived
    generalize shape : TokenKind.word "struct" :: front = kinds at derived
    cases derived with
    | anonymous derived => exact ⟨_, _, derived, .inl ⟨(List.cons.inj shape).2, rfl⟩⟩
    | struct name derived => exact ⟨_, _, derived, .inr ⟨name, (List.cons.inj shape).2, rfl⟩⟩
    | union name _ => exact absurd (TokenKind.word.inj (List.cons.inj shape).1) (by decide)
  · rintro ⟨body, fields, derived, ⟨rfl, rfl⟩ | ⟨name, rfl, rfl⟩⟩
    · exact .anonymous derived
    · exact .struct name derived

theorem isDeclaration_union_iff {front : List TokenKind} {declaration : Outline.Declaration} :
    IsDeclaration (.word "union" :: front) declaration ↔
      ∃ body name members,
        front = .word name :: .openBrace :: body ++ [.closeBrace, .semicolon] ∧
          declaration = .union name members ∧ Many IsMember body members := by
  constructor
  · intro derived
    generalize shape : TokenKind.word "union" :: front = kinds at derived
    cases derived with
    | anonymous _ => exact absurd (TokenKind.word.inj (List.cons.inj shape).1) (by decide)
    | struct name _ => exact absurd (TokenKind.word.inj (List.cons.inj shape).1) (by decide)
    | union name derived => exact ⟨_, name, _, (List.cons.inj shape).2, rfl, derived⟩
  · rintro ⟨body, name, members, rfl, rfl, derived⟩
    exact .union name derived

/-! ## Lengths -/

theorem digitValue?_eq_some_iff {c : Char} {d : Nat} :
    Decimal.digitValue? c = some d ↔ ('0' ≤ c ∧ c ≤ '9') ∧ d = c.toNat - '0'.toNat := by
  rw [Decimal.digitValue?]
  by_cases digit : '0' ≤ c ∧ c ≤ '9'
  · rw [if_pos digit, Option.some.injEq, and_iff_right digit]
    exact eq_comm
  · simp [digit]

theorem readFrom_eq_some_iff {digits : List Char} {start value : Nat} :
    Decimal.readFrom start digits = some value ↔
      (∀ c ∈ digits, '0' ≤ c ∧ c ≤ '9') ∧
        digits.foldl (fun value c => 10 * value + (c.toNat - '0'.toNat)) start = value := by
  induction digits generalizing start with
  | nil => simp [Decimal.readFrom]
  | cons c rest ih =>
    rw [Decimal.readFrom, Option.bind_eq_some_iff, List.forall_mem_cons, List.foldl_cons]
    constructor
    · rintro ⟨d, digit, read⟩
      obtain ⟨within, rfl⟩ := digitValue?_eq_some_iff.mp digit
      obtain ⟨others, total⟩ := ih.mp read
      exact ⟨⟨within, others⟩, total⟩
    · rintro ⟨⟨within, others⟩, total⟩
      exact ⟨_, digitValue?_eq_some_iff.mpr ⟨within, rfl⟩, ih.mpr ⟨others, total⟩⟩

theorem value?_eq_some_iff {digits : List Char} {value : Nat} :
    Decimal.value? digits = some value ↔
      digits ≠ [] ∧ (∀ c ∈ digits, '0' ≤ c ∧ c ≤ '9') ∧ digitsValue digits = value := by
  cases digits with
  | nil => simp [Decimal.value?]
  | cons c rest =>
    rw [Decimal.value?, readFrom_eq_some_iff, digitsValue]
    · simp
    · exact List.cons_ne_nil c rest

/-- The characters after an optional plus sign. -/
def unsigned : List Char → List Char
  | '+' :: digits => digits
  | digits => digits

theorem arrayLength?_eq_value? {text : String} {length : Nat} :
    arrayLength? text = some length ↔
      Decimal.value? (unsigned text.toList) = some length ∧ length < pow2 64 := by
  have shape : arrayLength? text = (Decimal.value? (unsigned text.toList)).bind fun value =>
      if value < pow2 64 then some value else none := rfl
  rw [shape, Option.bind_eq_some_iff]
  constructor
  · rintro ⟨value, read, bounded⟩
    by_cases within : value < pow2 64
    · rw [if_pos within, Option.some.injEq] at bounded
      exact bounded ▸ ⟨read, within⟩
    · simp [within] at bounded
  · rintro ⟨read, within⟩
    exact ⟨length, read, if_pos within⟩

/-- A plus sign is no digit, so the sign of a spelling is the plus sign that is read. -/
theorem unsigned_of_digits {sign digits : List Char} (signed : sign = [] ∨ sign = ['+'])
    (decimal : ∀ c ∈ digits, '0' ≤ c ∧ c ≤ '9') : unsigned (sign ++ digits) = digits := by
  obtain rfl | rfl := signed
  · cases digits with
    | nil => rfl
    | cons c rest =>
      have plain : c ≠ '+' := by
        rintro rfl
        exact absurd (decimal '+' List.mem_cons_self) (by decide)
      rw [List.nil_append, unsigned]
      rintro others ⟨⟩
      exact plain rfl
  · rfl

theorem exists_sign (characters : List Char) :
    ∃ sign, characters = sign ++ unsigned characters ∧ (sign = [] ∨ sign = ['+']) := by
  unfold unsigned
  split
  · exact ⟨['+'], rfl, Or.inr rfl⟩
  · exact ⟨[], rfl, Or.inl rfl⟩

/-- The lengths that are read are those that a word spells. -/
theorem arrayLength?_eq_some_iff {text : String} {length : Nat} :
    arrayLength? text = some length ↔ SpellsLength text length := by
  rw [arrayLength?_eq_value?, value?_eq_some_iff]
  constructor
  · rintro ⟨⟨nonempty, decimal, value⟩, within⟩
    obtain ⟨sign, split, signed⟩ := exists_sign text.toList
    exact ⟨sign, unsigned text.toList, split, signed, nonempty, decimal, value, within⟩
  · rintro ⟨sign, digits, split, signed, nonempty, decimal, value, within⟩
    rw [split, unsigned_of_digits signed decimal]
    exact ⟨⟨nonempty, decimal, value⟩, within⟩

end LapTelemetry.Spec
