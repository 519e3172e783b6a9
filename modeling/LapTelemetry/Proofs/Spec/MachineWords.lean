import LapTelemetry.Proofs.Spec.CompilingAlike
import LapTelemetry.Proofs.Spec.Scanning

/-! # Compiling in machine words

Widths are natural numbers here and words of sixty-four bits on a machine. While the
fields of a body are collected every product and every sum is checked. When the body is
complete its layout is built and validated, and the same products and sums are computed
again, now without a check.

`Words` is the compiler with this second half done in words: a result that does not fit
is trapped, and then there is no outcome at all. Nothing is ever trapped, and the outcome
is that of `Registry.compile` (`Words.compile_eq`). The pivot is the exact extent of the
fields: building is trapped iff it reaches the bound (`Words.place_eq`), and collecting
the same fields refuses one of them iff it does (`appendAll_ok_or_refused`). -/

namespace LapTelemetry.Spec

open LapTelemetry.Wire

set_option autoImplicit false

/-- The outcome of a step that may fail and that may be trapped: `none` is a trap. -/
abbrev Trapping : Type → Type := ExceptT Fault Option

namespace Words

/-- A step in which nothing is trapped. -/
def untrapped {α : Type} (outcome : Except Fault α) : Trapping α := ExceptT.mk (some outcome)

/-- A step that fails only by a trap. -/
def arithmetic {α : Type} (result : Option α) : Trapping α := ExceptT.lift result

/-! ## Arithmetic without a check -/

/-- The result of a product or a sum, if it fits a word. -/
def fitting (result : Nat) : Option Nat := if result < widthBound then some result else none

/-- The width of a whole field. -/
def width (field : LayoutField Layout) : Option Nat :=
  fitting (field.element.width * field.shape.count)

/-- The extent of the fields with one more of the given width; a maximum always fits. -/
def extend : Arrangement → Nat → Nat → Option Nat
  | .struct, extent, width => fitting (extent + width)
  | .union, extent, width => some (max extent width)

/-- Give each field its offset, and compute the extent of them all. -/
def place (arrangement : Arrangement) :
    Nat → List (LayoutField Layout) → Option (List (LayoutField Layout) × Nat)
  | extent, [] => some ([], extent)
  | extent, field :: rest => do
    let extended ← width field >>= extend arrangement extent
    let (placed, total) ← place arrangement extended rest
    return ({ field with offset := arrangement.offset extent } :: placed, total)

/-- The layout of the given fields. -/
def build (name : String) (arrangement : Arrangement) (fields : List (LayoutField Layout)) :
    Option Layout := do
  let (placed, size) ← place arrangement 0 fields
  return ⟨name, arrangement, placed, size⟩

/-- Where a field ends. -/
def fieldEnd (field : LayoutField Layout) : Option Nat := do
  fitting (field.offset + (← width field))

/-- Check the fields of a layout in order. -/
def checkFields (layout : Layout) : List String → List (LayoutField Layout) → Trapping Unit
  | _, [] => return ()
  | seen, field :: rest => do
    if field.shape.count = 0 then
      throw (.invalidLayout layout.name (.emptyArray field.wireName))
    else if field.name ∈ seen then
      throw (.invalidLayout layout.name (.duplicateField field.name))
    else
      let last ← arithmetic (fieldEnd field)
      if layout.size < last then throw (.sizeMismatch layout.name layout.size last)
      else checkFields layout (field.name :: seen) rest

/-- The layout of complete fields, validated. -/
def finish (name : String) (arrangement : Arrangement) (fields : List (LayoutField Layout)) :
    Trapping Layout := do
  let layout ← arithmetic (build name arrangement fields)
  checkFields layout [] layout.fields
  return layout

/-! ## The compiler over it -/

def compileStruct (registry : Registry) (enclosing : List String) (name : String)
    (decl : StructBody) : Trapping Layout := do
  untrapped (checkTypeName registry enclosing name decl.line)
  let body ← untrapped (decl.fields.foldlM (compileField registry name .struct) Body.empty)
  finish name .struct body.fields

def compileMember (unionName : String) (state : Registry × Body) (member : Member) :
    Trapping (Registry × Body) := do
  let (registry, body) := state
  match member with
  | .field decl => return (registry, ← untrapped (compileField registry unionName .union body decl))
  | .inline _ memberName decl =>
    let name := FieldName.onText FieldName.normalize memberName
    untrapped (body.checkNew unionName name decl.line)
    let layout ← compileStruct registry [unionName] (FieldName.onText FieldName.camel name) decl
    let body ← untrapped <|
      body.append unionName .union decl.line ⟨name, memberName, .nested layout, .single, 0⟩
    return (registry.add layout, body)

def compileDeclaration (registry : Registry) : Declaration → Trapping Registry
  | .struct none _ => return registry
  | .struct (some name) decl => do
    let layout ← compileStruct registry [] name decl
    return registry.add layout
  | .union _ line name members => do
    untrapped (checkTypeName registry [] name line)
    let (registry, body) ← members.foldlM (compileMember name) (registry, Body.empty)
    let layout ← finish name .union body.fields
    return registry.add layout

/-- The registry of specification text, if nothing is trapped on the way to it. -/
def compile (text : String) : Trapping Registry := do
  let specification ← untrapped (Specification.ofText text.toList)
  specification.declarations.foldlM compileDeclaration ⟨[]⟩

end Words

/-! ## What fits -/

section Extents

variable {arrangement : Arrangement} {extent : Nat}

theorem le_place (fields : List (LayoutField Layout)) :
    extent ≤ (Layout.place arrangement extent fields).2 :=
  Layout.le_of_place (Layout.place_place fields)

theorem width_le_extend (width : Nat) : width ≤ arrangement.extend extent width :=
  Nat.le_trans (Nat.le_add_left _ _) (arrangement.offset_add_le_extend extent width)

/-- Collect fields into a body, each from a line of its own. -/
def Body.appendAll (body : Body) (name : String) (arrangement : Arrangement)
    (declared : List (Nat × LayoutField Layout)) : Except Fault Body :=
  declared.foldlM (fun body item => body.append name arrangement item.1 item.2) body

/-- A field that makes the extent too large is refused, and no other. -/
theorem append_ok_or_refused (arrangement : Arrangement) (body : Body) (name : String) (line : Nat)
    (field : LayoutField Layout) :
    (arrangement.extend body.extent field.width < widthBound ∧
      body.append name arrangement line field = .ok (body.extended arrangement field)) ∨
    (widthBound ≤ arrangement.extend body.extent field.width ∧
      ∃ cause, body.append name arrangement line field = .error (.specSyntax line cause)) := by
  by_cases fits : arrangement.extend body.extent field.width < widthBound
  · have narrow : field.width < widthBound := Nat.lt_of_le_of_lt (width_le_extend _) fits
    exact .inl ⟨fits, append_eq_ok_iff.mpr ⟨narrow, fits, rfl⟩⟩
  · have large := Nat.not_lt.mp fits
    refine .inr ⟨large, ?_⟩
    rw [Body.append]
    by_cases wide : widthBound ≤ field.width
    · exact ⟨_, if_pos wide⟩
    · rw [if_neg wide, if_pos large]
      exact ⟨_, rfl⟩

/-- **Collecting fields refuses one of them iff their extent reaches the bound.** -/
theorem appendAll_ok_or_refused (arrangement : Arrangement) (name : String)
    (declared : List (Nat × LayoutField Layout)) (body : Body) (within : body.extent < widthBound) :
    ((Layout.place arrangement body.extent (declared.map (·.2))).2 < widthBound ∧
      ∃ result, body.appendAll name arrangement declared = .ok result) ∨
    (widthBound ≤ (Layout.place arrangement body.extent (declared.map (·.2))).2 ∧
      ∃ line cause,
        body.appendAll name arrangement declared = .error (.specSyntax line cause)) := by
  induction declared generalizing body with
  | nil => exact .inl ⟨within, body, rfl⟩
  | cons item rest ih =>
    obtain ⟨line, field⟩ := item
    rw [Body.appendAll, List.foldlM_cons]
    rcases append_ok_or_refused arrangement body name line field with
      ⟨fits, appended⟩ | ⟨large, cause, refused⟩
    · rw [appended]
      exact ih (body.extended arrangement field) fits
    · rw [refused]
      exact .inr ⟨Nat.le_trans large (le_place _), line, cause, rfl⟩

end Extents

namespace Words

section Layouts

variable {arrangement : Arrangement} {extent : Nat}

theorem fitting_of_lt {result : Nat} (small : result < widthBound) :
    fitting result = some result := if_pos small

theorem fitting_of_le {result : Nat} (large : widthBound ≤ result) : fitting result = none :=
  if_neg (Nat.not_lt.mpr large)

/-- The width of a field is within the extent that it makes, so the extent decides alone. -/
theorem advance_eq (within : extent < widthBound) (field : LayoutField Layout) :
    (width field >>= extend arrangement extent) =
      fitting (arrangement.extend extent field.width) := by
  have isWidth : width field = fitting field.width := rfl
  rw [isWidth]
  by_cases narrow : field.width < widthBound
  · rw [fitting_of_lt narrow]
    cases arrangement with
    | struct => rfl
    | union => exact (fitting_of_lt (Nat.max_lt.mpr ⟨within, narrow⟩)).symm
  · have wide := Nat.not_lt.mp narrow
    rw [fitting_of_le wide, fitting_of_le (Nat.le_trans wide (width_le_extend _))]
    rfl

/-- **Placing is exact, or trapped if the extent reaches the bound.** -/
theorem place_eq (within : extent < widthBound) (fields : List (LayoutField Layout)) :
    place arrangement extent fields =
      if (Layout.place arrangement extent fields).2 < widthBound then
        some (Layout.place arrangement extent fields) else none := by
  induction fields generalizing extent with
  | nil => exact (if_pos within).symm
  | cons field rest ih =>
    have total : (Layout.place arrangement extent (field :: rest)).2 =
        (Layout.place arrangement (arrangement.extend extent field.width) rest).2 := rfl
    rw [place, advance_eq within, total]
    by_cases fits : arrangement.extend extent field.width < widthBound
    · rw [fitting_of_lt fits]
      simp only [Option.bind_eq_bind, Option.bind_some, ih fits]
      split
      · rfl
      · rfl
    · have large := Nat.not_lt.mp fits
      rw [fitting_of_le large, if_neg (Nat.not_lt.mpr (Nat.le_trans large (le_place rest)))]
      rfl

theorem build_eq (name : String) (fields : List (LayoutField Layout)) :
    build name arrangement fields =
      if (Layout.place arrangement 0 fields).2 < widthBound then
        some (Layout.build name arrangement fields) else none := by
  rw [build, place_eq (by decide)]
  split
  · rfl
  · rfl

/-- What lies within a layout of a size that fits is checked without a trap. -/
theorem checkFields_eq (layout : Layout) (fits : layout.size < widthBound)
    {fields : List (LayoutField Layout)}
    (inside : ∀ field ∈ fields, field.offset + field.width ≤ layout.size) (seen : List String) :
    checkFields layout seen fields = untrapped (layout.checkFields seen fields) := by
  induction fields generalizing seen with
  | nil => rfl
  | cons field rest ih =>
    have fieldInside := inside field List.mem_cons_self
    have endFits : field.offset + field.width < widthBound := Nat.lt_of_le_of_lt fieldInside fits
    have isWidth : width field = some field.width :=
      fitting_of_lt (Nat.lt_of_le_of_lt (Nat.le_add_left _ _) endFits)
    have isEnd : fieldEnd field = some (field.offset + field.width) := by
      rw [fieldEnd, isWidth]
      exact fitting_of_lt endFits
    have later := ih (fun other among => inside other (List.mem_cons_of_mem _ among))
    rw [checkFields, Layout.checkFields, isEnd]
    split
    · rfl
    split
    · rfl
    · rw [if_neg (Nat.not_lt.mpr fieldInside)]
      simp only [← later]
      change (if layout.size < field.offset + field.width then _ else _) = _
      rw [if_neg (Nat.not_lt.mpr fieldInside)]

/-- **Finishing a layout is exact, or trapped if the extent reaches the bound.** -/
theorem finish_eq (name : String) (arrangement : Arrangement)
    (fields : List (LayoutField Layout)) :
    finish name arrangement fields =
      if (Layout.place arrangement 0 fields).2 < widthBound then
        untrapped (Spec.finish name arrangement ⟨fields, 0⟩) else none := by
  rw [finish, build_eq]
  split
  case isFalse => rfl
  case isTrue fits =>
    have placed := Layout.place_of_built ⟨name, arrangement, fields, rfl⟩
    have checked := checkFields_eq (Layout.build name arrangement fields) fits
      (fun field member => Layout.end_le_of_place placed member) []
    show (checkFields (Layout.build name arrangement fields) [] _ >>= _) = _
    rw [checked, Spec.finish, Layout.validate]
    cases (Layout.build name arrangement fields).checkFields [] _ with
    | error fault => rfl
    | ok done => rfl

theorem finish_of_regular (name : String) {body : Body} (regular : body.Regular arrangement) :
    finish name arrangement body.fields = untrapped (Spec.finish name arrangement body) := by
  have fits := regular.extent_lt
  rw [regular.extent_eq] at fits
  have finished := finish_eq name arrangement body.fields
  rwa [if_pos fits] at finished

/-- Finishing is trapped exactly for fields that collecting refuses. -/
theorem finish_eq_none_iff (name : String) (declared : List (Nat × LayoutField Layout)) :
    finish name arrangement (declared.map (·.2)) = none ↔
      ∃ line cause, Body.empty.appendAll name arrangement declared =
        .error (.specSyntax line cause) := by
  rw [finish_eq]
  rcases appendAll_ok_or_refused arrangement name declared Body.empty (by decide) with
    ⟨fits, result, collected⟩ | ⟨large, line, cause, refused⟩
  · rw [collected, if_pos (show (Layout.place arrangement 0 _).2 < widthBound from fits)]
    exact iff_of_false (fun trapped => by cases trapped) (fun ⟨_, _, refused⟩ => by cases refused)
  · rw [if_neg (show ¬ (Layout.place arrangement 0 _).2 < widthBound from Nat.not_lt.mpr large)]
    exact iff_of_true rfl ⟨line, cause, refused⟩

end Layouts

/-! ## Nothing is trapped -/

section Compiler

variable {α β : Type}

/-- Steps without a trap in a row are one step without a trap. -/
theorem untrapped_bind {first : Except Fault α} {next : α → Except Fault β}
    {nextWords : α → Trapping β}
    (goes : ∀ value, first = .ok value → nextWords value = untrapped (next value)) :
    (untrapped first >>= nextWords) = untrapped (first >>= next) := by
  cases first with
  | error fault => rfl
  | ok value => exact goes value rfl

theorem foldlM_untrapped (good : α → Prop) {step : α → β → Except Fault α}
    {stepWords : α → β → Trapping α}
    (each : ∀ value item, good value → stepWords value item = untrapped (step value item))
    (keeps : ∀ value item result, good value → step value item = .ok result → good result)
    (items : List β) {first : α} (isGood : good first) :
    items.foldlM stepWords first = untrapped (items.foldlM step first) := by
  induction items generalizing first with
  | nil => rfl
  | cons item items ih =>
    rw [List.foldlM_cons, List.foldlM_cons, each first item isGood]
    apply untrapped_bind
    intro value done
    exact ih (keeps first item value isGood done)

theorem compileStruct_eq (registry : Registry) (outer : List OpenBody) (name : String)
    (decl : StructBody) :
    compileStruct registry (outer.map (·.name)) name decl =
      untrapped (Spec.compileStruct registry (outer.map (·.name)) name decl) := by
  apply untrapped_bind
  intro _ _
  apply untrapped_bind
  intro body collected
  have follows := Follows.foldlM
    (fun body decl regular => follows_compileField registry name outer decl regular)
    decl.fields (regular_empty .struct)
  exact finish_of_regular name (follows.sound body collected).2.2

theorem compileMember_eq (unionName : String) (state : Registry × Body) (member : Member) :
    compileMember unionName state member =
      untrapped (Spec.compileMember unionName state member) := by
  obtain ⟨registry, body⟩ := state
  cases member with
  | field decl =>
    apply untrapped_bind
    intro extended _
    rfl
  | inline index memberName decl =>
    apply untrapped_bind
    intro _ _
    have struct := compileStruct_eq registry [body.opened unionName .union] (inlineName memberName)
      decl
    refine Eq.trans (congrArg (· >>= _) struct) ?_
    apply untrapped_bind
    intro layout _
    apply untrapped_bind
    intro extended _
    rfl

theorem compileDeclaration_eq (registry : Registry) (declaration : Declaration) :
    compileDeclaration registry declaration =
      untrapped (Spec.compileDeclaration registry declaration) := by
  cases declaration with
  | struct name decl =>
    cases name with
    | none => rfl
    | some name =>
      refine Eq.trans (congrArg (· >>= _) (compileStruct_eq registry [] name decl)) ?_
      apply untrapped_bind
      intro layout _
      rfl
  | union index line name members =>
    apply untrapped_bind
    intro _ _
    have keeps (state : Registry × Body) (member : Member) (result : Registry × Body)
        (regular : state.2.Regular .union)
        (compiled : Spec.compileMember name state member = .ok result) : result.2.Regular .union :=
      ((follows_compileMember name state member regular).sound result compiled).2.2
    have start : (registry, Body.empty).2.Regular .union := regular_empty .union
    have collected := foldlM_untrapped (fun state => state.2.Regular .union)
      (fun state member _ => compileMember_eq name state member) keeps members start
    have regular (state : Registry × Body)
        (compiled : members.foldlM (Spec.compileMember name) (registry, .empty) = .ok state) :=
      ((Follows.foldlM (fun state member regular => follows_compileMember name state member regular)
        members start).sound state compiled).2.2
    refine Eq.trans (congrArg (· >>= _) collected) ?_
    apply untrapped_bind
    rintro ⟨completed, body⟩ compiled
    refine Eq.trans (congrArg (· >>= _) (finish_of_regular name (regular _ compiled))) ?_
    apply untrapped_bind
    intro layout _
    rfl

/-- **Compiling in words traps nothing and has the outcome of compiling.** -/
theorem compile_eq (text : String) : compile text = untrapped (Registry.compile text) := by
  apply untrapped_bind
  intro specification _
  exact foldlM_untrapped (fun _ => True)
    (fun registry declaration _ => compileDeclaration_eq registry declaration)
    (fun _ _ _ _ _ => trivial) specification.declarations trivial

end Compiler

end Words

/-! ## What compiling comes to -/

/-- A fault that compiling may report: a syntax fault on a line of the text, or a type that
is not known. -/
inductive Reportable (text : String) : Fault → Prop where
  | onLine {line : Nat} (cause : SyntaxFault) (first : 1 ≤ line)
      (last : line ≤ 1 + text.toList.count '\n') : Reportable text (.specSyntax line cause)
  | unresolved (name referencedBy : String) : Reportable text (.unresolvedType name referencedBy)

/-- Tokens are alike to themselves on the lines of their text. -/
theorem tokensAlike_self (text : List Char) :
    TokensAlike (fun line line' => line = line' ∧ 1 ≤ line ∧ line ≤ 1 + text.count '\n')
      (Token.ofText (blankTrivia text)) (Token.ofText (blankTrivia text)) := by
  refine List.forall₂_same.mpr fun token member => ⟨rfl, rfl, ?_⟩
  exact line_of_mem_ofText member

theorem reportable_of_compile {text : String} {fault : Fault}
    (refused : Registry.compile text = .error fault) : Reportable text fault := by
  have alike := ofChars_alike ⟨rfl, Nat.le_refl 1, Nat.le_add_right 1 _⟩
    (tokensAlike_self text.toList)
  rw [Registry.compile] at refused
  rw [refused] at alike
  cases alike with
  | error faults =>
    cases faults with
    | onLine cause related => exact .onLine cause related.2.1 related.2.2
    | unresolved name referencedBy => exact .unresolved name referencedBy

/-- **Compiling reports faults of the text only, and no unchecked width or sum overflows.**
Whatever the text, a refusal is reportable, and compiling in words has the outcome of
compiling; and whatever the fields, finishing their layout in words is trapped exactly if
collecting them refuses one. -/
theorem compile_confined (text : String) :
    (∀ fault, Registry.compile text = .error fault → Reportable text fault) ∧
      Words.compile text = some (Registry.compile text) ∧
      ∀ name arrangement declared,
        Words.finish name arrangement (declared.map (·.2)) = none ↔
          ∃ line cause, Body.empty.appendAll name arrangement declared =
            .error (.specSyntax line cause) := by
  refine ⟨fun fault refused => reportable_of_compile refused, Words.compile_eq text, ?_⟩
  intro name arrangement declared
  exact Words.finish_eq_none_iff name declared

/-- Arrays that fit by themselves, and a field too many. -/
def wideText : String :=
  "struct Page \x7b uint8 m_bytes[4294967296]; \x7d;\n" ++
    "struct Book \x7b Page m_pages[4294967295];\nPage m_last; \x7d;"

/-- The fields of `Book` with the lines that they stand on. -/
def wideFields : List (Nat × LayoutField Layout) :=
  let page := Layout.build "Page" .struct
    [⟨"bytes", "m_bytes", .primitive .uint8, .array 4294967296, 0⟩]
  [(2, ⟨"pages", "m_pages", .nested page, .array 4294967295, 0⟩),
    (3, ⟨"last", "m_last", .nested page, .single, 0⟩)]

/-- The line and the cause of a refusal, which can be compared. -/
def refusal? {α : Type} : Except Fault α → Option (Nat × SyntaxFault)
  | .error (.specSyntax line cause) => some (line, cause)
  | _ => none

theorem eq_error_of_refusal? {α : Type} {outcome : Except Fault α} {line : Nat}
    {cause : SyntaxFault} (refused : refusal? outcome = some (line, cause)) :
    outcome = .error (.specSyntax line cause) := by
  unfold refusal? at refused
  split at refused
  case h_1 =>
    cases refused
    rfl
  case h_2 => cases refused

theorem compile_confined_wide :
    Registry.compile wideText = .error (.specSyntax 3 (.oversizedType "Book")) ∧
      Reportable wideText (.specSyntax 3 (.oversizedType "Book")) ∧
      Words.compile wideText = some (.error (.specSyntax 3 (.oversizedType "Book"))) ∧
      Words.finish "Book" .struct (wideFields.map (·.2)) = none := by
  have refused : Registry.compile wideText = .error (.specSyntax 3 (.oversizedType "Book")) :=
    eq_error_of_refusal? (by decide +kernel)
  have collected : Body.empty.appendAll "Book" .struct wideFields =
      .error (.specSyntax 3 (.oversizedType "Book")) := eq_error_of_refusal? (by decide +kernel)
  obtain ⟨reportable, inWords, trapped⟩ := compile_confined wideText
  rw [refused] at inWords
  refine ⟨refused, reportable _ refused, inWords, ?_⟩
  exact (trapped "Book" .struct wideFields).mpr ⟨3, .oversizedType "Book", collected⟩

end LapTelemetry.Spec
