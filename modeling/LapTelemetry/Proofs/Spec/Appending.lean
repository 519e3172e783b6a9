import LapTelemetry.Proofs.Spec.Compilation
import LapTelemetry.Proofs.Spec.Scanning

/-! # Text behind a specification

A text that is a specification by itself stands in front of another text, on lines of
its own. If the whole is a specification too, then it is read as the first and something
behind it, and it compiles to the layouts of the first and others behind them
(`layouts_of_appended`).

Each stage adds to this. The tokens of the first text are the first tokens of the whole
(`exists_ofText_append`); the grammar has one way to take a declaration from the front of
the units, so the declarations of the first text come first (`IsSpecification.of_append`);
and no step of the walk removes or changes a layout (`layouts_prefix_run`). -/

namespace LapTelemetry.Spec

open LapTelemetry.Text LapTelemetry.Wire

set_option autoImplicit false

/-! ## Tokens -/

/-- Blanks at the end of a text make no tokens. -/
theorem Token.scan_append_blanks {line : Nat} {word : List Char} (text : List Char)
    {blanks : List Char} (blank : ∀ c ∈ blanks, isBlank c = true) :
    scan line word (text ++ blanks) = scan line word text := by
  cases blanks with
  | nil => rw [List.append_nil]
  | cons c blanks =>
    obtain ⟨first, others⟩ := List.forall_mem_cons.mp blank
    rw [scan_append_blank first, scan_of_blanks others]
    exact List.append_nil _

/-- The tokens of a terminated text are the first tokens of it with more lines behind it. -/
theorem exists_ofText_append {text : List Char} (terminated : Terminated text)
    (more : List Char) :
    ∃ later, Token.ofText (blankTrivia (text ++ '\n' :: more)) =
      Token.ofText (blankTrivia text) ++ later := by
  obtain ⟨blanks, blank, blanked⟩ := blankFrom_newline false terminated more
  have newline : isBlank '\n' = true := by decide
  rw [Token.ofText, Token.ofText, blankTrivia, blankTrivia, blanked, ← List.append_assoc,
    Token.scan_append_blank newline, Token.scan_append_blanks _ blank]
  exact ⟨_, rfl⟩

/-! ## Declarations -/

/-- There is one way to take a declaration from the front of lexical units. -/
theorem IsDeclaration.unique {front front' tail tail' : List TokenKind}
    {declaration declaration' : Outline.Declaration} (derived : IsDeclaration front declaration)
    (derived' : IsDeclaration front' declaration') (same : front ++ tail = front' ++ tail') :
    declaration = declaration' ∧ tail = tail' := by
  obtain ⟨text, body, rfl, -⟩ := derived.exists_word
  obtain ⟨text', body', rfl, -⟩ := derived'.exists_word
  obtain ⟨sameWord, sameRest⟩ := List.cons.inj same
  cases sameWord
  -- The reader takes one declaration from these units, so both are that one.
  let tokens : List Token := (body ++ tail).map fun kind => ⟨kind, 1⟩
  have spelled : kinds tokens = body ++ tail := by
    rw [kinds, List.map_map]
    exact List.map_id _
  have recognizes := recognizes_declarationAfter 1 1 text 1 tokens
  obtain ⟨parsed, read, value, rest⟩ := recognizes.complete _ _ _ spelled derived
  obtain ⟨parsed', read', value', rest'⟩ :=
    recognizes.complete _ _ _ (spelled.trans sameRest) derived'
  cases read.symm.trans read'
  exact ⟨value.symm.trans value', rest.symm.trans rest'⟩

namespace IsSpecification

variable {units later : List TokenKind} {tree whole : List Outline.Declaration}

theorem of_semicolon (derived : IsSpecification (.semicolon :: units) tree) :
    IsSpecification units tree := by
  generalize shape : TokenKind.semicolon :: units = given at derived
  cases derived with
  | nil => cases shape
  | separator tail =>
    cases shape
    exact tail
  | declaration head _ =>
    obtain ⟨text, body, rfl, -⟩ := head.exists_word
    cases shape

/-- Where a declaration can be taken from the front, it is the first of the tree. -/
theorem of_declaration {front : List TokenKind} {declaration : Outline.Declaration}
    (first : IsDeclaration front declaration) (derived : IsSpecification (front ++ units) tree) :
    ∃ others, tree = declaration :: others ∧ IsSpecification units others := by
  generalize shape : front ++ units = given at derived
  cases derived with
  | nil =>
    obtain ⟨text, body, rfl, -⟩ := first.exists_word
    cases shape
  | separator tail =>
    obtain ⟨text, body, rfl, -⟩ := first.exists_word
    cases shape
  | declaration head tail =>
    obtain ⟨rfl, rfl⟩ := first.unique head shape
    exact ⟨_, rfl, tail⟩

/-- **A specification in front is read as by itself.** -/
theorem of_append (front : IsSpecification units tree)
    (derived : IsSpecification (units ++ later) whole) :
    ∃ others, whole = tree ++ others ∧ IsSpecification later others := by
  induction front generalizing whole with
  | nil => exact ⟨whole, rfl, derived⟩
  | separator _ ih => exact ih derived.of_semicolon
  | declaration head _ ih =>
    rw [List.append_assoc] at derived
    obtain ⟨rest, rfl, behind⟩ := of_declaration head derived
    obtain ⟨others, rfl, isLater⟩ := ih behind
    exact ⟨others, rfl, isLater⟩

end IsSpecification

/-- The declarations of a specification are the first of one whose text goes on. -/
theorem outline_prefix_of_append {text more : List Char} {front whole : Specification}
    (terminated : Terminated text) (readFront : Specification.ofText text = .ok front)
    (readWhole : Specification.ofText (text ++ '\n' :: more) = .ok whole) :
    front.outline <+: whole.outline := by
  obtain ⟨later, split⟩ := exists_ofText_append terminated more
  rw [Specification.ofText, split] at readWhole
  have ofFront := ((ofTokens_iff_isSpecification _).2 _).mpr ⟨front, readFront, rfl⟩
  have ofWhole := ((ofTokens_iff_isSpecification _).2 _).mpr ⟨whole, readWhole, rfl⟩
  rw [kinds, List.map_append] at ofWhole
  obtain ⟨others, same, -⟩ := ofFront.of_append ofWhole
  exact ⟨others, same.symm⟩

/-! ## Layouts -/

/-- A step completes one type more, or none. -/
theorem layouts_prefix_after (walk : Walk) (step : Step) :
    walk.completed.layouts <+: (walk.after step).completed.layouts := by
  obtain ⟨completed, openBodies⟩ := walk
  cases step with
  | opens name arrangement => exact List.prefix_refl _
  | field declared =>
    cases openBodies with
    | nil => exact List.prefix_refl _
    | cons body outer => exact List.prefix_refl _
  | closes =>
    cases openBodies with
    | nil => exact List.prefix_refl _
    | cons body outer => exact List.prefix_append _ _

/-- Whatever the steps, the complete types stay as they are. -/
theorem layouts_prefix_run (walk : Walk) (steps : List Step) :
    walk.completed.layouts <+: (walk.run steps).completed.layouts := by
  induction steps generalizing walk with
  | nil => exact List.prefix_refl _
  | cons step steps ih => exact (layouts_prefix_after walk step).trans (ih (walk.after step))

theorem layouts_prefix_of_outline {front whole : Specification} {registry extended : Registry}
    (ofFront : Registry.ofSpecification front = .ok registry)
    (ofWhole : Registry.ofSpecification whole = .ok extended)
    (outlines : front.outline <+: whole.outline) : registry.layouts <+: extended.layouts := by
  obtain ⟨others, split⟩ := outlines
  obtain ⟨-, reachedFront, -⟩ := (follows_ofSpecification front).sound registry ofFront
  obtain ⟨-, reachedWhole, -⟩ := (follows_ofSpecification whole).sound extended ofWhole
  have steps : whole.steps = front.steps ++ others.flatMap Outline.Declaration.steps := by
    rw [Specification.steps, ← split, List.flatMap_append, Specification.steps]
  have kept := layouts_prefix_run ⟨registry, []⟩ (others.flatMap Outline.Declaration.steps)
  rw [steps, Walk.run_append, reachedFront] at reachedWhole
  rwa [reachedWhole] at kept

/-- A name that is known keeps its layout when others join behind. -/
theorem get?_of_prefix {registry extended : Registry} {name : String} {layout : Layout}
    (layouts : registry.layouts <+: extended.layouts) (known : registry.get? name = some layout) :
    extended.get? name = some layout := by
  obtain ⟨others, split⟩ := layouts
  rw [Registry.get?] at known
  rw [Registry.get?, ← split, List.find?_append, known]
  rfl

/-- **Text behind a specification leaves its layouts alone.** If a text in which every
comment and literal is closed compiles, and it compiles with more lines behind it, then
its layouts are the first of the whole, and what a name stands for stays the same. -/
theorem layouts_of_appended (text more : String) (registry extended : Registry)
    (closed : ¬ Unterminated text.toList) (compiled : Registry.compile text = .ok registry)
    (appended : Registry.compile (text ++ "\n" ++ more) = .ok extended) :
    registry.layouts <+: extended.layouts ∧
      ∀ name layout, registry.get? name = some layout → extended.get? name = some layout := by
  have terminated := (terminated_or_unterminated text.toList).resolve_right closed
  obtain ⟨front, readFront, ofFront⟩ := bind_eq_ok.mp compiled
  obtain ⟨whole, readWhole, ofWhole⟩ := bind_eq_ok.mp appended
  have characters : (text ++ "\n" ++ more).toList = text.toList ++ '\n' :: more.toList := by
    rw [String.toList_append, String.toList_append, List.append_assoc]
    rfl
  rw [characters] at readWhole
  have layouts := layouts_prefix_of_outline ofFront ofWhole
    (outline_prefix_of_append terminated readFront readWhole)
  exact ⟨layouts, fun name layout known => get?_of_prefix layouts known⟩

/-- A struct, and a comment that runs to the end of the text. -/
def splitText : String := "struct S \x7b uint8 ms; \x7d; // one"

/-- A union over it, with an inline struct. -/
def bestText : String := "union B \x7b S a; struct \x7b S b[7]; \x7d laps; \x7d;"

theorem layouts_of_appended_best :
    ∃ registry extended, Registry.compile splitText = .ok registry ∧
      Registry.compile (splitText ++ "\n" ++ bestText) = .ok extended ∧
      registry.layouts.map (fun layout => (layout.name, layout.size)) = [("S", 1)] ∧
      extended.layouts.map (fun layout => (layout.name, layout.size)) =
        [("S", 1), ("Laps", 7), ("B", 7)] ∧
      registry.layouts <+: extended.layouts ∧
      ∀ name layout, registry.get? name = some layout → extended.get? name = some layout := by
  have closed : ¬ Unterminated splitText.toList := by
    intro unterminated
    have plain : splitText.toList.all (fun c => !decide (IsQuote c)) = true := by decide +kernel
    have noQuote : ¬ ∃ c ∈ splitText.toList, IsQuote c := by
      rintro ⟨c, member, isQuote⟩
      simpa [isQuote] using List.all_eq_true.mp plain c member
    have noComment : ¬ ['/', '*'] <:+: splitText.toList := by decide +kernel
    exact (opening_of_unterminated unterminated).elim noQuote noComment
  have sizes : (Registry.compile splitText).toOption.map
      (fun registry => registry.layouts.map fun layout => (layout.name, layout.size)) =
        some [("S", 1)] := by decide +kernel
  have sizesAppended : (Registry.compile (splitText ++ "\n" ++ bestText)).toOption.map
      (fun registry => registry.layouts.map fun layout => (layout.name, layout.size)) =
        some [("S", 1), ("Laps", 7), ("B", 7)] := by decide +kernel
  obtain ⟨registry, compiled, listed⟩ := toOption_map_eq_some_iff.mp sizes
  obtain ⟨extended, appended, listedAppended⟩ := toOption_map_eq_some_iff.mp sizesAppended
  exact ⟨registry, extended, compiled, appended, listed, listedAppended,
    layouts_of_appended splitText bestText registry extended closed compiled appended⟩

end LapTelemetry.Spec
