import LapTelemetry.Proofs.Spec.Scanning
import LapTelemetry.Proofs.Splits

/-! # Texts without trivia

A text is free of trivia if no character of it is a quote and no two characters in a row
open a comment (`TriviaFree`): character by character, each of them is code in front of what
follows it (`triviaFree_cons_iff`). Blanking leaves such a text alone, and what it makes of any
text is one. The places to look at are those where something has been taken out. A slash that
is kept stands in front of the next character of the text or of a blank
(`head?_blankFrom`), and the next character is not the second one of an opening, or the slash
would not have been kept. So a second blanking finds nothing (`blankTrivia_triviaFree`). -/

namespace LapTelemetry.Spec

open LapTelemetry.Text

set_option autoImplicit false

/-- A text in which no comment and no literal starts. -/
structure TriviaFree (text : List Char) : Prop where
  noQuote : ∀ c ∈ text, ¬ IsQuote c
  noLineComment : ¬ ['/', '/'] <:+: text
  noBlockComment : ¬ ['/', '*'] <:+: text

theorem triviaFree_nil : TriviaFree [] := ⟨by simp, by simp, by simp⟩

theorem triviaFree_cons_iff {c : Char} {rest : List Char} :
    TriviaFree (c :: rest) ↔ IsCode c rest ∧ TriviaFree rest := by
  constructor
  · rintro ⟨noQuote, noLineComment, noBlockComment⟩
    rw [pair_infix_cons_iff, not_or] at noLineComment noBlockComment
    obtain ⟨plain, plainRest⟩ := List.forall_mem_cons.mp noQuote
    refine ⟨⟨plain, ?_⟩, plainRest, noLineComment.2, noBlockComment.2⟩
    rintro ⟨slash, line | block⟩
    · exact noLineComment.1 ⟨slash, line⟩
    · exact noBlockComment.1 ⟨slash, block⟩
  · rintro ⟨⟨plain, noOpening⟩, noQuote, noLineComment, noBlockComment⟩
    refine ⟨List.forall_mem_cons.mpr ⟨plain, noQuote⟩, ?_, ?_⟩
    · rw [pair_infix_cons_iff, not_or]
      exact ⟨fun opening => noOpening ⟨opening.1, .inl opening.2⟩, noLineComment⟩
    · rw [pair_infix_cons_iff, not_or]
      exact ⟨fun opening => noOpening ⟨opening.1, .inr opening.2⟩, noBlockComment⟩

/-- Blanks in front of a text open nothing. -/
theorem triviaFree_blanks_append (blanks : List Char) {rest : List Char}
    (blank : ∀ c ∈ blanks, isBlank c = true) (free : TriviaFree rest) :
    TriviaFree (blanks ++ rest) := by
  induction blanks with
  | nil => exact free
  | cons c blanks ih =>
    obtain ⟨first, others⟩ := List.forall_mem_cons.mp blank
    obtain ⟨notQuote, notSlash⟩ := plain_of_isBlank first
    exact triviaFree_cons_iff.mpr ⟨isCode_of_plain notQuote notSlash _, ih others⟩

/-- What is blanked starts with a space, unless it is code: then it may start with the first
character of the text. -/
theorem head?_blankFrom (region : Region) (text : List Char) :
    ∀ c ∈ (blankFrom region text).head?,
      c = ' ' ∨ (∃ fresh, region = .code fresh) ∧ text.head? = some c := by
  fun_induction blankFrom region text <;> simp_all

theorem isCode_blankFrom {c : Char} {rest : List Char} (code : IsCode c rest) (region : Region) :
    IsCode c (blankFrom region rest) := by
  refine ⟨code.1, fun opening => code.2 ⟨opening.1, opening.2.imp ?_ ?_⟩⟩
  · intro first
    exact ((head?_blankFrom region rest _ first).resolve_left (by decide)).2
  · intro first
    exact ((head?_blankFrom region rest _ first).resolve_left (by decide)).2

/-- **What blanking writes is free of trivia**, in whatever region it starts. -/
theorem triviaFree_blankFrom (region : Region) (text : List Char) :
    TriviaFree (blankFrom region text) := by
  have spaceBefore {rest : List Char} (free : TriviaFree rest) : TriviaFree (' ' :: rest) :=
    triviaFree_blanks_append [' '] (List.all_eq_true.mp rfl) free
  fun_induction blankFrom region text with
  | case1 | case6 => exact triviaFree_nil
  | case5 fresh c rest isLine isBlock notQuote ih =>
    have code : IsCode c rest := isCode_of_not_opening isLine isBlock notQuote
    exact triviaFree_cons_iff.mpr ⟨isCode_blankFrom code _, ih⟩
  | case7 | case13 => exact spaceBefore triviaFree_nil
  | case8 fresh rest ih =>
    exact triviaFree_blanks_append [' ', '\n'] (List.all_eq_true.mp rfl) ih
  | case10 newlines afterStar =>
    have blank := triviaFree_blanks_append _ (isBlank_of_mem_space_newlines newlines) triviaFree_nil
    rwa [List.append_nil] at blank
  | case11 newlines afterStar c rest closing ih =>
    exact triviaFree_blanks_append _ (isBlank_of_mem_space_newlines newlines) ih
  | case16 escaped quote rest unescaped notBackslash ih => exact spaceBefore ih
  | case2 _ _ ih | case3 _ _ ih | case4 _ _ _ _ _ _ ih | case9 _ _ _ _ ih | case12 _ _ _ _ _ ih
  | case14 _ _ _ ih | case15 _ _ _ _ ih | case17 _ _ _ _ _ _ _ ih => exact ih

theorem blankFrom_of_triviaFree {text : List Char} (free : TriviaFree text) (fresh : Bool) :
    blankFrom (.code fresh) text = text := by
  induction text generalizing fresh with
  | nil => rw [blankFrom]
  | cons c rest ih =>
    obtain ⟨code, freeRest⟩ := triviaFree_cons_iff.mp free
    rw [blankFrom_code fresh code, ih freeRest]

/-- **Blanking takes all trivia away and nothing else.** What is left has no quote and no opening
of a comment, so blanking it again changes nothing; and a text is left as it is only if it had
none to begin with. -/
theorem blankTrivia_triviaFree (text : List Char) :
    TriviaFree (blankTrivia text) ∧ blankTrivia (blankTrivia text) = blankTrivia text ∧
      (blankTrivia text = text ↔ TriviaFree text) := by
  have free : TriviaFree (blankTrivia text) := triviaFree_blankFrom (.code false) text
  refine ⟨free, blankFrom_of_triviaFree free false, fun same => ?_, fun bare => ?_⟩
  · exact same ▸ free
  · exact blankFrom_of_triviaFree bare false

/-- Two slashes do not come together where a literal between them has been taken out. -/
example : blankTrivia "/\"x\"/".toList = "/ /".toList := by decide

end LapTelemetry.Spec
