import LapTelemetry.Proofs.Spec.Scanning
import LapTelemetry.Proofs.Spec.CompilingAlike

/-! # Ways to write a specification

`Spells` says that a text is one way to write lexical units: each unit in its
spelling, any trivia before it, and at least one item of trivia between two words.
Behind the last unit a line comment may do without its newline. Whatever the trivia
are, the text is cut into the units it was written from (`kinds_of_spells`), and so two
texts that spell the same units mean the same (`compile_of_spells`): they compile to
one registry, or they are refused for one cause. -/

namespace LapTelemetry.Spec

open LapTelemetry.Text

set_option autoImplicit false

/-! ## Trivia in a row -/

/-- Any number of items of trivia. -/
inductive IsTrivia : List Char → Prop where
  | nil : IsTrivia []
  | cons {item rest : List Char} (first : IsTrivium item) (others : IsTrivia rest) :
      IsTrivia (item ++ rest)

/-- Trivia at the end of a text, where a line comment needs no newline. -/
inductive IsLastTrivia : List Char → Prop where
  | closed {gap : List Char} (trivia : IsTrivia gap) : IsLastTrivia gap
  | lineComment {gap body : List Char} (trivia : IsTrivia gap) (oneLine : '\n' ∉ body) :
      IsLastTrivia (gap ++ '/' :: '/' :: body)

theorem blankFrom_trivia (fresh : Bool) {gap : List Char} (trivia : IsTrivia gap) :
    ∃ blanks after, (blanks = [] → gap = []) ∧ (∀ c ∈ blanks, isBlank c = true) ∧
      ∀ rest, blankFrom (.code fresh) (gap ++ rest) = blanks ++ blankFrom (.code after) rest := by
  induction trivia generalizing fresh with
  | nil => exact ⟨[], fresh, fun _ => rfl, by simp, fun rest => rfl⟩
  | cons first _ ih =>
    obtain ⟨blanks, after, nonempty, blank, blanked⟩ := blankFrom_trivium fresh first
    obtain ⟨others, last, -, othersBlank, othersBlanked⟩ := ih after
    refine ⟨blanks ++ others, last, fun empty => ?_, fun c member => ?_, fun rest => ?_⟩
    · exact absurd (List.append_eq_nil_iff.mp empty).1 nonempty
    · rcases List.mem_append.mp member with among | among
      · exact blank c among
      · exact othersBlank c among
    · rw [List.append_assoc, blanked, othersBlanked, List.append_assoc]

theorem blankFrom_lastTrivia (fresh : Bool) {gap : List Char} (trivia : IsLastTrivia gap) :
    ∀ c ∈ blankFrom (.code fresh) gap, isBlank c = true := by
  cases trivia with
  | closed trivia =>
    obtain ⟨blanks, after, -, blank, blanked⟩ := blankFrom_trivia fresh trivia
    have whole := blanked []
    rw [List.append_nil] at whole
    rw [whole, blankFrom, List.append_nil]
    exact blank
  | @lineComment gap body trivia oneLine =>
    obtain ⟨blanks, after, -, blank, blanked⟩ := blankFrom_trivia fresh trivia
    rw [blanked, blankFrom, blankFrom_lineComment_end after oneLine]
    intro c member
    rcases List.mem_append.mp member with among | last
    · exact blank c among
    · cases after with
      | true => cases last
      | false =>
        rw [List.mem_singleton.mp last]
        decide

/-! ## Units -/

/-- Whether a unit is a word. -/
def TokenKind.isWord : TokenKind → Bool
  | .word _ => true
  | _ => false

/-- A word that can be written without being taken for something else: it is not empty,
and has no blank, no mark, no slash and no quote in it. -/
structure PlainWord (text : List Char) : Prop where
  nonempty : text ≠ []
  plain : ∀ c ∈ text, IsWordChar c ∧ ¬ IsQuote c ∧ c ≠ '/'

/-- A unit that can be written: a mark, or a plain word. -/
def TokenKind.Plain : TokenKind → Prop
  | .word text => PlainWord text.toList
  | _ => True

/-- A text that spells units; the flag says that a word stands in front of it. -/
inductive SpellsAfter : Bool → List TokenKind → List Char → Prop where
  | nil {afterWord : Bool} {gap : List Char} (trivia : IsLastTrivia gap) :
      SpellsAfter afterWord [] gap
  | cons {afterWord : Bool} {gap text : List Char} {kind : TokenKind} {kinds : List TokenKind}
      (trivia : IsTrivia gap) (plain : kind.Plain)
      (apart : afterWord = true → kind.isWord = true → gap ≠ [])
      (others : SpellsAfter kind.isWord kinds text) :
      SpellsAfter afterWord (kind :: kinds) (gap ++ (kind.spelling.toList ++ text))

/-- A text that spells units. -/
def Spells (kinds : List TokenKind) (text : List Char) : Prop := SpellsAfter false kinds text

theorem blankFrom_plainWord (fresh : Bool) {text : List Char} (isPlain : PlainWord text)
    (rest : List Char) :
    blankFrom (.code fresh) (text ++ rest) = text ++ blankFrom (.code false) rest := by
  obtain ⟨nonempty, plain⟩ := isPlain
  induction text generalizing fresh with
  | nil => exact absurd rfl nonempty
  | cons c text ih =>
    obtain ⟨⟨isWordChar, notQuote, notSlash⟩, others⟩ := List.forall_mem_cons.mp plain
    have notNewline := Token.ne_newline_of_isWordChar isWordChar
    rw [List.cons_append, blankFrom_code fresh (isCode_of_plain notQuote notSlash _)]
    cases text with
    | nil => simp [notNewline]
    | cons next text =>
      rw [ih (c = '\n') (List.cons_ne_nil _ _) others]
      rfl

/-- A mark is a character of its own, which starts no trivia. -/
theorem exists_mark {kind : TokenKind} (isMark : kind.isWord = false) :
    ∃ c, kind.spelling.toList = [c] ∧ TokenKind.ofMark? c = some kind ∧
      ∀ rest, IsCode c rest := by
  have code {c : Char} (notQuote : ¬ IsQuote c) (notSlash : c ≠ '/') (rest : List Char) :=
    isCode_of_plain notQuote notSlash rest
  cases kind with
  | word text => cases isMark
  | semicolon => exact ⟨';', rfl, rfl, code (by decide) (by decide)⟩
  | openBracket => exact ⟨'[', rfl, rfl, code (by decide) (by decide)⟩
  | closeBracket => exact ⟨']', rfl, rfl, code (by decide) (by decide)⟩
  | openBrace => exact ⟨'\x7b', rfl, rfl, code (by decide) (by decide)⟩
  | closeBrace => exact ⟨'\x7d', rfl, rfl, code (by decide) (by decide)⟩

theorem kinds_pending {word : List Char} (nonempty : word ≠ []) (line : Nat) :
    kinds (Token.pending line word.reverse) = [.word (String.ofList word)] := by
  have given : word.reverse.isEmpty = false := by
    rw [List.isEmpty_eq_false_iff]
    exact fun empty => nonempty (List.reverse_eq_nil_iff.mp empty)
  rw [Token.pending, given, List.reverse_reverse]
  rfl

/-- A unit that is written is cut off, with the word in front of it, if the rest is
cut as it should be. A word needs that no other is in front of it. -/
theorem kinds_scan_unit {kind : TokenKind} {units : List TokenKind} {text word : List Char}
    (plain : kind.Plain) (apart : kind.isWord = true → word = [])
    (others : ∀ fresh line collected, (kind.isWord = false → collected = []) →
      kinds (Token.scan line collected (blankFrom (.code fresh) text)) =
        kinds (Token.pending line collected) ++ units)
    (fresh : Bool) (line : Nat) :
    kinds (Token.scan line word (blankFrom (.code fresh) (kind.spelling.toList ++ text))) =
      kinds (Token.pending line word) ++ kind :: units := by
  cases isWord : kind.isWord with
  | true =>
    cases kind with
    | word name =>
      have isPlain : PlainWord name.toList := plain
      have collected := others false line name.toList.reverse (fun isMark => by cases isMark)
      rw [TokenKind.spelling, blankFrom_plainWord fresh isPlain,
        Token.scan_word (fun c member => (isPlain.plain c member).1), apart isWord,
        List.append_nil, collected, kinds_pending isPlain.nonempty, String.ofList_toList]
      rfl
    | semicolon | openBracket | closeBracket | openBrace | closeBrace => cases isWord
  | false =>
    obtain ⟨c, spelled, isMark, code⟩ := exists_mark isWord
    rw [spelled, List.singleton_append, blankFrom_code fresh (code text), Token.scan_mark isMark,
      kinds, List.map_append, List.map_cons]
    have rest := others (c = '\n') line [] (fun _ => rfl)
    exact congrArg (fun later => kinds (Token.pending line word) ++ kind :: later) rest

theorem kinds_scan_spells {afterWord : Bool} {units : List TokenKind} {text : List Char}
    (spells : SpellsAfter afterWord units text) (fresh : Bool) (line : Nat) (word : List Char)
    (inFront : afterWord = false → word = []) :
    kinds (Token.scan line word (blankFrom (.code fresh) text)) =
      kinds (Token.pending line word) ++ units := by
  induction spells generalizing fresh line word with
  | nil trivia =>
    rw [Token.scan_of_blanks (blankFrom_lastTrivia fresh trivia), List.append_nil]
  | @cons afterWord gap text kind units trivia plain apart _ ih =>
    obtain ⟨blanks, after, onlyIfEmpty, blank, blanked⟩ := blankFrom_trivia fresh trivia
    rw [blanked]
    by_cases empty : blanks = []
    · -- Nothing is between the units, so a word has a mark in front of it.
      have noWord : kind.isWord = true → word = [] := by
        intro isWord
        cases afterWord with
        | true => exact absurd (onlyIfEmpty empty) (apart rfl isWord)
        | false => exact inFront rfl
      rw [empty, List.nil_append]
      exact kinds_scan_unit plain noWord ih after line
    · have unit := kinds_scan_unit plain (fun _ => rfl) ih after (line + blanks.count '\n')
      rw [Token.scan_blanks empty blank, kinds, List.map_append]
      exact congrArg (fun later => kinds (Token.pending line word) ++ later) unit

/-- **A text is cut into the units that it spells**, whatever trivia are between them. -/
theorem kinds_of_spells {units : List TokenKind} {text : List Char} (spells : Spells units text) :
    kinds (Token.ofText (blankTrivia text)) = units :=
  kinds_scan_spells spells false 1 [] (fun _ => rfl)

/-- Tokens of the same units are alike on any lines. -/
theorem tokensAlike_of_kinds {tokens tokens' : List Token} (same : kinds tokens = kinds tokens') :
    TokensAlike (fun _ _ => True) tokens tokens' := by
  induction tokens generalizing tokens' with
  | nil =>
    cases tokens' with
    | nil => exact .nil
    | cons token' rest' => cases same
  | cons token rest ih =>
    cases tokens' with
    | nil => cases same
    | cons token' rest' =>
      obtain ⟨first, others⟩ := List.cons.inj same
      exact .cons ⟨first, trivial⟩ (ih others)

/-- **Trivia mean nothing.** However units are written, the text is cut into them, and two
texts of the same units compile to one registry, or both are refused: with the same
variant of fault, and for the same cause, only on other lines. -/
theorem compile_of_spells (units : List TokenKind) :
    (∀ text, Spells units text → kinds (Token.ofText (blankTrivia text)) = units) ∧
      ∀ text text' : String, Spells units text.toList → Spells units text'.toList →
        (∃ registry, Registry.compile text = .ok registry ∧
            Registry.compile text' = .ok registry) ∨
          ∃ fault fault', Registry.compile text = .error fault ∧
            Registry.compile text' = .error fault' ∧
            fault.ctorIdx = fault'.ctorIdx ∧ FaultsAlike (fun _ _ => True) fault fault' := by
  refine ⟨fun text spells => kinds_of_spells spells, fun text text' spells spells' => ?_⟩
  have same : kinds (Token.ofText (blankTrivia text.toList)) =
      kinds (Token.ofText (blankTrivia text'.toList)) := by
    rw [kinds_of_spells spells, kinds_of_spells spells']
  have alike := ofChars_alike trivial (tokensAlike_of_kinds same)
  rw [Registry.compile, Registry.compile]
  generalize Registry.ofChars text.toList = outcome at alike ⊢
  generalize Registry.ofChars text'.toList = outcome' at alike ⊢
  cases alike with
  | @ok registry _ registries =>
    subst registries
    exact .inl ⟨registry, rfl, rfl⟩
  | error faults =>
    refine .inr ⟨_, _, rfl, rfl, ?_, faults⟩
    cases faults with
    | onLine cause related => rfl
    | unresolved name referencedBy => rfl

/-- The units of a struct with one field. -/
def smallUnits : List TokenKind :=
  [.word "struct", .word "A", .openBrace, .word "uint8", .word "x", .semicolon, .closeBrace]

/-- A word is plain if all of its characters are. -/
theorem plain_word {text : String} (nonempty : text.toList ≠ [])
    (plain : text.toList.all fun c =>
      !isBlank c && (TokenKind.ofMark? c).isNone && !decide (IsQuote c) && c != '/') :
    (TokenKind.word text).Plain := by
  refine ⟨nonempty, fun c member => ?_⟩
  simpa [IsWordChar, and_assoc] using List.all_eq_true.mp plain c member

theorem spells_bare : Spells smallUnits "struct A\x7buint8 x;\x7d".toList := by
  have nothing : IsTrivia [] := .nil
  have space : IsTrivia [' '] := .cons (.blank rfl) .nil
  refine .cons nothing (plain_word (by decide) (by decide)) (by decide) ?_
  refine .cons space (plain_word (by decide) (by decide)) (by decide) ?_
  refine .cons nothing trivial (by decide) ?_
  refine .cons nothing (plain_word (by decide) (by decide)) (by decide) ?_
  refine .cons space (plain_word (by decide) (by decide)) (by decide) ?_
  refine .cons nothing trivial (by decide) ?_
  refine .cons nothing trivial (by decide) ?_
  exact .nil (.closed .nil)

/-- The same units among trivia that look like something else: a block comment that starts
with a slash and holds half a literal, an escaped quote and a brace in a literal, a brace
in a line comment, and a line comment that the text ends in. -/
def commentedText : String :=
  "/*/ it's */struct\"\\\"\x7b\"A\x7b// \x7d\nuint8/***/x;\x7d//end"

theorem spells_commented : Spells smallUnits commentedText.toList := by
  have pieces : commentedText.toList =
      "/*/ it's */".toList ++ ("struct".toList ++ ("\"\\\"\x7b\"".toList ++ ("A".toList ++
        ([] ++ ("\x7b".toList ++ ("// \x7d\n".toList ++ ("uint8".toList ++ ("/***/".toList ++
          ("x".toList ++ ([] ++ (";".toList ++ ([] ++ ("\x7d".toList ++
            "//end".toList))))))))))))) := by
    decide +kernel
  have one {item : List Char} (trivium : IsTrivium item) : IsTrivia item := by
    have alone := IsTrivia.cons trivium .nil
    rwa [List.append_nil] at alone
  rw [pieces]
  refine .cons ?_ (plain_word (by decide) (by decide)) (by decide) ?_
  · exact one (@IsTrivium.blockComment ['/', ' ', 'i', 't', '\'', 's', ' '] (by decide))
  refine .cons ?_ (plain_word (by decide) (by decide)) (by decide) ?_
  · exact one (.literal (.inl rfl) (.escaped '"' (.plain (by decide) (by decide) .nil)))
  refine .cons .nil trivial (by decide) ?_
  refine .cons ?_ (plain_word (by decide) (by decide)) (by decide) ?_
  · exact one (@IsTrivium.lineComment [' ', '\x7d'] (by decide))
  refine .cons ?_ (plain_word (by decide) (by decide)) (by decide) ?_
  · exact one (@IsTrivium.blockComment ['*'] (by decide))
  refine .cons .nil trivial (by decide) ?_
  refine .cons .nil trivial (by decide) ?_
  exact .nil (@IsLastTrivia.lineComment [] ['e', 'n', 'd'] .nil (by decide))

theorem compile_of_spells_commented :
    Spells smallUnits "struct A\x7buint8 x;\x7d".toList ∧
      Spells smallUnits commentedText.toList ∧
      kinds (Token.ofText (blankTrivia commentedText.toList)) = smallUnits ∧
      ∃ registry, Registry.compile "struct A\x7buint8 x;\x7d" = .ok registry ∧
        Registry.compile commentedText = .ok registry := by
  have meaning := compile_of_spells smallUnits
  refine ⟨spells_bare, spells_commented, meaning.1 _ spells_commented, ?_⟩
  have accepted : (Registry.compile commentedText).toOption.isSome = true := by decide +kernel
  rcases meaning.2 _ _ spells_bare spells_commented with same | ⟨_, fault, -, refused, -⟩
  · exact same
  · rw [refused] at accepted
    cases accepted

end LapTelemetry.Spec
