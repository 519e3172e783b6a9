import LapTelemetry.Spec.Trivia
import LapTelemetry.Text.Blank

/-! # What blanking makes of trivia

Trivia are told here by what they look like and not by how a text is scanned: a
blank, a line comment with its newline, a closed block comment, a closed literal
(`IsTrivium`). Wherever an item of trivia stands in the code of a text, blanking
puts at least one blank in its place and goes on behind it as if nothing had been
there (`blankFrom_trivium`).

A text is code and trivia up to its ending, which is the end itself, a line comment
without its newline, or a comment or literal that is never closed. `Pieces` says so
for any notion of an ending. A text that is not `Unterminated` is `Terminated`
(`terminated_or_unterminated`), and a newline behind a terminated text stands in code
again (`blankFrom_newline`). -/

namespace LapTelemetry.Spec

open LapTelemetry.Text

set_option autoImplicit false

/-! ## Items -/

/-- A character that starts and ends a literal. -/
def IsQuote (c : Char) : Prop := c = '"' ∨ c = '\''

instance : DecidablePred IsQuote := fun c => inferInstanceAs (Decidable (c = '"' ∨ c = '\''))

/-- The inside of a literal; a backslash takes the next character with it. -/
inductive LiteralBody (quote : Char) : List Char → Prop where
  | nil : LiteralBody quote []
  | plain {c : Char} {rest : List Char} (other : c ≠ quote) (unescaped : c ≠ '\\')
      (tail : LiteralBody quote rest) : LiteralBody quote (c :: rest)
  | escaped (c : Char) {rest : List Char} (tail : LiteralBody quote rest) :
      LiteralBody quote ('\\' :: c :: rest)

/-- An item of trivia that is over, whatever stands behind it. -/
inductive IsTrivium : List Char → Prop where
  | blank {c : Char} (blank : isBlank c = true) : IsTrivium [c]
  | lineComment {body : List Char} (oneLine : '\n' ∉ body) :
      IsTrivium ('/' :: '/' :: (body ++ ['\n']))
  | blockComment {body : List Char} (isOpen : ¬ ['*', '/'] <:+: body) :
      IsTrivium ('/' :: '*' :: (body ++ ['*', '/']))
  | literal {quote : Char} {body : List Char} (isQuote : IsQuote quote)
      (inside : LiteralBody quote body) : IsTrivium (quote :: (body ++ [quote]))

/-- A character that starts no item of trivia when the given text follows it. -/
def IsCode (c : Char) (rest : List Char) : Prop :=
  ¬ IsQuote c ∧ ¬ (c = '/' ∧ (rest.head? = some '/' ∨ rest.head? = some '*'))

/-- A text of code and trivia up to an ending. -/
inductive Pieces (ending : List Char → Prop) : List Char → Prop where
  | ending {text : List Char} (ends : ending text) : Pieces ending text
  | code {c : Char} {rest : List Char} (code : IsCode c rest) (tail : Pieces ending rest) :
      Pieces ending (c :: rest)
  | trivium {item rest : List Char} (trivium : IsTrivium item) (tail : Pieces ending rest) :
      Pieces ending (item ++ rest)

/-- The end of a text, or a line comment that goes on to it. -/
def EndsLine (text : List Char) : Prop :=
  text = [] ∨ ∃ body, '\n' ∉ body ∧ text = '/' :: '/' :: body

/-- A block comment or a literal that is never closed. -/
def EndsInside (text : List Char) : Prop :=
  (∃ body, ¬ ['*', '/'] <:+: body ∧ text = '/' :: '*' :: body) ∨
    ∃ quote body, IsQuote quote ∧ LiteralBody quote body ∧
      (text = quote :: body ∨ text = quote :: (body ++ ['\\']))

/-- A text in which every block comment and every literal is closed. -/
def Terminated (text : List Char) : Prop := Pieces EndsLine text

/-- A text with a block comment or a literal that is never closed. -/
def Unterminated (text : List Char) : Prop := Pieces EndsInside text

/-! ## Code -/

attribute [grind =] blankFrom

theorem blankFrom_code (fresh : Bool) {c : Char} {rest : List Char} (code : IsCode c rest) :
    blankFrom (.code fresh) (c :: rest) = c :: blankFrom (.code (c = '\n')) rest := by
  obtain ⟨plain, noComment⟩ := code
  rw [blankFrom]
  · exact if_neg plain
  · rintro tail rfl rfl
    exact noComment ⟨rfl, .inl rfl⟩
  · rintro tail rfl rfl
    exact noComment ⟨rfl, .inr rfl⟩

theorem isCode_of_plain {c : Char} (notQuote : ¬ IsQuote c) (notSlash : c ≠ '/')
    (rest : List Char) : IsCode c rest :=
  ⟨notQuote, fun opening => notSlash opening.1⟩

/-- A character that opens no comment and is no quote is code. -/
theorem isCode_of_not_opening {c : Char} {rest : List Char}
    (isLine : ∀ tail, c = '/' → rest = '/' :: tail → False)
    (isBlock : ∀ tail, c = '/' → rest = '*' :: tail → False) (notQuote : ¬ IsQuote c) :
    IsCode c rest := by
  refine ⟨notQuote, ?_⟩
  rintro ⟨slash, first | first⟩
  · obtain ⟨tail, same⟩ := List.head?_eq_some_iff.mp first
    exact isLine tail slash same
  · obtain ⟨tail, same⟩ := List.head?_eq_some_iff.mp first
    exact isBlock tail slash same

theorem plain_of_isBlank {c : Char} (blank : isBlank c = true) : ¬ IsQuote c ∧ c ≠ '/' := by
  refine ⟨?_, ?_⟩
  · rintro (rfl | rfl)
    · exact absurd blank (by decide)
    · exact absurd blank (by decide)
  · rintro rfl
    exact absurd blank (by decide)

/-! ## Comments and literals -/

theorem blankFrom_quote (fresh : Bool) {quote : Char} (isQuote : IsQuote quote)
    (rest : List Char) :
    blankFrom (.code fresh) (quote :: rest) = blankFrom (.literal quote false) rest := by
  grind [IsQuote]

theorem blankFrom_lineComment (fresh : Bool) {body : List Char} (oneLine : '\n' ∉ body)
    (rest : List Char) :
    blankFrom (.lineComment fresh) (body ++ '\n' :: rest) =
      ' ' :: '\n' :: blankFrom (.code true) rest := by
  induction body with
  | nil => rw [List.nil_append, blankFrom, if_pos rfl]
  | cons c body ih =>
    obtain ⟨other, others⟩ := not_or.mp (fun member => oneLine (List.mem_cons.mpr member))
    rw [List.cons_append, blankFrom, if_neg (Ne.symm other), ih others]

theorem blankFrom_lineComment_end (fresh : Bool) {body : List Char} (oneLine : '\n' ∉ body) :
    blankFrom (.lineComment fresh) body = if fresh then [] else [' '] := by
  induction body with
  | nil => rw [blankFrom]
  | cons c body ih =>
    obtain ⟨other, others⟩ := not_or.mp (fun member => oneLine (List.mem_cons.mpr member))
    rw [blankFrom, if_neg (Ne.symm other), ih others]

/-- A star in front of a comment's body closes it only with a slash that follows. -/
theorem not_closing_cons {c : Char} {body : List Char} (isOpen : ¬ ['*', '/'] <:+: c :: body) :
    ¬ ['*', '/'] <:+: body ∧ ¬ (c = '*' ∧ body.head? = some '/') := by
  refine ⟨fun inside => isOpen (List.infix_cons inside), ?_⟩
  rintro ⟨rfl, first⟩
  obtain ⟨tail, rfl⟩ := List.head?_eq_some_iff.mp first
  exact isOpen ⟨[], tail, rfl⟩

theorem blankFrom_blockComment (newlines : Nat) (afterStar : Bool) {body : List Char}
    (isOpen : ¬ ['*', '/'] <:+: body) (apart : ¬ (afterStar = true ∧ body.head? = some '/'))
    (rest : List Char) :
    blankFrom (.blockComment newlines afterStar) (body ++ '*' :: '/' :: rest) =
      ' ' :: (List.replicate (newlines + body.count '\n') '\n' ++
        blankFrom (.code (0 < newlines + body.count '\n')) rest) := by
  induction body generalizing newlines afterStar with
  | nil =>
    have star : ¬ (afterStar = true ∧ '*' = '/') := fun closing => absurd closing.2 (by decide)
    rw [List.nil_append, blankFrom, if_neg star, blankFrom, if_pos ⟨by decide, rfl⟩]
    rfl
  | cons c body ih =>
    obtain ⟨stillOpen, apartLater⟩ := not_closing_cons isOpen
    have going : ¬ (afterStar = true ∧ c = '/') := by
      rintro ⟨star, rfl⟩
      exact apart ⟨star, rfl⟩
    rw [List.cons_append, blankFrom, if_neg going, ih _ _ stillOpen (by simpa using apartLater)]
    by_cases newline : c = '\n'
    · subst newline
      simp only [if_true, List.count_cons_self, Nat.add_assoc, Nat.add_comm 1]
    · rw [if_neg newline, List.count_cons_of_ne newline]

theorem blankFrom_literal {quote : Char} {body : List Char} (isQuote : IsQuote quote)
    (inside : LiteralBody quote body) (rest : List Char) :
    blankFrom (.literal quote false) (body ++ quote :: rest) =
      ' ' :: blankFrom (.code false) rest := by
  induction inside with
  | nil =>
    have unescaped : quote ≠ '\\' := by
      rcases isQuote with rfl | rfl
      · decide
      · decide
    simp [blankFrom, unescaped]
  | plain other unescaped _ ih =>
    rw [List.cons_append, blankFrom]
    simp only [Bool.false_eq_true, if_false, if_neg unescaped, if_neg other, ih]
  | escaped c _ ih =>
    rw [List.cons_append, List.cons_append, ← ih]
    rfl

/-- A space and newlines are blanks. -/
theorem isBlank_of_mem_space_newlines (newlines : Nat) :
    ∀ c ∈ ' ' :: List.replicate newlines '\n', isBlank c = true := by
  refine List.forall_mem_cons.mpr ⟨by decide, fun c member => ?_⟩
  rw [List.eq_of_mem_replicate member]
  decide

/-- **Blanking puts blanks in the place of an item of trivia.** What it does behind the
item hangs on nothing else. -/
theorem blankFrom_trivium (fresh : Bool) {item : List Char} (trivium : IsTrivium item) :
    ∃ blanks after, blanks ≠ [] ∧ (∀ c ∈ blanks, isBlank c = true) ∧
      ∀ rest, blankFrom (.code fresh) (item ++ rest) = blanks ++ blankFrom (.code after) rest := by
  cases trivium with
  | @blank c blank =>
    obtain ⟨notQuote, notSlash⟩ := plain_of_isBlank blank
    refine ⟨[c], c = '\n', List.cons_ne_nil _ _, by simpa using blank, fun rest => ?_⟩
    exact blankFrom_code fresh (isCode_of_plain notQuote notSlash rest)
  | @lineComment body oneLine =>
    refine ⟨[' ', '\n'], true, List.cons_ne_nil _ _, List.all_eq_true.mp rfl, fun rest => ?_⟩
    show blankFrom (.code fresh) ('/' :: '/' :: (body ++ ['\n'] ++ rest)) = _
    rw [blankFrom, List.append_assoc, List.singleton_append, blankFrom_lineComment fresh oneLine]
    rfl
  | @blockComment body isOpen =>
    refine ⟨' ' :: List.replicate (body.count '\n') '\n', 0 < body.count '\n',
      List.cons_ne_nil _ _, isBlank_of_mem_space_newlines _, fun rest => ?_⟩
    show blankFrom (.code fresh) ('/' :: '*' :: (body ++ ['*', '/'] ++ rest)) = _
    rw [blankFrom, List.append_assoc, List.cons_append, List.singleton_append,
      blankFrom_blockComment 0 false isOpen (fun opening => Bool.false_ne_true opening.1),
      Nat.zero_add]
    rfl
  | @literal quote body isQuote inside =>
    refine ⟨[' '], false, List.cons_ne_nil _ _, List.all_eq_true.mp rfl, fun rest => ?_⟩
    show blankFrom (.code fresh) (quote :: (body ++ [quote] ++ rest)) = _
    rw [List.append_assoc, List.singleton_append, blankFrom_quote fresh isQuote,
      blankFrom_literal isQuote inside]
    rfl

/-! ## Whole texts -/

/-- A newline behind a terminated text is code: what is before it is blanked as if the
text ended there, up to a blank, and what is behind it as a text of its own. -/
theorem blankFrom_newline (fresh : Bool) {text : List Char} (terminated : Terminated text)
    (rest : List Char) :
    ∃ blanks, (∀ c ∈ blanks, isBlank c = true) ∧
      blankFrom (.code fresh) (text ++ '\n' :: rest) =
        blankFrom (.code fresh) text ++ (blanks ++ '\n' :: blankFrom (.code true) rest) := by
  induction terminated generalizing fresh with
  | ending ends =>
    rcases ends with rfl | ⟨body, oneLine, rfl⟩
    · exact ⟨[], by simp, blankFrom_code fresh (isCode_of_plain (by decide) (by decide) rest)⟩
    · have opened : blankFrom (.code fresh) ('/' :: '/' :: body ++ '\n' :: rest) =
          ' ' :: '\n' :: blankFrom (.code true) rest := by
        rw [List.cons_append, List.cons_append, blankFrom, blankFrom_lineComment fresh oneLine]
      rw [opened, blankFrom, blankFrom_lineComment_end fresh oneLine]
      cases fresh with
      | true => exact ⟨[' '], List.all_eq_true.mp rfl, rfl⟩
      | false => exact ⟨[], by simp, rfl⟩
  | @code c text code _ ih =>
    -- A slash at the very end is followed by the newline now, which opens nothing.
    have still : IsCode c (text ++ '\n' :: rest) := by
      refine ⟨code.1, fun opening => code.2 ⟨opening.1, ?_⟩⟩
      cases text with
      | nil => exact absurd opening.2 (by simp)
      | cons next text => exact opening.2
    obtain ⟨blanks, blank, same⟩ := ih (c = '\n')
    refine ⟨blanks, blank, ?_⟩
    rw [List.cons_append, blankFrom_code fresh still, blankFrom_code fresh code, same,
      List.cons_append]
  | trivium trivium _ ih =>
    obtain ⟨inPlace, after, -, -, blanked⟩ := blankFrom_trivium fresh trivium
    obtain ⟨blanks, blank, same⟩ := ih after
    refine ⟨blanks, blank, ?_⟩
    rw [List.append_assoc, blanked, blanked, same, List.append_assoc]

/-- The text behind a quote closes the literal or never does. -/
theorem literal_cases (quote : Char) (text : List Char) :
    (∃ body rest, LiteralBody quote body ∧ text = body ++ quote :: rest) ∨
      ∃ body, LiteralBody quote body ∧ (text = body ∨ text = body ++ ['\\']) := by
  induction total : text.length using Nat.strongRecOn generalizing text with
  | _ count ih =>
    match text with
    | [] => exact .inr ⟨[], .nil, .inl rfl⟩
    | c :: rest =>
      simp only [List.length_cons] at total
      by_cases closing : c = quote
      · exact .inl ⟨[], rest, .nil, by rw [closing, List.nil_append]⟩
      by_cases escape : c = '\\'
      · subst escape
        match rest with
        | [] => exact .inr ⟨[], .nil, .inr rfl⟩
        | taken :: rest =>
          simp only [List.length_cons] at total
          rcases ih rest.length (by omega) rest rfl with
            ⟨body, later, inside, rfl⟩ | ⟨body, inside, rfl | rfl⟩
          · exact .inl ⟨_, later, inside.escaped taken, rfl⟩
          · exact .inr ⟨_, inside.escaped taken, .inl rfl⟩
          · exact .inr ⟨_, inside.escaped taken, .inr rfl⟩
      · rcases ih rest.length (by omega) rest rfl with
          ⟨body, later, inside, rfl⟩ | ⟨body, inside, rfl | rfl⟩
        · exact .inl ⟨_, later, inside.plain closing escape, rfl⟩
        · exact .inr ⟨_, inside.plain closing escape, .inl rfl⟩
        · exact .inr ⟨_, inside.plain closing escape, .inr rfl⟩

/-- A text with a closing star and slash is closed at the first of them. -/
theorem exists_first_closing {text : List Char} (closes : ['*', '/'] <:+: text) :
    ∃ body rest, ¬ ['*', '/'] <:+: body ∧ text = body ++ ('*' :: '/' :: rest) := by
  induction text with
  | nil => exact absurd closes (by decide)
  | cons c text ih =>
    by_cases here : ['*', '/'] <+: c :: text
    · obtain ⟨rest, same⟩ := here
      exact ⟨[], rest, by decide, same.symm⟩
    · have later := (List.infix_cons_iff.mp closes).resolve_left here
      obtain ⟨body, rest, isOpen, rfl⟩ := ih later
      refine ⟨c :: body, rest, fun inside => ?_, rfl⟩
      rcases List.infix_cons_iff.mp inside with ⟨tail, same⟩ | deeper
      · exact here ⟨tail ++ '*' :: '/' :: rest, by rw [← List.append_assoc, same]; rfl⟩
      · exact isOpen deeper

/-- Every text is code and trivia up to one of the four endings. -/
theorem pieces_of_text (text : List Char) :
    Pieces (fun ending => EndsLine ending ∨ EndsInside ending) text := by
  induction total : text.length using Nat.strongRecOn generalizing text with
  | _ count ih =>
    -- Behind an item of trivia there is less text.
    have behind (item rest : List Char) (trivium : IsTrivium item)
        (split : text = item ++ rest) :
        Pieces (fun ending => EndsLine ending ∨ EndsInside ending) text := by
      have nonempty : 0 < item.length := by
        cases trivium <;> simp
      have fewer : rest.length < count := by
        rw [← total, split, List.length_append]
        omega
      rw [split]
      exact .trivium trivium (ih rest.length fewer rest rfl)
    cases text with
    | nil => exact .ending (.inl (.inl rfl))
    | cons c rest =>
      by_cases isQuote : IsQuote c
      · rcases literal_cases c rest with ⟨body, later, inside, rfl⟩ | ⟨body, inside, ends⟩
        · exact behind _ later (.literal isQuote inside) (by simp)
        · refine .ending (.inr (.inr ⟨c, body, isQuote, inside, ?_⟩))
          rcases ends with rfl | rfl
          · exact .inl rfl
          · exact .inr rfl
      by_cases opening : c = '/' ∧ (rest.head? = some '/' ∨ rest.head? = some '*')
      · obtain ⟨rfl, first | first⟩ := opening
        · obtain ⟨body, rfl⟩ := List.head?_eq_some_iff.mp first
          by_cases newline : '\n' ∈ body
          · obtain ⟨line, later, rfl, oneLine⟩ := List.eq_append_cons_of_mem newline
            exact behind _ later (.lineComment oneLine) (by simp)
          · exact .ending (.inl (.inr ⟨body, newline, rfl⟩))
        · obtain ⟨body, rfl⟩ := List.head?_eq_some_iff.mp first
          by_cases closes : ['*', '/'] <:+: body
          · obtain ⟨inner, later, isOpen, rfl⟩ := exists_first_closing closes
            exact behind _ later (.blockComment isOpen) (by simp)
          · exact .ending (.inr (.inl ⟨body, closes, rfl⟩))
      · refine .code ⟨isQuote, opening⟩ (ih rest.length ?_ rest rfl)
        rw [← total, List.length_cons]
        omega

theorem Pieces.or {ending ending' : List Char → Prop} {text : List Char}
    (pieces : Pieces (fun text => ending text ∨ ending' text) text) :
    Pieces ending text ∨ Pieces ending' text := by
  induction pieces with
  | ending ends => exact ends.imp .ending .ending
  | code code _ ih => exact ih.imp (.code code) (.code code)
  | trivium trivium _ ih => exact ih.imp (.trivium trivium) (.trivium trivium)

theorem terminated_or_unterminated (text : List Char) : Terminated text ∨ Unterminated text :=
  (pieces_of_text text).or

/-- Only a quote or the opening of a block comment can leave a text unterminated. -/
theorem opening_of_unterminated {text : List Char} (unterminated : Unterminated text) :
    (∃ c ∈ text, IsQuote c) ∨ ['/', '*'] <:+: text := by
  have sooner (front : List Char) {rest : List Char}
      (opening : (∃ c ∈ rest, IsQuote c) ∨ ['/', '*'] <:+: rest) :
      (∃ c ∈ front ++ rest, IsQuote c) ∨ ['/', '*'] <:+: front ++ rest := by
    rcases opening with ⟨c, member, isQuote⟩ | opening
    · exact .inl ⟨c, List.mem_append_right front member, isQuote⟩
    · exact .inr (opening.trans (List.suffix_append front rest).isInfix)
  induction unterminated with
  | ending ends =>
    rcases ends with ⟨body, -, rfl⟩ | ⟨quote, body, isQuote, -, rfl | rfl⟩
    · exact .inr ⟨[], body, rfl⟩
    · exact .inl ⟨quote, List.mem_cons_self, isQuote⟩
    · exact .inl ⟨quote, List.mem_cons_self, isQuote⟩
  | @code c _ _ _ ih => exact sooner [c] ih
  | trivium _ _ ih => exact sooner _ ih

end LapTelemetry.Spec
