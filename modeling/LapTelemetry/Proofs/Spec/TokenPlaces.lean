import LapTelemetry.Proofs.Spec.Spelling

/-! # The places of tokens in a text

A token is a piece of the text it was cut from. In front of it are the tokens before it and
blanks, it stands on the line that is reached there, and a word that follows a word has a blank
in front of it (`Place`). Tokens cut a text (`Cuts`) if each of them has a place in it, no character
is lost but blanks, and words are made of the characters of words. Nothing is said of how the text
is scanned. That a token stands in one piece has to be said: spelled without its blanks, `a b` could
be the word `ab` as well.

The tokens of a text cut it (`cuts_scan`), and it can be cut in no other way. The place of a
token is known from the tokens before it, since blanks are all that may lie between them
(`gap_of_place`). A word ends where the next character is none of a word: a piece that ended
sooner would leave the rest of the word to another, with no blank in front of it
(`Cuts.word_ends`). So the scan finds the same tokens, one after the other
(`Cuts.scan_rest`). -/

namespace LapTelemetry.Spec

open LapTelemetry.Text

set_option autoImplicit false

/-! ## Pieces of a text -/

/-- A unit that can be cut from a text: a mark, or a word of one or more characters of words. -/
def TokenKind.Proper : TokenKind → Prop
  | .word text => text.toList ≠ [] ∧ ∀ c ∈ text.toList, IsWordChar c
  | _ => True

namespace Token

/-- The characters of tokens, one token after the other. -/
def spelled (tokens : List Token) : List Char :=
  tokens.flatMap fun token => token.kind.spelling.toList

/-- A text without its blanks. -/
def withoutBlanks (text : List Char) : List Char := text.filter fun c => !isBlank c

/-- Whether the last token is a word. -/
def endsInWord (tokens : List Token) : Bool := tokens.getLast?.any fun token => token.kind.isWord

/-- The place in a text of a token behind others: what stands in front of it. -/
structure Place (text : List Char) (front : List Token) (token : Token) (before : List Char) :
    Prop where
  /-- In front of it are the other tokens, and blanks. -/
  behind : withoutBlanks before = spelled front
  /-- Its characters follow. A token of a text stands in one piece: nothing, no blank either, lies
  between its characters. This is more than that no character is lost, and it is asked of every
  token. -/
  here : before ++ token.kind.spelling.toList <+: text
  /-- Its line is one more than the newlines in front of it. -/
  line : token.line = 1 + before.count '\n'
  /-- A word behind a word has a blank in front of it. -/
  apart : endsInWord front = true → token.kind.isWord = true → before.getLast?.any isBlank = true

/-- Tokens that have their places in a text behind others. -/
def Placed (text : List Char) (front tokens : List Token) : Prop :=
  ∀ between token after, tokens = between ++ token :: after →
    ∃ before, Place text (front ++ between) token before

/-- Tokens that cut a text. -/
structure Cuts (text : List Char) (tokens : List Token) : Prop where
  /-- Nothing is lost but blanks. -/
  complete : spelled tokens = withoutBlanks text
  /-- Words are not empty, and have no blanks and no marks in them. -/
  proper : ∀ token ∈ tokens, token.kind.Proper
  /-- Each token has its place behind the tokens before it. -/
  places : Placed text [] tokens

variable {line : Nat} {word : List Char}

@[simp] theorem spelled_append (tokens later : List Token) :
    spelled (tokens ++ later) = spelled tokens ++ spelled later := List.flatMap_append

@[simp] theorem spelled_cons (token : Token) (later : List Token) :
    spelled (token :: later) = token.kind.spelling.toList ++ spelled later := List.flatMap_cons

@[simp] theorem spelled_nil : spelled [] = [] := rfl

@[simp] theorem spelled_pending : spelled (pending line word) = word.reverse := by
  cases word with
  | nil => rfl
  | cons c word => simp [pending, TokenKind.spelling]

@[simp] theorem withoutBlanks_nil : withoutBlanks [] = [] := rfl

@[simp] theorem withoutBlanks_append (text later : List Char) :
    withoutBlanks (text ++ later) = withoutBlanks text ++ withoutBlanks later :=
  List.filter_append text later

theorem withoutBlanks_eq_nil_iff {text : List Char} :
    withoutBlanks text = [] ↔ ∀ c ∈ text, isBlank c = true := by
  simp [withoutBlanks]

theorem withoutBlanks_of_solid {text : List Char} (solid : ∀ c ∈ text, isBlank c = false) :
    withoutBlanks text = text :=
  List.filter_eq_self.mpr fun c member => by rw [solid c member]; rfl

theorem solid_of_ofMark? {c : Char} {mark : TokenKind} (isMark : TokenKind.ofMark? c = some mark) :
    isBlank c = false := by
  cases blank : isBlank c with
  | false => rfl
  | true => rw [ofMark?_of_isBlank blank] at isMark; cases isMark

theorem isWord_of_ofMark? {c : Char} {mark : TokenKind}
    (isMark : TokenKind.ofMark? c = some mark) : mark.isWord = false := by
  unfold TokenKind.ofMark? at isMark
  split at isMark <;> cases isMark <;> rfl

theorem proper_of_isWord {kind : TokenKind} (isMark : kind.isWord = false) : kind.Proper := by
  cases kind with
  | word text => cases isMark
  | semicolon | openBracket | closeBracket | openBrace | closeBrace => trivial

/-- A unit starts with a character, and has no blanks. -/
theorem solid_of_proper {kind : TokenKind} (proper : kind.Proper) :
    kind.spelling.toList ≠ [] ∧ ∀ c ∈ kind.spelling.toList, isBlank c = false := by
  cases kind with
  | word text => exact ⟨proper.1, fun c member => (proper.2 c member).1⟩
  | semicolon | openBracket | closeBracket | openBrace | closeBrace =>
    exact ⟨List.cons_ne_nil _ _, by simp [TokenKind.spelling, isBlank, blankRanges]⟩

theorem not_isBlank_of_isWordChar {c : Char} (isWordChar : IsWordChar c) : ¬ isBlank c = true := by
  rw [isWordChar.1]
  exact Bool.false_ne_true

theorem withoutBlanks_word (plain : ∀ c ∈ word, IsWordChar c) :
    withoutBlanks word.reverse = word.reverse :=
  withoutBlanks_of_solid fun c member => (plain c (List.mem_reverse.mp member)).1

theorem count_word (plain : ∀ c ∈ word, IsWordChar c) : word.reverse.count '\n' = 0 :=
  List.count_eq_zero.mpr fun member =>
    ne_newline_of_isWordChar (plain '\n' (List.mem_reverse.mp member)) rfl

@[simp] theorem endsInWord_concat (tokens : List Token) (token : Token) :
    endsInWord (tokens ++ [token]) = token.kind.isWord := by
  simp [endsInWord]

/-! ## The tokens of a text cut it -/

theorem spelled_scan (plain : ∀ c ∈ word, IsWordChar c) (text : List Char) :
    spelled (scan line word text) = word.reverse ++ withoutBlanks text := by
  induction text generalizing line word with
  | nil => simp [scan]
  | cons c text ih =>
    rcases blank_or_mark_or_wordChar c with blank | ⟨mark, isMark, -⟩ | isWordChar
    · have dropped : withoutBlanks (c :: text) = withoutBlanks text := by
        simp [withoutBlanks, blank]
      rw [scan_blank blank, spelled_append, spelled_pending, ih (by simp), dropped]
      rfl
    · have kept : withoutBlanks (c :: text) = c :: withoutBlanks text := by
        simp [withoutBlanks, solid_of_ofMark? isMark]
      rw [scan_mark isMark, spelled_append, spelled_pending, spelled_cons, ih (by simp), kept,
        spelling_of_ofMark? isMark]
      rfl
    · have kept : withoutBlanks (c :: text) = c :: withoutBlanks text := by
        simp [withoutBlanks, isWordChar.1]
      rw [scan_wordChar isWordChar, ih (List.forall_mem_cons.mpr ⟨isWordChar, plain⟩), kept]
      simp

theorem proper_scan (plain : ∀ c ∈ word, IsWordChar c) (text : List Char) :
    ∀ token ∈ scan line word text, token.kind.Proper := by
  have collected {line : Nat} {word : List Char} (plain : ∀ c ∈ word, IsWordChar c) :
      ∀ token ∈ pending line word, token.kind.Proper := by
    intro token member
    cases word with
    | nil => cases member
    | cons c word =>
      rw [List.mem_singleton.mp member, TokenKind.Proper, String.toList_ofList]
      exact ⟨by simp, fun c member => plain c (List.mem_reverse.mp member)⟩
  induction text generalizing line word with
  | nil => rw [scan]; exact collected plain
  | cons c text ih =>
    rcases blank_or_mark_or_wordChar c with blank | ⟨mark, isMark, -⟩ | isWordChar
    · rw [scan_blank blank]
      exact List.forall_mem_append.mpr ⟨collected plain, ih (by simp)⟩
    · have proper : mark.Proper := proper_of_isWord (isWord_of_ofMark? isMark)
      rw [scan_mark isMark]
      exact List.forall_mem_append.mpr
        ⟨collected plain, List.forall_mem_cons.mpr ⟨proper, ih (by simp)⟩⟩
    · rw [scan_wordChar isWordChar]
      exact ih (List.forall_mem_cons.mpr ⟨isWordChar, plain⟩)

theorem placed_nil (text : List Char) (front : List Token) : Placed text front [] := by
  intro between token after split
  cases between <;> cases split

theorem Placed.cons {text before : List Char} {front tokens : List Token} {token : Token}
    (place : Place text front token before) (later : Placed text (front ++ [token]) tokens) :
    Placed text front (token :: tokens) := by
  intro between other after split
  cases between with
  | nil =>
    cases split
    exact ⟨before, by rwa [List.append_nil]⟩
  | cons first between =>
    cases split
    obtain ⟨before, placed⟩ := later between other after rfl
    exact ⟨before, by rwa [List.append_assoc] at placed⟩

/-- What holds where the scan of a text has come to: the tokens so far are what has been read,
and a word may stand there. -/
structure Reached (text past rest : List Char) (front : List Token) (line : Nat) : Prop where
  whole : text = past ++ rest
  behind : withoutBlanks past = spelled front
  line : line = 1 + past.count '\n'
  apart : endsInWord front = true → past.getLast?.any isBlank = true

variable {text past rest : List Char} {front tokens : List Token} {c : Char}

/-- A collected word has its place where its collection began. -/
theorem Reached.placed_pending (reached : Reached text past (word.reverse ++ rest) front line)
    (later : Placed text (front ++ pending line word) tokens) :
    Placed text front (pending line word ++ tokens) := by
  cases word with
  | nil => simpa [pending] using later
  | cons c word =>
    have here : past ++ (c :: word).reverse <+: text := ⟨rest, by simp [reached.whole]⟩
    rw [← String.toList_ofList (l := (c :: word).reverse)] at here
    exact .cons ⟨reached.behind, here, reached.line, fun afterWord _ => reached.apart afterWord⟩
      later

theorem Reached.spelled_word (reached : Reached text past (word.reverse ++ rest) front line)
    (plain : ∀ c ∈ word, IsWordChar c) :
    withoutBlanks (past ++ word.reverse) = spelled (front ++ pending line word) := by
  rw [withoutBlanks_append, withoutBlanks_word plain, reached.behind, spelled_append,
    spelled_pending]

theorem Reached.blank (reached : Reached text past (word.reverse ++ c :: rest) front line)
    (plain : ∀ c ∈ word, IsWordChar c) (blank : isBlank c = true) :
    Reached text (past ++ word.reverse ++ [c]) rest (front ++ pending line word)
      (line + [c].count '\n') where
  whole := by simp [reached.whole]
  behind := by
    rw [withoutBlanks_append, reached.spelled_word plain,
      withoutBlanks_eq_nil_iff.mpr (by simpa using blank), List.append_nil]
  line := by
    rw [reached.line, List.count_append, List.count_append, count_word plain]
    omega
  apart := by simp [blank]

/-- A mark has its place behind the word that it ends. -/
theorem Reached.place_mark {mark : TokenKind}
    (reached : Reached text past (word.reverse ++ c :: rest) front line)
    (plain : ∀ c ∈ word, IsWordChar c) (isMark : TokenKind.ofMark? c = some mark) :
    Place text (front ++ pending line word) ⟨mark, line⟩ (past ++ word.reverse) where
  behind := reached.spelled_word plain
  here := by
    rw [spelling_of_ofMark? isMark, reached.whole]
    exact ⟨rest, by simp⟩
  line := by rw [reached.line, List.count_append, count_word plain, Nat.add_zero]
  apart := by simp [isWord_of_ofMark? isMark]

theorem Reached.mark {mark : TokenKind}
    (reached : Reached text past (word.reverse ++ c :: rest) front line)
    (plain : ∀ c ∈ word, IsWordChar c) (isMark : TokenKind.ofMark? c = some mark)
    (notNewline : c ≠ '\n') :
    Reached text (past ++ word.reverse ++ [c]) rest (front ++ pending line word ++ [⟨mark, line⟩])
      line where
  whole := by simp [reached.whole]
  behind := by
    rw [withoutBlanks_append, reached.spelled_word plain, spelled_append _ [⟨mark, line⟩],
      withoutBlanks_of_solid (by simpa using solid_of_ofMark? isMark), spelled_cons,
      spelling_of_ofMark? isMark]
    rfl
  line := by
    rw [reached.line, List.count_append, List.count_append, count_word plain,
      List.count_cons_of_ne notNewline]
    rfl
  apart := by
    rw [endsInWord_concat, isWord_of_ofMark? isMark]
    exact fun isWord => absurd isWord Bool.false_ne_true

theorem placed_scan (reached : Reached text past (word.reverse ++ rest) front line)
    (plain : ∀ c ∈ word, IsWordChar c) : Placed text front (scan line word rest) := by
  induction rest generalizing line word past front with
  | nil =>
    have last := reached.placed_pending (placed_nil text _)
    rwa [List.append_nil] at last
  | cons c rest ih =>
    rcases blank_or_mark_or_wordChar c with blank | ⟨mark, isMark, notNewline⟩ | isWordChar
    · rw [scan_blank blank]
      exact reached.placed_pending (ih (reached.blank plain blank) (by simp))
    · rw [scan_mark isMark]
      have later : Placed text (front ++ pending line word ++ [⟨mark, line⟩]) (scan line [] rest) :=
        ih (reached.mark plain isMark notNewline) (by simp)
      exact reached.placed_pending (.cons (reached.place_mark plain isMark) later)
    · rw [scan_wordChar isWordChar]
      have longer : (c :: word).reverse ++ rest = word.reverse ++ c :: rest := by simp
      exact ih (longer ▸ reached) (List.forall_mem_cons.mpr ⟨isWordChar, plain⟩)

/-- **The tokens of a text cut it.** -/
theorem cuts_scan (text : List Char) : Cuts text (scan 1 [] text) where
  complete := spelled_scan (by simp) text
  proper := proper_scan (by simp) text
  places := by
    have start : Reached text [] text [] 1 := ⟨rfl, rfl, rfl, by simp [endsInWord]⟩
    exact placed_scan start (by simp)

theorem pairwise_line_pending_append (later : ∀ token ∈ tokens, line ≤ token.line)
    (sorted : tokens.Pairwise fun first second => first.line ≤ second.line) :
    (pending line word ++ tokens).Pairwise fun first second => first.line ≤ second.line := by
  cases word with
  | nil => exact sorted
  | cons c word => exact List.pairwise_cons.mpr ⟨later, sorted⟩

/-- Lines do not go back. -/
theorem pairwise_line_scan (text : List Char) :
    (scan line word text).Pairwise fun first second => first.line ≤ second.line := by
  induction text generalizing line word with
  | nil =>
    rw [scan, ← List.append_nil (pending line word)]
    exact pairwise_line_pending_append (by simp) .nil
  | cons c text ih =>
    rcases blank_or_mark_or_wordChar c with blank | ⟨mark, isMark, -⟩ | isWordChar
    · rw [scan_blank blank]
      refine pairwise_line_pending_append (fun token member => ?_) ih
      exact Nat.le_trans (Nat.le_add_right line _) (line_of_mem_scan member).1
    · have later : ∀ token ∈ scan line [] text, line ≤ token.line := fun token member =>
        (line_of_mem_scan member).1
      rw [scan_mark isMark]
      exact pairwise_line_pending_append (List.forall_mem_cons.mpr ⟨Nat.le_refl line, later⟩)
        (List.pairwise_cons.mpr ⟨later, ih⟩)
    · rw [scan_wordChar isWordChar]
      exact ih

/-! ## No other tokens do -/

/-- Between the tokens that have been read and the place of the next there are blanks. -/
theorem gap_of_place {token : Token} {before : List Char} (place : Place text front token before)
    (proper : token.kind.Proper) (whole : text = past ++ rest)
    (behind : withoutBlanks past = spelled front) :
    ∃ gap later, (∀ c ∈ gap, isBlank c = true) ∧ before = past ++ gap ∧
      rest = gap ++ (token.kind.spelling.toList ++ later) := by
  obtain ⟨later, here⟩ := place.here
  have sameLetters : withoutBlanks before = withoutBlanks past := place.behind.trans behind.symm
  rw [whole, List.append_assoc] at here
  rcases List.append_eq_append_iff.mp here with ⟨extra, rfl, met⟩ | ⟨gap, rfl, met⟩
  · -- If more has been read than stands before the token, its first character is a blank.
    rw [withoutBlanks_append, List.self_eq_append_right, withoutBlanks_eq_nil_iff] at sameLetters
    obtain ⟨nonempty, solid⟩ := solid_of_proper proper
    obtain ⟨c, letters, spelling⟩ := List.exists_cons_of_ne_nil nonempty
    cases extra with
    | nil => exact ⟨[], later, by simp, by simp, by simpa using met.symm⟩
    | cons first extra =>
      rw [spelling] at met solid
      obtain ⟨rfl, -⟩ := List.cons.inj met
      have blank := sameLetters c List.mem_cons_self
      rw [solid c List.mem_cons_self] at blank
      cases blank
  · rw [withoutBlanks_append, List.append_right_eq_self, withoutBlanks_eq_nil_iff] at sameLetters
    exact ⟨gap, later, sameLetters, rfl, met⟩

/-- Behind the last token there are blanks. -/
theorem Cuts.blank_behind (cuts : Cuts text tokens) (whole : text = past ++ rest)
    (behind : withoutBlanks past = spelled tokens) : ∀ c ∈ rest, isBlank c = true := by
  have complete := cuts.complete
  rwa [whole, withoutBlanks_append, behind, List.self_eq_append_right,
    withoutBlanks_eq_nil_iff] at complete

/-- A character of a word is no mark. -/
theorem isWord_of_isWordChar {kind : TokenKind} {letters : List Char} (isWordChar : IsWordChar c)
    (spelling : kind.spelling.toList = c :: letters) : kind.isWord = true := by
  cases isWord : kind.isWord with
  | true => rfl
  | false =>
    obtain ⟨mark, spelled, isMark, -⟩ := exists_mark isWord
    obtain ⟨rfl, -⟩ := List.cons.inj (spelling.symm.trans spelled)
    rw [isWordChar.2] at isMark
    cases isMark

/-- **A word ends where no character of a word follows.** If one followed, the next token would
be a word that starts there, and no blank would be in front of it. -/
theorem Cuts.word_ends {token : Token} {after : List Token} (cuts : Cuts text tokens)
    (split : tokens = front ++ token :: after) (isWord : token.kind.isWord = true)
    (whole : text = past ++ rest) (behind : withoutBlanks past = spelled (front ++ [token]))
    (solidEnd : past.getLast?.any isBlank = false) :
    ∀ c ∈ rest.head?, ¬ IsWordChar c := by
  intro c first isWordChar
  obtain ⟨others, rfl⟩ := List.head?_eq_some_iff.mp first
  cases after with
  | nil =>
    -- The character would be lost.
    have blank := cuts.blank_behind whole (by rw [behind, split])
    exact not_isBlank_of_isWordChar isWordChar (blank c List.mem_cons_self)
  | cons second after =>
    have split' : tokens = (front ++ [token]) ++ second :: after := by simp [split]
    have proper := cuts.proper second (by simp [split])
    obtain ⟨before, place⟩ := cuts.places _ second after split'
    obtain ⟨gap, later, blank, rfl, met⟩ := gap_of_place place proper whole behind
    cases gap with
    | cons space gap =>
      obtain ⟨rfl, -⟩ := List.cons.inj met
      exact not_isBlank_of_isWordChar isWordChar (blank c List.mem_cons_self)
    | nil =>
      obtain ⟨letter, letters, spelling⟩ :=
        List.exists_cons_of_ne_nil (solid_of_proper proper).1
      rw [spelling] at met
      obtain ⟨rfl, -⟩ := List.cons.inj met
      have blank := place.apart (by simp [isWord]) (isWord_of_isWordChar isWordChar spelling)
      rw [List.append_nil, solidEnd] at blank
      cases blank

theorem scan_gap {gap : List Char} (blank : ∀ c ∈ gap, isBlank c = true) (rest : List Char) :
    scan line [] (gap ++ rest) = scan (line + gap.count '\n') [] rest := by
  by_cases empty : gap = []
  · rw [empty]
    rfl
  · exact scan_blanks empty blank rest

theorem scan_end_of_word (ends : ∀ c ∈ rest.head?, ¬ IsWordChar c) :
    scan line word rest = pending line word ++ scan line [] rest := by
  cases rest with
  | nil => exact (List.append_nil _).symm
  | cons c rest =>
    rcases blank_or_mark_or_wordChar c with blank | ⟨mark, isMark, -⟩ | isWordChar
    · rw [scan_blank blank, scan_blank blank]
      rfl
    · rw [scan_mark isMark, scan_mark isMark]
      rfl
    · exact absurd isWordChar (ends c rfl)

/-- Where a token stands that ends behind its characters, the scan finds it. -/
theorem scan_token {token : Token} (proper : token.kind.Proper)
    (ends : token.kind.isWord = true → ∀ c ∈ rest.head?, ¬ IsWordChar c) :
    scan token.line [] (token.kind.spelling.toList ++ rest) =
      token :: scan token.line [] rest := by
  obtain ⟨kind, line⟩ := token
  cases isWord : kind.isWord with
  | true =>
    cases kind with
    | word name =>
      obtain ⟨nonempty, plain⟩ := proper
      have given : name.toList.reverse.isEmpty = false := by simpa using nonempty
      rw [TokenKind.spelling, scan_word plain, List.append_nil, scan_end_of_word (ends isWord),
        pending, given, List.reverse_reverse, String.ofList_toList]
      rfl
    | semicolon | openBracket | closeBracket | openBrace | closeBrace => cases isWord
  | false =>
    obtain ⟨c, spelling, isMark, -⟩ := exists_mark isWord
    rw [spelling, List.singleton_append, scan_mark isMark]
    rfl

/-- **From wherever tokens that cut a text have come to, the scan finds the others.** -/
theorem Cuts.scan_rest {after : List Token} (cuts : Cuts text tokens)
    (split : tokens = front ++ after) (whole : text = past ++ rest)
    (behind : withoutBlanks past = spelled front) :
    scan (1 + past.count '\n') [] rest = after := by
  induction after generalizing front past rest with
  | nil => exact scan_of_blanks (cuts.blank_behind whole (by rw [behind, split, List.append_nil]))
  | cons token after ih =>
    have proper := cuts.proper token (by simp [split])
    obtain ⟨nonempty, solid⟩ := solid_of_proper proper
    obtain ⟨before, place⟩ := cuts.places front token after split
    rw [List.nil_append] at place
    obtain ⟨gap, later, blank, rfl, rfl⟩ := gap_of_place place proper whole behind
    have further : text = past ++ gap ++ token.kind.spelling.toList ++ later := by simp [whole]
    have collected : withoutBlanks (past ++ gap ++ token.kind.spelling.toList) =
        spelled (front ++ [token]) := by
      rw [withoutBlanks_append, place.behind, withoutBlanks_of_solid solid, spelled_append]
      simp
    have oneLine : token.kind.spelling.toList.count '\n' = 0 :=
      List.count_eq_zero.mpr fun newline => absurd (solid '\n' newline) (by decide)
    have line : 1 + past.count '\n' + gap.count '\n' = token.line := by
      rw [place.line, List.count_append, Nat.add_assoc]
    have others := ih (by simp [split]) further collected
    rw [List.count_append, oneLine, Nat.add_zero, ← place.line] at others
    rw [scan_gap blank, line, scan_token proper ?_, others]
    intro isWord
    refine cuts.word_ends split isWord further collected ?_
    obtain ⟨others, last, concat⟩ := (List.eq_nil_or_concat _).resolve_left nonempty
    rw [concat] at solid ⊢
    simpa using solid last (by simp)

/-- **A text is cut into its tokens, and into no others.** Each token stands in the text in one
piece; the characters of the tokens are those of the text without its blanks; words are not empty
and have no blanks and no marks in them; two words in a row have a blank between them; each token is
on the line that its first character stands on, so lines never go back; and no other tokens have
these properties. -/
theorem cuts_iff (text : List Char) :
    (∀ tokens, Cuts text tokens ↔ tokens = ofText text) ∧
      (ofText text).Pairwise fun first second => first.line ≤ second.line := by
  refine ⟨fun tokens => ⟨fun cuts => ?_, ?_⟩, pairwise_line_scan text⟩
  · exact (cuts.scan_rest (List.nil_append tokens).symm (List.nil_append text).symm rfl).symm
  · rintro rfl
    exact cuts_scan text

end Token

end LapTelemetry.Spec
