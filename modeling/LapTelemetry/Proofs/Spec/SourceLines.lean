import LapTelemetry.Proofs.Spec.Scanning

/-! # The lines that units stand on

Here a text is cut as it stands, in one pass and with nothing put in the place of trivia
(`items`): into blanks, comments, literals and the units between them. The items are the
whole text, in its order (`text_items`), so the line of a unit is one more than the
number of newlines in the items before it (`sourceLine`).

The tokens that are read are the same units, but their lines are counted on the text
without trivia. Comments have left their newlines there, and literals have not, so the line
of a token leaves the newlines of literals out (`keptLine`). Every unit stands on the line
that its token says exactly if no literal in front of a unit goes over the end of a line
(`ofText_items`). -/

namespace LapTelemetry.Spec

open LapTelemetry.Text

set_option autoImplicit false

/-! ## Items -/

/-- A part of a text. -/
inductive Item where
  | blank (c : Char)
  | lineComment (text : List Char)
  | blockComment (text : List Char)
  | literal (text : List Char)
  | unit (kind : TokenKind)
  deriving DecidableEq

namespace Item

/-- The characters of an item. -/
def text : Item → List Char
  | .blank c => [c]
  | .lineComment text | .blockComment text | .literal text => text
  | .unit kind => kind.spelling.toList

def isLiteral : Item → Bool
  | .literal _ => true
  | _ => false

def unit? : Item → Option TokenKind
  | .unit kind => some kind
  | _ => none

end Item

/-- What a text is cut in, with the characters read of it. -/
inductive Inside where
  | code (word : List Char)
  | lineComment (read : List Char)
  | blockComment (read : List Char) (afterStar : Bool)
  | literal (quote : Char) (read : List Char) (escaped : Bool)

/-- The word that has been read, if there is one. -/
def wordItem (word : List Char) : List Item :=
  if word.isEmpty then [] else [.unit (.word (String.ofList word))]

/-- The items of the rest of a text. -/
def itemsFrom : Inside → List Char → List Item
  | .code word, [] => wordItem word
  | .code word, '/' :: '/' :: rest => wordItem word ++ itemsFrom (.lineComment ['/', '/']) rest
  | .code word, '/' :: '*' :: rest =>
    wordItem word ++ itemsFrom (.blockComment ['/', '*'] false) rest
  | .code word, c :: rest =>
    if IsQuote c then wordItem word ++ itemsFrom (.literal c [c] false) rest
    else
      match TokenKind.ofMark? c with
      | some mark => wordItem word ++ .unit mark :: itemsFrom (.code []) rest
      | none =>
        if isBlank c then wordItem word ++ .blank c :: itemsFrom (.code []) rest
        else itemsFrom (.code (word ++ [c])) rest
  | .lineComment read, [] => [.lineComment read]
  | .lineComment read, c :: rest =>
    if c = '\n' then .lineComment (read ++ [c]) :: itemsFrom (.code []) rest
    else itemsFrom (.lineComment (read ++ [c])) rest
  | .blockComment read _, [] => [.blockComment read]
  | .blockComment read afterStar, c :: rest =>
    if afterStar ∧ c = '/' then .blockComment (read ++ [c]) :: itemsFrom (.code []) rest
    else itemsFrom (.blockComment (read ++ [c]) (c = '*')) rest
  | .literal _ read _, [] => [.literal read]
  | .literal quote read escaped, c :: rest =>
    if escaped then itemsFrom (.literal quote (read ++ [c]) false) rest
    else if c = '\\' then itemsFrom (.literal quote (read ++ [c]) true) rest
    else if c = quote then .literal (read ++ [c]) :: itemsFrom (.code []) rest
    else itemsFrom (.literal quote (read ++ [c]) false) rest

/-- The items of a text. -/
def items (text : List Char) : List Item := itemsFrom (.code []) text

/-- The units among items as tokens; the line of each is told by the items before it. -/
def located (line : List Item → Nat) (before : List Item) : List Item → List Token
  | [] => []
  | .unit kind :: rest => ⟨kind, line before⟩ :: located line (before ++ [.unit kind]) rest
  | item :: rest => located line (before ++ [item]) rest

/-- The line that follows items: one more than the newlines in them. -/
def sourceLine (before : List Item) : Nat := 1 + (before.flatMap Item.text).count '\n'

/-- The line that follows items, without the newlines of literals. -/
def keptLine (before : List Item) : Nat := sourceLine (before.filter fun item => !item.isLiteral)

/-- The units of a text, each on the line that its first character stands on. -/
def sourceTokens (text : List Char) : List Token := located sourceLine [] (items text)

/-! ## Nothing is lost -/

theorem text_wordItem (word : List Char) : (wordItem word).flatMap Item.text = word := by
  cases word with
  | nil => rfl
  | cons c word => simp [wordItem, Item.text, TokenKind.spelling]

/-- What has been read of the item that the scan is in. -/
def Inside.read : Inside → List Char
  | .code word => word
  | .lineComment read | .blockComment read _ | .literal _ read _ => read

theorem text_itemsFrom (inside : Inside) (text : List Char) :
    (itemsFrom inside text).flatMap Item.text = inside.read ++ text := by
  fun_induction itemsFrom inside text with
  | case5 word c rest _ _ _ mark isMark ih =>
    simp [text_wordItem, Item.text, spelling_of_ofMark? isMark, ih, Inside.read]
  | _ => simp_all [text_wordItem, Item.text, Inside.read]

/-- **A text is its items.** -/
theorem text_items (text : List Char) : (items text).flatMap Item.text = text :=
  text_itemsFrom (.code []) text

/-! ## Units on the lines that are kept -/

theorem keptLine_concat (before : List Item) (item : Item) :
    keptLine (before ++ [item]) =
      keptLine before + if item.isLiteral then 0 else item.text.count '\n' := by
  unfold keptLine sourceLine
  rw [List.filter_append]
  by_cases literal : item.isLiteral <;> simp [literal, Nat.add_assoc]

theorem keptLine_of_oneLine {item : Item} (oneLine : '\n' ∉ item.text) (before : List Item) :
    keptLine (before ++ [item]) = keptLine before := by
  rw [keptLine_concat, List.count_eq_zero.mpr oneLine, ite_self, Nat.add_zero]

/-- A word that has been collected is the next token, on the line that is reached. -/
theorem located_word {word : List Char} (plain : ∀ c ∈ word, IsWordChar c)
    (before rest : List Item) :
    keptLine (before ++ wordItem word) = keptLine before ∧
      located keptLine before (wordItem word ++ rest) =
        Token.pending (keptLine before) word.reverse ++
          located keptLine (before ++ wordItem word) rest := by
  cases word with
  | nil => simp [wordItem, Token.pending]
  | cons c others =>
    have oneLine : '\n' ∉ (Item.unit (.word (String.ofList (c :: others)))).text := by
      intro member
      rw [Item.text, TokenKind.spelling, String.toList_ofList] at member
      exact Token.ne_newline_of_isWordChar (plain _ member) rfl
    refine ⟨keptLine_of_oneLine oneLine before, ?_⟩
    simp [wordItem, Token.pending, located]

theorem located_trivium {item : Item} (trivium : item.unit? = none) (line : List Item → Nat)
    (before rest : List Item) :
    located line before (item :: rest) = located line (before ++ [item]) rest := by
  cases item with
  | unit kind => cases trivium
  | _ => rfl

/-- An item of trivia that goes on to the end of the text leaves blanks at most. -/
theorem scan_trivium_end {item : Item} (trivium : item.unit? = none) (before : List Item)
    {blanks : List Char} (blank : ∀ c ∈ blanks, isBlank c = true) (word : List Char) :
    Token.scan (keptLine before) word blanks =
      Token.pending (keptLine before) word ++ located keptLine before [item] := by
  rw [Token.scan_of_blanks blank, located_trivium trivium, located, List.append_nil]

/-- Where an item of trivia is over, the blanks in its place end the word in front of it, and their
newlines are those of the item that are kept. -/
theorem scan_trivium {item : Item} (trivium : item.unit? = none) {before : List Item}
    (blanks : List Char) (nonempty : blanks ≠ []) (blank : ∀ c ∈ blanks, isBlank c = true)
    (newlines : keptLine (before ++ [item]) = keptLine before + blanks.count '\n')
    {rest : List Char} {later : List Item}
    (behind : Token.scan (keptLine (before ++ [item])) [] rest =
      located keptLine (before ++ [item]) later) (word : List Char) :
    Token.scan (keptLine before) word (blanks ++ rest) =
      Token.pending (keptLine before) word ++ located keptLine before (item :: later) := by
  rw [Token.scan_blanks nonempty blank, ← newlines, behind, located_trivium trivium]

/-- The region of the scan for trivia that goes with the place in an item. -/
def Inside.region (fresh : Bool) : Inside → Region
  | .code _ => .code fresh
  | .lineComment _ => .lineComment fresh
  | .blockComment read afterStar => .blockComment (read.count '\n') afterStar
  | .literal quote _ escaped => .literal quote escaped

/-- The scan for tokens, on the text without trivia, finds the units of the given items. In code it
has collected the word that is read; in a comment or a literal it has yet to end the word in front
of it. -/
def Inside.Agrees (text : List Char) (later : List Item) : Inside → Prop
  | .code read => ∀ fresh before,
    Token.scan (keptLine before) read.reverse (blankFrom (.code fresh) text) =
      located keptLine before later
  | inside => ∀ fresh before word,
    Token.scan (keptLine before) word (blankFrom (inside.region fresh) text) =
      Token.pending (keptLine before) word ++ located keptLine before later

/-- Where an item starts behind a word, the word is complete. -/
theorem scan_behind_word {read : List Char} (plain : ∀ c ∈ read, IsWordChar c)
    {before later : List Item} {text : List Char}
    (behind : Token.scan (keptLine (before ++ wordItem read)) read.reverse text =
      Token.pending (keptLine (before ++ wordItem read)) read.reverse ++
        located keptLine (before ++ wordItem read) later) :
    Token.scan (keptLine before) read.reverse text =
      located keptLine before (wordItem read ++ later) := by
  obtain ⟨line, cut⟩ := located_word plain before later
  rw [cut, ← line]
  exact behind

/-! ## One region after the other -/

/-- What code starts with. -/
inductive Starts : List Char → Prop where
  | ends : Starts []
  | lineComment (rest : List Char) : Starts ('/' :: '/' :: rest)
  | blockComment (rest : List Char) : Starts ('/' :: '*' :: rest)
  | literal {quote : Char} (isQuote : IsQuote quote) (rest : List Char) : Starts (quote :: rest)
  | code {c : Char} {rest : List Char} (isCode : IsCode c rest) : Starts (c :: rest)

theorem starts (text : List Char) : Starts text := by
  cases text with
  | nil => exact .ends
  | cons c rest =>
    by_cases isQuote : IsQuote c
    · exact .literal isQuote rest
    by_cases opening : c = '/' ∧ (rest.head? = some '/' ∨ rest.head? = some '*')
    · obtain ⟨rfl, slash | star⟩ := opening
      · obtain ⟨rest, rfl⟩ := List.head?_eq_some_iff.mp slash
        exact .lineComment rest
      · obtain ⟨rest, rfl⟩ := List.head?_eq_some_iff.mp star
        exact .blockComment rest
    · exact .code ⟨isQuote, opening⟩

theorem itemsFrom_quote (read : List Char) {quote : Char} (isQuote : IsQuote quote)
    (rest : List Char) :
    itemsFrom (.code read) (quote :: rest) =
      wordItem read ++ itemsFrom (.literal quote [quote] false) rest := by
  rw [itemsFrom]
  · exact if_pos isQuote
  all_goals
    rintro later rfl
    rcases isQuote with same | same <;> cases same

theorem itemsFrom_code (read : List Char) {c : Char} {rest : List Char} (isCode : IsCode c rest) :
    itemsFrom (.code read) (c :: rest) =
      match TokenKind.ofMark? c with
      | some mark => wordItem read ++ .unit mark :: itemsFrom (.code []) rest
      | none =>
        if isBlank c then wordItem read ++ .blank c :: itemsFrom (.code []) rest
        else itemsFrom (.code (read ++ [c])) rest := by
  obtain ⟨plain, noComment⟩ := isCode
  rw [itemsFrom]
  · exact if_neg plain
  · rintro tail rfl rfl
    exact noComment ⟨rfl, .inl rfl⟩
  · rintro tail rfl rfl
    exact noComment ⟨rfl, .inr rfl⟩

/-- The scans agree on code that starts behind an item, in texts of fewer characters. -/
def CodeAgreesBelow (size : Nat) : Prop :=
  ∀ text, text.length < size → (Inside.code []).Agrees text (itemsFrom (.code []) text)

section Regions

variable {size : Nat} {text : List Char}

section Trivia

variable (code : CodeAgreesBelow size) (within : text.length ≤ size)
include code within

/-- A line comment leaves a blank and its newline, or a blank at most where the text ends. -/
theorem lineComment_agrees {read : List Char} (oneLine : '\n' ∉ read) :
    (Inside.lineComment read).Agrees text (itemsFrom (.lineComment read) text) := by
  induction text generalizing read with
  | nil =>
    intro fresh before word
    have blank : ∀ c ∈ if fresh then [] else [' '], isBlank c = true := by
      cases fresh <;> exact List.all_eq_true.mp rfl
    rw [Inside.region, blankFrom, itemsFrom]
    exact scan_trivium_end rfl before blank word
  | cons c rest ih =>
    intro fresh before word
    by_cases newline : c = '\n'
    · subst newline
      have newlines : keptLine (before ++ [.lineComment (read ++ ['\n'])]) =
          keptLine before + 1 := by
        have none : read.count '\n' = 0 := List.count_eq_zero.mpr oneLine
        rw [keptLine_concat, Item.text, List.count_append, none]
        rfl
      rw [Inside.region, blankFrom, itemsFrom, if_pos rfl, if_pos rfl]
      exact scan_trivium rfl [' ', '\n'] (List.cons_ne_nil _ _) (List.all_eq_true.mp rfl) newlines
        (code rest within _ _) word
    · have longer : '\n' ∉ read ++ [c] := by simpa [not_or] using ⟨oneLine, Ne.symm newline⟩
      rw [Inside.region, blankFrom, itemsFrom, if_neg newline, if_neg newline]
      exact ih (Nat.le_of_lt within) longer fresh before word

/-- A block comment leaves a blank and all its newlines, closed or not. -/
theorem blockComment_agrees (read : List Char) (afterStar : Bool) :
    (Inside.blockComment read afterStar).Agrees text
      (itemsFrom (.blockComment read afterStar) text) := by
  induction text generalizing read afterStar with
  | nil =>
    intro fresh before word
    rw [Inside.region, blankFrom, itemsFrom]
    exact scan_trivium_end rfl before (isBlank_of_mem_space_newlines _) word
  | cons c rest ih =>
    intro fresh before word
    by_cases closing : afterStar ∧ c = '/'
    · have newlines : keptLine (before ++ [.blockComment (read ++ [c])]) =
          keptLine before + (' ' :: List.replicate (read.count '\n') '\n').count '\n' := by
        rw [keptLine_concat, Item.text, closing.2, List.count_append]
        simp [Item.isLiteral]
      rw [Inside.region, blankFrom, itemsFrom, if_pos closing, if_pos closing]
      exact scan_trivium rfl _ (List.cons_ne_nil _ _) (isBlank_of_mem_space_newlines _) newlines
        (code rest within _ _) word
    · have counted : (if c = '\n' then read.count '\n' + 1 else read.count '\n') =
          (read ++ [c]).count '\n' := by
        by_cases newline : c = '\n'
        · simp [newline]
        · simp [newline, List.count_append]
      rw [Inside.region, blankFrom, itemsFrom, if_neg closing, if_neg closing, counted]
      exact ih (Nat.le_of_lt within) _ _ fresh before word

/-- A literal leaves a blank and none of its newlines, closed or not. -/
theorem literal_agrees (quote : Char) (read : List Char) (escaped : Bool) :
    (Inside.literal quote read escaped).Agrees text
      (itemsFrom (.literal quote read escaped) text) := by
  induction text generalizing read escaped with
  | nil =>
    intro fresh before word
    rw [Inside.region, blankFrom, itemsFrom]
    exact scan_trivium_end rfl before (List.all_eq_true.mp rfl) word
  | cons c rest ih =>
    intro fresh before word
    have inside := ih (Nat.le_of_lt within) (read ++ [c])
    rw [Inside.region, blankFrom, itemsFrom]
    by_cases taken : escaped = true
    · rw [if_pos taken, if_pos taken]
      exact inside false fresh before word
    rw [if_neg taken, if_neg taken]
    by_cases backslash : c = '\\'
    · rw [if_pos backslash, if_pos backslash]
      exact inside true fresh before word
    rw [if_neg backslash, if_neg backslash]
    by_cases closing : c = quote
    · rw [if_pos closing, if_pos closing]
      have newlines : keptLine (before ++ [.literal (read ++ [c])]) = keptLine before :=
        keptLine_concat before _
      exact scan_trivium rfl [' '] (List.cons_ne_nil _ _) (List.all_eq_true.mp rfl) newlines
        (code rest within _ _) word
    · rw [if_neg closing, if_neg closing]
      exact inside false fresh before word

end Trivia

/-- In code a blank ends the word in front of it, a mark is a unit behind it, and any other
character goes on with it. -/
theorem codeChar_agrees {read : List Char} (plain : ∀ c ∈ read, IsWordChar c) {c : Char}
    {rest : List Char} (isCode : IsCode c rest)
    (code : ∀ {word}, (∀ c ∈ word, IsWordChar c) →
      (Inside.code word).Agrees rest (itemsFrom (.code word) rest)) :
    (Inside.code read).Agrees (c :: rest) (itemsFrom (.code read) (c :: rest)) := by
  have behind := code (fun c (member : c ∈ []) => by cases member)
  intro fresh before
  rw [blankFrom_code fresh isCode, itemsFrom_code read isCode]
  rcases Token.blank_or_mark_or_wordChar c with blank | ⟨mark, isMark, notNewline⟩ | isWordChar
  · have newlines (front : List Item) :
        keptLine (front ++ [.blank c]) = keptLine front + [c].count '\n' := keptLine_concat front _
    rw [Token.ofMark?_of_isBlank blank, if_pos blank]
    exact scan_behind_word plain (scan_trivium rfl [c] (List.cons_ne_nil c [])
      (by simpa using blank) (newlines _) (behind _ _) _)
  · have oneLine : '\n' ∉ (Item.unit mark).text := by
      rw [Item.text, spelling_of_ofMark? isMark, List.mem_singleton]
      exact Ne.symm notNewline
    have next := behind (c = '\n') (before ++ wordItem read ++ [.unit mark])
    rw [keptLine_of_oneLine oneLine] at next
    rw [isMark]
    refine scan_behind_word plain ?_
    rw [Token.scan_mark isMark, located, ← next]
    rfl
  · have longer : ∀ other ∈ read ++ [c], IsWordChar other :=
      List.forall_mem_append.mpr ⟨plain, by simpa using isWordChar⟩
    have next := code longer (c = '\n') before
    rw [List.reverse_concat] at next
    rw [Token.scan_wordChar isWordChar, next, isWordChar.2, if_neg (by simp [isWordChar.1])]

/-- Code agrees: the regions that start in it are shorter than it is. -/
theorem code_agrees (short : text.length < size) {read : List Char}
    (plain : ∀ c ∈ read, IsWordChar c) :
    (Inside.code read).Agrees text (itemsFrom (.code read) text) := by
  induction size generalizing text read with
  | zero => exact absurd short (Nat.not_lt_zero _)
  | succ size ih =>
    have code : CodeAgreesBelow size := fun text short =>
      ih short (fun c (member : c ∈ []) => by cases member)
    cases starts text with
    | ends =>
      intro fresh before
      have cut := (located_word plain before []).2
      rw [List.append_nil] at cut
      rw [blankFrom, Token.scan, itemsFrom, cut, located, List.append_nil]
    | lineComment rest =>
      simp only [List.length_cons] at short
      intro fresh before
      rw [blankFrom, itemsFrom]
      exact scan_behind_word plain
        (lineComment_agrees code (by omega) (by simp : '\n' ∉ ['/', '/']) fresh _ _)
    | blockComment rest =>
      simp only [List.length_cons] at short
      intro fresh before
      rw [blankFrom, itemsFrom]
      exact scan_behind_word plain
        (blockComment_agrees code (by omega) ['/', '*'] false fresh _ _)
    | literal isQuote rest =>
      rename_i quote
      simp only [List.length_cons] at short
      intro fresh before
      rw [blankFrom_quote fresh isQuote, itemsFrom_quote read isQuote]
      exact scan_behind_word plain
        (literal_agrees code (by omega) quote [quote] false fresh _ _)
    | code isCode =>
      exact codeChar_agrees plain isCode fun longer =>
        ih (Nat.lt_of_succ_lt_succ short) longer

end Regions

/-! ## Two counts of lines -/

theorem kinds_located (line : List Item → Nat) (before text : List Item) :
    (located line before text).map Token.kind = text.filterMap Item.unit? := by
  induction text generalizing before with
  | nil => rfl
  | cons item text ih =>
    cases item with
    | unit kind => exact congrArg (kind :: ·) (ih _)
    | _ => exact ih _

/-- What stands in front of a unit is nothing or starts with the first item. -/
theorem forall_front_cons {holds : List Item → Prop} {item : Item} {text : List Item} :
    (∀ front kind after, item :: text = front ++ .unit kind :: after → holds front) ↔
      (item.unit? ≠ none → holds []) ∧
        ∀ front kind after, text = front ++ .unit kind :: after → holds (item :: front) := by
  refine ⟨fun all => ⟨fun isUnit => ?_, fun front kind after split => ?_⟩, ?_⟩
  · cases item with
    | unit kind => exact all [] kind text rfl
    | _ => exact absurd rfl isUnit
  · exact all (item :: front) kind after (congrArg (item :: ·) split)
  · rintro ⟨first, others⟩ front kind after split
    cases front with
    | nil =>
      cases split
      exact first (by simp [Item.unit?])
    | cons item front =>
      cases split
      exact others front kind after rfl

/-- Two counts place the tokens alike exactly if they agree in front of every unit. -/
theorem located_eq_iff {line other : List Item → Nat} {before text : List Item} :
    located line before text = located other before text ↔
      ∀ front kind after, text = front ++ .unit kind :: after →
        line (before ++ front) = other (before ++ front) := by
  induction text generalizing before with
  | nil => simp [located]
  | cons item text ih =>
    rw [forall_front_cons]
    cases item <;> simp [located, Item.unit?, ih]

/-- The lines that are not kept are those that end in literals. -/
theorem sourceLine_eq (before : List Item) :
    sourceLine before =
      keptLine before + ((before.filter Item.isLiteral).flatMap Item.text).count '\n' := by
  unfold keptLine sourceLine
  induction before with
  | nil => rfl
  | cons item before ih => cases literal : item.isLiteral <;> simp [literal] at ih ⊢ <;> omega

theorem keptLine_eq_sourceLine_iff {before : List Item} :
    keptLine before = sourceLine before ↔
      ∀ item ∈ before, item.isLiteral = true → '\n' ∉ item.text := by
  rw [sourceLine_eq, Nat.left_eq_add, List.count_eq_zero, List.mem_flatMap]
  simp

/-- **The tokens of a text are its units.** A text is cut into its items, and the tokens are the
units among them. The lines of tokens leave the newlines of literals out, so they are the lines that
the tokens start on exactly if no literal before a unit has a newline in it. -/
theorem ofText_items (text : List Char) :
    (items text).flatMap Item.text = text ∧
      Token.ofText (blankTrivia text) = located keptLine [] (items text) ∧
      (Token.ofText (blankTrivia text)).map Token.kind = (sourceTokens text).map Token.kind ∧
      (Token.ofText (blankTrivia text) = sourceTokens text ↔
        ∀ before kind after, items text = before ++ .unit kind :: after →
          ∀ item ∈ before, item.isLiteral = true → '\n' ∉ item.text) := by
  have kept : Token.ofText (blankTrivia text) = located keptLine [] (items text) :=
    code_agrees (Nat.lt_succ_self text.length) (fun c (member : c ∈ []) => by cases member) false []
  refine ⟨text_items text, kept, ?_, ?_⟩
  · rw [kept, sourceTokens, kinds_located, kinds_located]
  · rw [kept, sourceTokens, located_eq_iff]
    simp only [List.nil_append, keptLine_eq_sourceLine_iff]

/-- Behind a literal that goes over the end of a line, the line of a token is too small. -/
theorem line_lost_in_literal :
    Token.ofText (blankTrivia ['"', 'a', '\n', 'b', '"', ' ', 'x']) = [⟨.word "x", 1⟩] ∧
      sourceTokens ['"', 'a', '\n', 'b', '"', ' ', 'x'] = [⟨.word "x", 2⟩] ∧
      Token.ofText (blankTrivia ['"', 'a', '\n', 'b', '"', ' ', 'x']) ≠
        sourceTokens ['"', 'a', '\n', 'b', '"', ' ', 'x'] := by
  decide

end LapTelemetry.Spec
