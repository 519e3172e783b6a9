import LapTelemetry.Proofs.Spec.Blanking
import LapTelemetry.Proofs.Spec.Recognition

/-! # How a text is cut into tokens

A blank ends the word before it and begins afresh behind it, so the tokens of a text
are those of the part before a blank followed by those of the part behind it
(`scan_append_blank`), and blanks in a row do no more than one of them
(`scan_blanks`). A word is collected whole (`scan_word`) and a mark stands for itself
(`scan_mark`).

The line of a token is counted on the text without trivia. Blanking adds no newline
(`count_blankFrom`), so a token stands on a line of the text that it was written in
(`line_of_mem_ofText`). -/

namespace LapTelemetry.Spec

open LapTelemetry.Text

set_option autoImplicit false

/-- A character of words: neither a blank nor a mark. -/
def IsWordChar (c : Char) : Prop := isBlank c = false ∧ TokenKind.ofMark? c = none

theorem spelling_of_ofMark? {c : Char} {mark : TokenKind}
    (isMark : TokenKind.ofMark? c = some mark) : mark.spelling.toList = [c] := by
  unfold TokenKind.ofMark? at isMark
  split at isMark <;> first | (cases isMark; rfl) | cases isMark

namespace Token

variable {line : Nat} {word : List Char} {c : Char}

theorem ofMark?_of_isBlank (blank : isBlank c = true) : TokenKind.ofMark? c = none := by
  rw [TokenKind.ofMark?]
  all_goals
    rintro rfl
    exact absurd blank (by decide)

theorem scan_blank (blank : isBlank c = true) (rest : List Char) :
    scan line word (c :: rest) = pending line word ++ scan (line + [c].count '\n') [] rest := by
  have next : (if c = '\n' then line + 1 else line) = line + [c].count '\n' := by
    by_cases newline : c = '\n'
    · rw [if_pos newline, newline]
      rfl
    · rw [if_neg newline, List.count_cons_of_ne newline]
      rfl
  rw [scan, ofMark?_of_isBlank blank]
  simp only [blank, if_true, next]

theorem scan_wordChar (isWordChar : IsWordChar c) (rest : List Char) :
    scan line word (c :: rest) = scan line (c :: word) rest := by
  rw [scan, isWordChar.2]
  simp only [isWordChar.1, Bool.false_eq_true, if_false]

theorem scan_mark {mark : TokenKind} (isMark : TokenKind.ofMark? c = some mark)
    (rest : List Char) :
    scan line word (c :: rest) = pending line word ++ ⟨mark, line⟩ :: scan line [] rest := by
  rw [scan, isMark]

theorem scan_word {text : List Char} (plain : ∀ c ∈ text, IsWordChar c) (rest : List Char) :
    scan line word (text ++ rest) = scan line (text.reverse ++ word) rest := by
  induction text generalizing word with
  | nil => rfl
  | cons c text ih =>
    obtain ⟨first, others⟩ := List.forall_mem_cons.mp plain
    rw [List.cons_append, scan_wordChar first, ih others, List.reverse_cons, List.append_assoc]
    rfl

/-- What a character is to the scan. -/
theorem blank_or_mark_or_wordChar (c : Char) :
    isBlank c = true ∨ (∃ mark, TokenKind.ofMark? c = some mark ∧ c ≠ '\n') ∨ IsWordChar c := by
  cases blank : isBlank c with
  | true => exact .inl rfl
  | false =>
    cases isMark : TokenKind.ofMark? c with
    | some mark =>
      refine .inr (.inl ⟨mark, rfl, ?_⟩)
      rintro rfl
      cases isMark
    | none => exact .inr (.inr ⟨blank, isMark⟩)

theorem ne_newline_of_isWordChar (isWordChar : IsWordChar c) : c ≠ '\n' := by
  rintro rfl
  exact absurd isWordChar.1 (by decide)

/-- **A blank cuts the tokens of a text in two.** -/
theorem scan_append_blank (blank : isBlank c = true) (text rest : List Char) :
    scan line word (text ++ c :: rest) =
      scan line word text ++ scan (line + (text ++ [c]).count '\n') [] rest := by
  induction text generalizing line word with
  | nil => exact scan_blank blank rest
  | cons first text ih =>
    rcases blank_or_mark_or_wordChar first with isBlank | ⟨mark, isMark, notNewline⟩ | isWordChar
    · have counted : line + [first].count '\n' + (text ++ [c]).count '\n' =
          line + (first :: text ++ [c]).count '\n' := by
        rw [Nat.add_assoc, ← List.count_append, List.singleton_append, List.cons_append]
      rw [List.cons_append, scan_blank isBlank, scan_blank isBlank, ih, List.append_assoc, counted]
    · rw [List.cons_append, scan_mark isMark, scan_mark isMark, ih, List.append_assoc,
        List.cons_append, List.cons_append, List.count_cons_of_ne notNewline]
    · have notNewline := ne_newline_of_isWordChar isWordChar
      rw [List.cons_append, scan_wordChar isWordChar, scan_wordChar isWordChar, ih,
        List.cons_append, List.count_cons_of_ne notNewline]

theorem scan_of_blanks {text : List Char} (blank : ∀ c ∈ text, isBlank c = true) :
    scan line word text = pending line word := by
  induction text generalizing line word with
  | nil => rw [scan]
  | cons c text ih =>
    obtain ⟨first, others⟩ := List.forall_mem_cons.mp blank
    rw [scan_blank first, ih others]
    exact List.append_nil _

/-- Blanks in a row end the word before them. -/
theorem scan_blanks {blanks : List Char} (nonempty : blanks ≠ [])
    (blank : ∀ c ∈ blanks, isBlank c = true) (rest : List Char) :
    scan line word (blanks ++ rest) =
      pending line word ++ scan (line + blanks.count '\n') [] rest := by
  obtain ⟨others, last, rfl⟩ := (List.eq_nil_or_concat blanks).resolve_left nonempty
  rw [List.concat_eq_append] at blank ⊢
  have lastBlank : isBlank last = true := blank last (by simp)
  have othersBlank : ∀ c ∈ others, isBlank c = true := fun c member => blank c (by simp [member])
  rw [List.append_assoc, List.singleton_append, scan_append_blank lastBlank,
    scan_of_blanks othersBlank]

/-! ## Lines -/

theorem line_of_mem_pending {token : Token} (member : token ∈ pending line word) :
    token.line = line := by
  rw [pending] at member
  split at member
  · cases member
  · rw [List.mem_singleton.mp member]

/-- Every token stands between the line that the scan is on and the last line. -/
theorem line_of_mem_scan {text : List Char} {token : Token} (member : token ∈ scan line word text) :
    line ≤ token.line ∧ token.line ≤ line + text.count '\n' := by
  induction text generalizing line word with
  | nil =>
    rw [scan] at member
    have same := line_of_mem_pending member
    exact ⟨Nat.le_of_eq same.symm, Nat.le_of_eq same⟩
  | cons c text ih =>
    rcases blank_or_mark_or_wordChar c with blank | ⟨mark, isMark, notNewline⟩ | isWordChar
    · rw [scan_blank blank] at member
      have counted : (c :: text).count '\n' = [c].count '\n' + text.count '\n' := by
        rw [← List.count_append, List.singleton_append]
      rcases List.mem_append.mp member with here | later
      · have same := line_of_mem_pending here
        omega
      · have bounds := ih later
        omega
    · rw [scan_mark isMark] at member
      have counted : (c :: text).count '\n' = text.count '\n' := List.count_cons_of_ne notNewline
      rcases List.mem_append.mp member with here | later
      · have same := line_of_mem_pending here
        omega
      · rcases List.mem_cons.mp later with rfl | later
        · simp
        · have bounds := ih later
          omega
    · rw [scan_wordChar isWordChar] at member
      have counted : (c :: text).count '\n' = text.count '\n' :=
        List.count_cons_of_ne (ne_newline_of_isWordChar isWordChar)
      have bounds := ih member
      omega

end Token

/-- The newlines that a region keeps to itself until it ends. -/
def Region.held : Region → Nat
  | .blockComment newlines _ => newlines
  | _ => 0

/-- Blanking adds no newline. -/
theorem count_blankFrom (region : Region) (text : List Char) :
    (blankFrom region text).count '\n' ≤ region.held + text.count '\n' := by
  fun_induction blankFrom region text with
  | case11 newlines afterStar c rest closing ih =>
    -- The newlines that the comment held are written when it closes.
    have written : (' ' :: (List.replicate newlines '\n' ++
        blankFrom (.code (0 < newlines)) rest)).count '\n' =
          newlines + (blankFrom (.code (0 < newlines)) rest).count '\n' := by
      simp
    have behind : rest.count '\n' ≤ (c :: rest).count '\n' := List.count_le_count_cons
    simp only [Region.held] at ih ⊢
    omega
  | case12 newlines afterStar c rest going ih =>
    simp only [Region.held] at ih ⊢
    by_cases newline : c = '\n'
    · subst newline
      rw [List.count_cons_self]
      simp only [if_true] at ih ⊢
      omega
    · rw [List.count_cons_of_ne newline]
      simpa only [if_neg newline] using ih
  | case4 _ _ _ _ _ _ ih | case14 _ _ _ ih | case17 _ _ _ _ _ _ _ ih =>
    exact Nat.le_trans ih (Nat.add_le_add_left List.count_le_count_cons _)
  | case16 escaped c rest _ _ ih =>
    rw [List.count_cons_of_ne (by decide)]
    exact Nat.le_trans ih (Nat.add_le_add_left List.count_le_count_cons _)
  | _ => simp_all [Region.held, List.count_cons]

/-- A token stands on a line of the text that it was written in. -/
theorem line_of_mem_ofText {text : List Char} {token : Token}
    (member : token ∈ Token.ofText (blankTrivia text)) :
    1 ≤ token.line ∧ token.line ≤ 1 + text.count '\n' := by
  have bounds := Token.line_of_mem_scan member
  have fewer := count_blankFrom (.code false) text
  simp only [Region.held, Nat.zero_add] at fewer
  exact ⟨bounds.1, Nat.le_trans bounds.2 (Nat.add_le_add_left fewer 1)⟩

end LapTelemetry.Spec
