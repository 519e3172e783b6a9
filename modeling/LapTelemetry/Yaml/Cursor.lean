/-! # Places in a document

A cursor is a place in a text: the characters from there on, with the position, which
counts lines and columns from zero and the bytes of the line before the place.
Between the lexemes of a document there are blanks, line breaks and comments;
`skipTrivia` passes over them. In block style a tab must not indent a line, so there
tabs are passed over only until the next line break.

Line breaks are read in one spelling: `unifyBreaks` turns each of the four spellings
that count as a newline into one. The line and the paragraph separator are breaks of
their own kind and stay. -/

namespace LapTelemetry.Yaml

set_option autoImplicit false

/-- The separators, which are breaks but no newlines. -/
def separators : List Char := ['\u2028', '\u2029']

/-- A line break; newlines have one spelling. -/
def isBreak (c : Char) : Bool := c == '\n' || separators.contains c

/-- A blank within a line. -/
def isBlank (c : Char) : Bool := c == ' ' || c == '\t'

/-- Whether a word ends before these characters. -/
def atWordEnd : List Char → Bool
  | [] => true
  | c :: _ => isBlank c || isBreak c

/-- Give every newline one spelling. -/
def unifyBreaks : List Char → List Char
  | [] => []
  | '\r' :: '\n' :: rest => '\n' :: unifyBreaks rest
  | c :: rest => (if c == '\r' || c == '\u0085' then '\n' else c) :: unifyBreaks rest

/-- The characters that a document may hold. -/
def isAllowed (c : Char) : Bool :=
  c == '\t' || c == '\n' || c == '\r' || (' ' ≤ c && c ≤ '~') || c == '\u0085' ||
    ('\u00A0' ≤ c && c ≤ '\uFFFD') || 0x10000 ≤ c.toNat

/-- The mark that may stand in front of a line without being part of it. -/
def byteOrderMark : Char := '\uFEFF'

/-! ## Positions -/

/-- Where a character stands. -/
structure Position where
  line : Nat
  column : Nat
  /-- The bytes of the line before the character. -/
  bytes : Nat
  deriving DecidableEq, Repr

namespace Position

/-- The position behind a character on the same line. -/
def after (p : Position) (c : Char) : Position := ⟨p.line, p.column + 1, p.bytes + c.utf8Size⟩

/-- The position behind some characters on the same line. -/
def afterAll (p : Position) (cs : List Char) : Position := cs.foldl after p

/-- The start of the next line. -/
def nextLine (p : Position) : Position := ⟨p.line + 1, 0, 0⟩

end Position

/-- What can be wrong with a document. -/
inductive Problem where
  | forbiddenCharacter
  | unexpectedCharacter (place : Position)
  | unclosedQuote (place : Position)
  | unknownEscape (place : Position)
  | markerInScalar (place : Position)
  | tabInIndentation (place : Position)
  | colonInScalar (place : Position)
  | zeroIndentation (place : Position)
  | trailingText (place : Position)
  | badName (place : Position)
  | badTag (place : Position)
  | badDirective (place : Position)
  | repeatedDirective
  | foreignVersion
  | unknownHandle (handle : String)
  | unknownAnchor (name : String)
  | colonExpected (place : Position)
  | misplacedKey (place : Position)
  | misplacedValue (place : Position)
  | list (place : Position)
  | nodeExpected
  | keyExpected
  | unclosedMapping
  | documentExpected
  | secondDocument
  deriving DecidableEq, Repr

/-! ## Cursors -/

/-- A place in a text. -/
structure Cursor where
  rest : List Char
  place : Position
  deriving Repr

namespace Cursor

/-- The start of a text. -/
def start (text : List Char) : Cursor := ⟨text, 0, 0, 0⟩

/-- How many characters are left. -/
def size (c : Cursor) : Nat := c.rest.length

/-- The place after some characters of the same line. -/
def drop (c : Cursor) (count : Nat) : Cursor :=
  ⟨c.rest.drop count, c.place.afterAll (c.rest.take count)⟩

/-- Pass over trivia, with the state of the place: whether tabs are passed over, and
whether a comment is going on. -/
def skipFrom (inFlow : Bool) : Bool → Bool → List Char → Position → Cursor
  | _, _, [], place => ⟨[], place⟩
  | tabs, comment, c :: rest, place =>
    if isBreak c then skipFrom inFlow inFlow false rest place.nextLine
    else if comment || c == ' ' || (tabs && c == '\t') || (place.column == 0 && c == byteOrderMark) then
      skipFrom inFlow tabs comment rest (place.after c)
    else if c == '#' then skipFrom inFlow tabs true rest (place.after c)
    else ⟨c :: rest, place⟩

/-- Pass over trivia. On the line of the cursor tabs are passed over if asked for;
later, they are only in flow style. -/
def skipTrivia (inFlow tabs : Bool) (c : Cursor) : Cursor := skipFrom inFlow tabs false c.rest c.place

/-- Whether three characters that mark the bounds of a document stand here. -/
def atMarkerOf (mark : Char) (c : Cursor) : Bool :=
  c.place.column == 0 && c.rest.take 3 == [mark, mark, mark] && atWordEnd (c.rest.drop 3)

/-- Whether a document begins or ends here. -/
def atMarker (c : Cursor) : Bool := c.atMarkerOf '-' || c.atMarkerOf '.'

theorem size_skipFrom (inFlow tabs comment : Bool) (text : List Char) (place : Position) :
    (skipFrom inFlow tabs comment text place).size ≤ text.length := by
  induction text generalizing tabs comment place with
  | nil => simp [skipFrom, size]
  | cons c rest ih =>
    rw [skipFrom, List.length_cons]
    split
    · exact Nat.le_succ_of_le (ih _ _ _)
    · split
      · exact Nat.le_succ_of_le (ih _ _ _)
      · split
        · exact Nat.le_succ_of_le (ih _ _ _)
        · simp [size]

/-- Passing over trivia never goes back. -/
theorem size_skipTrivia (inFlow tabs : Bool) (c : Cursor) :
    (c.skipTrivia inFlow tabs).size ≤ c.size :=
  size_skipFrom _ _ _ _ _

/-- Dropping characters goes on if there is one to drop. -/
theorem size_drop_lt {c : Cursor} {first : Char} {rest : List Char} (starts : c.rest = first :: rest)
    {count : Nat} (positive : 0 < count) : (c.drop count).size < c.size := by
  simp only [size, drop, starts, List.length_drop, List.length_cons]
  omega

end Cursor

end LapTelemetry.Yaml
