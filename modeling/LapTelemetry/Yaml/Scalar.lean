import LapTelemetry.Yaml.Cursor

/-! # Scalars of a document

A scalar is a text, either plain, in quotes or in a block of lines. In the first two
styles blanks at the ends of its lines are dropped and a line break in it is folded:
into a space if it stands alone, and otherwise all but the first of the breaks stay.

* A plain scalar ends at a colon before a blank, at a comment, at a marker, and in
  block style at a line that is not indented further than what surrounds it. In
  flow style brackets and commas end it too.
* In single quotes a quote is written twice.
* In double quotes a backslash introduces an escape; before a line break it joins
  the lines.

Every scalar is read to a place further on (`Tail.le`). -/

namespace LapTelemetry.Yaml

set_option autoImplicit false

/-- How a scalar is written. -/
inductive ScalarStyle where
  | plain
  | quoted
  | literal
  | folded
  deriving DecidableEq, Repr

/-! ## Gaps inside scalars -/

/-- The blanks and breaks since the last character of a scalar. -/
inductive Gap where
  | blanks (held : List Char)
  /-- The first break, unless it was escaped, and the breaks after it. -/
  | breaks (first : Option Char) (others : List Char)
  deriving DecidableEq, Repr

namespace Gap

def none : Gap := .blanks []

def isNone (gap : Gap) : Bool := gap == none

def isBroken : Gap → Bool
  | .blanks _ => false
  | .breaks _ _ => true

/-- The gap after a blank; after a break blanks are dropped. -/
def addBlank : Gap → Char → Gap
  | .blanks held, c => .blanks (held ++ [c])
  | gap, _ => gap

/-- The gap after a break; the blanks before it are dropped. -/
def addBreak : Gap → Char → Gap
  | .blanks _, c => .breaks (some c) []
  | .breaks first others, c => .breaks first (others ++ [c])

/-- What a gap comes to in the text of the scalar. -/
def text : Gap → List Char
  | .blanks held => held
  | .breaks Option.none others => others
  | .breaks (some c) others =>
    if c == '\n' then (if others.isEmpty then [' '] else others) else c :: others

end Gap

/-! ## Plain scalars -/

/-- What has been read of a scalar from some characters on. -/
structure Tail (text : List Char) where
  value : List Char
  next : Cursor
  /-- Whether the line was broken at the end. -/
  broke : Bool
  le : next.size ≤ text.length

/-- The same, counted from one character before. -/
def Tail.after {c : Char} {rest : List Char} (tail : Tail rest) (read : List Char) :
    Tail (c :: rest) :=
  ⟨read ++ tail.value, tail.next, tail.broke, Nat.le_succ_of_le tail.le⟩

/-- The end of a scalar in front of these characters. -/
def Tail.stop (text : List Char) (place : Position) (broke : Bool) : Tail text :=
  ⟨[], ⟨text, place⟩, broke, Nat.le_refl _⟩

/-- What ends a plain scalar in flow style. -/
def flowEnds : List Char := [',', '[', ']', '{', '}']

/-- What must not follow a colon inside a plain scalar in flow style. -/
def flowClash : List Char := '?' :: flowEnds

/-- Whether a plain scalar ends before these characters, after a gap. -/
def plainEndsAfter (inFlow : Bool) (floor : Nat) (gap : Gap) (c : Cursor) : Bool :=
  !gap.isNone && ((!inFlow && c.place.column < floor) || c.atMarker || c.rest.head? == some '#')

/-- Read on in a plain scalar that must be indented to `floor` at least. -/
def plainFrom (inFlow : Bool) (floor : Nat) :
    Gap → (text : List Char) → Position → Except Problem (Tail text)
  | gap, [], place => .ok (.stop [] place gap.isBroken)
  | gap, c :: rest, place =>
    if isBlank c then
      if gap.isBroken && place.column < floor && c == '\t' then .error (.tabInIndentation place)
      else (plainFrom inFlow floor (gap.addBlank c) rest (place.after c)).map (·.after [])
    else if isBreak c then (plainFrom inFlow floor (gap.addBreak c) rest place.nextLine).map (·.after [])
    else if plainEndsAfter inFlow floor gap ⟨c :: rest, place⟩ then
      .ok (.stop (c :: rest) place gap.isBroken)
    else if inFlow && c == ':' && (rest.head?.map flowClash.contains).getD false then
      .error (.colonInScalar place)
    else if (c == ':' && atWordEnd rest) || (inFlow && flowEnds.contains c) then
      .ok (.stop (c :: rest) place gap.isBroken)
    else (plainFrom inFlow floor .none rest (place.after c)).map (·.after (gap.text ++ [c]))

/-- The characters with a meaning of their own at the start of a lexeme. -/
def indicators : List Char :=
  ['-', '?', ':', ',', '[', ']', '{', '}', '#', '&', '*', '!', '|', '>', '\'', '"', '%', '@', '\x60']

/-- Whether a plain scalar can start with these characters. -/
def startsPlain (inFlow : Bool) : List Char → Bool
  | [] => false
  | c :: rest =>
    if isBlank c || isBreak c then false
    else if indicators.contains c then
      (c == '-' || (!inFlow && (c == '?' || c == ':'))) && !atWordEnd rest
    else true

/-! ## Quotes -/

/-- Read on in single quotes. -/
def singleFrom : Gap → (text : List Char) → Position → Except Problem (Tail text)
  | _, [], place => .error (.unclosedQuote place)
  | gap, '\'' :: '\'' :: rest, place =>
    (singleFrom .none rest ((place.after '\'').after '\'')).map fun tail =>
      (tail.after []).after (gap.text ++ ['\''])
  | gap, c :: rest, place =>
    if isBlank c then (singleFrom (gap.addBlank c) rest (place.after c)).map (·.after [])
    else if isBreak c then (singleFrom (gap.addBreak c) rest place.nextLine).map (·.after [])
    else if Cursor.atMarker ⟨c :: rest, place⟩ then .error (.markerInScalar place)
    else if c == '\'' then .ok ((Tail.stop rest (place.after c) false).after gap.text)
    else (singleFrom .none rest (place.after c)).map (·.after (gap.text ++ [c]))

/-- The character of an escape with one letter. -/
def escaped? : Char → Option Char
  | '0' => some '\x00'
  | 'a' => some '\x07'
  | 'b' => some '\x08'
  | 't' => some '\t'
  | '\t' => some '\t'
  | 'n' => some '\n'
  | 'v' => some '\x0B'
  | 'f' => some '\x0C'
  | 'r' => some '\r'
  | 'e' => some '\x1B'
  | ' ' => some ' '
  | '"' => some '"'
  | '/' => some '/'
  | '\\' => some '\\'
  | 'N' => some '\u0085'
  | '_' => some '\u00A0'
  | 'L' => some '\u2028'
  | 'P' => some '\u2029'
  | _ => none

/-- How many hexadecimal digits an escape has. -/
def escapeDigits? : Char → Option Nat
  | 'x' => some 2
  | 'u' => some 4
  | 'U' => some 8
  | _ => none

/-- The value of a hexadecimal digit. -/
def hexValue? (c : Char) : Option Nat :=
  if '0' ≤ c ∧ c ≤ '9' then some (c.toNat - 48)
  else if 'a' ≤ c ∧ c ≤ 'f' then some (c.toNat - 87)
  else if 'A' ≤ c ∧ c ≤ 'F' then some (c.toNat - 55)
  else none

/-- The character of a code point, if there is one. -/
def character? (code : Nat) : Option Char :=
  if h : code.isValidChar then some (Char.ofNatAux code h) else none

/-- Where reading stands in double quotes. -/
inductive Escape where
  | outside (gap : Gap)
  | backslash
  /-- That many digits are still to come after the first one that is. -/
  | digits (more value : Nat)
  deriving DecidableEq, Repr

/-- Read on in double quotes. -/
def doubleFrom : Escape → (text : List Char) → Position → Except Problem (Tail text)
  | _, [], place => .error (.unclosedQuote place)
  | .outside gap, c :: rest, place =>
    if isBlank c then (doubleFrom (.outside (gap.addBlank c)) rest (place.after c)).map (·.after [])
    else if isBreak c then (doubleFrom (.outside (gap.addBreak c)) rest place.nextLine).map (·.after [])
    else if Cursor.atMarker ⟨c :: rest, place⟩ then .error (.markerInScalar place)
    else if c == '"' then .ok ((Tail.stop rest (place.after c) false).after gap.text)
    else if c == '\\' then (doubleFrom .backslash rest (place.after c)).map (·.after gap.text)
    else (doubleFrom (.outside .none) rest (place.after c)).map (·.after (gap.text ++ [c]))
  | .backslash, c :: rest, place =>
    if isBreak c then (doubleFrom (.outside (.breaks none [])) rest place.nextLine).map (·.after [])
    else
      match escaped? c, escapeDigits? c with
      | some value, _ => (doubleFrom (.outside .none) rest (place.after c)).map (·.after [value])
      | none, some (more + 1) => (doubleFrom (.digits more 0) rest (place.after c)).map (·.after [])
      | none, _ => .error (.unknownEscape place)
  | .digits more value, c :: rest, place =>
    match hexValue? c with
    | none => .error (.unknownEscape place)
    | some digit =>
      let total := 16 * value + digit
      match more with
      | more + 1 => (doubleFrom (.digits more total) rest (place.after c)).map (·.after [])
      | 0 =>
        match character? total with
        | some value => (doubleFrom (.outside .none) rest (place.after c)).map (·.after [value])
        | none => .error (.unknownEscape place)

end LapTelemetry.Yaml
