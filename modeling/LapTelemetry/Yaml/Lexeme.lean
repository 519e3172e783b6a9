import LapTelemetry.Yaml.BlockScalar
import LapTelemetry.Yaml.Tag

/-! # Lexemes

What is written in a document, piece by piece, without the structure that lines and
columns give it. Whether brackets are open decides how some pieces are read, and how
deep the surrounding lines are indented decides where some end; the rest of what
came before has no influence. Lists have no place in settings, so their marks are
refused.

A lexeme ends further on than it starts (`Lexed.shorter`). -/

namespace LapTelemetry.Yaml

set_option autoImplicit false

/-- A piece of a document. -/
inductive Lexeme where
  | directive (directive : Directive)
  | documentStart
  | documentEnd
  | openBrace
  | closeBrace
  | comma
  | question
  | colon
  | anchor (name : String)
  | aliasTo (name : String)
  | tag (tag : WrittenTag)
  | scalar (style : ScalarStyle) (text : String)
  deriving DecidableEq, Repr

/-- A lexeme that has been read at a cursor. -/
structure Lexed (c : Cursor) where
  lexeme : Lexeme
  next : Cursor
  /-- Whether the line was broken at the end. -/
  broke : Bool
  shorter : next.size < c.size

section

variable {c : Cursor} {first : Char} {rest : List Char}

/-- A lexeme of some characters on one line. -/
def Lexed.short (starts : c.rest = first :: rest) (lexeme : Lexeme) (more : Nat) : Lexed c :=
  ⟨lexeme, c.drop (more + 1), false, Cursor.size_drop_lt starts (Nat.succ_pos more)⟩

/-- A scalar of which the first characters and then the rest has been read. -/
def Tail.lexed (tail : Tail rest) (starts : c.rest = first :: rest) (style : ScalarStyle)
    (read : List Char) : Lexed c :=
  ⟨.scalar style (String.ofList (read ++ tail.value)), tail.next, tail.broke, by
    simp only [Cursor.size, starts, List.length_cons]
    exact Nat.lt_succ_of_le tail.le⟩

/-- The characters behind the next line break. -/
def Cursor.behindLine (text : List Char) (place : Position) : Cursor :=
  match text with
  | [] => ⟨[], place⟩
  | c :: rest => if isBreak c then ⟨rest, place.nextLine⟩ else behindLine rest (place.after c)

theorem Cursor.size_behindLine (text : List Char) (place : Position) :
    (behindLine text place).size ≤ text.length := by
  induction text generalizing place with
  | nil => simp [behindLine, size]
  | cons c rest ih =>
    rw [behindLine, List.length_cons]
    split
    · exact Nat.le_succ _
    · exact Nat.le_succ_of_le (ih _)

/-- A directive, which takes up its line. -/
def Lexed.wholeLine (starts : c.rest = first :: rest) (directive : Directive) : Lexed c :=
  ⟨.directive directive, Cursor.behindLine rest (c.place.after first), false, by
    have le := Cursor.size_behindLine rest (c.place.after first)
    simp only [Cursor.size, starts, List.length_cons] at le ⊢
    omega⟩

/-- The characters that may stand directly behind the name of an anchor. -/
def nameEnds : List Char := ['?', ':', ',', ']', '}', '%', '@', '\x60']

/-- The name of an anchor or alias. -/
def anchorName? (text : List Char) : Option (List Char) :=
  let name := text.takeWhile isNameChar
  let ends := match text.drop name.length with
    | [] => true
    | c :: _ => isBlank c || isBreak c || nameEnds.contains c
  if name.isEmpty || !ends then none else some name

/-- Read the name of an anchor or alias behind its mark. -/
def named (starts : c.rest = first :: rest) (lexeme : String → Lexeme) : Except Problem (Lexed c) :=
  match anchorName? rest with
  | some name => .ok (.short starts (lexeme (String.ofList name)) name.length)
  | none => .error (.badName c.place)

/-- Read a tag behind its exclamation mark. A blank follows it, or in flow style a
comma. -/
def tagged (inFlow : Bool) (starts : c.rest = first :: rest) : Except Problem (Lexed c) :=
  match writtenTag? rest with
  | some (tag, count) =>
    let behind := rest.drop count
    if atWordEnd behind || (inFlow && behind.head? == some ',') then
      .ok (.short starts (.tag tag) count)
    else .error (.badTag c.place)
  | none => .error (.badTag c.place)

/-- Whether an indicator stands for itself before these characters. -/
def standsAlone (inFlow : Bool) (rest : List Char) : Bool := inFlow || atWordEnd rest

end

/-- Read a scalar or an indicator at a character. -/
def lexemeFrom (inFlow : Bool) (floor : Nat) (c : Cursor) (first : Char) (rest : List Char)
    (starts : c.rest = first :: rest) : Except Problem (Lexed c) :=
  let behind := c.place.after first
  match first with
  | '{' => .ok (.short starts .openBrace 0)
  | '}' => .ok (.short starts .closeBrace 0)
  | ',' => .ok (.short starts .comma 0)
  | '[' => .error (.list c.place)
  | ']' => .error (.list c.place)
  | '*' => named starts .aliasTo
  | '&' => named starts .anchor
  | '!' => tagged inFlow starts
  | '\'' => (singleFrom .none rest behind).map (·.lexed starts .quoted [])
  | '"' => (doubleFrom (.outside .none) rest behind).map (·.lexed starts .quoted [])
  | _ =>
    if first == '-' && atWordEnd rest then .error (.list c.place)
    else if first == '?' && standsAlone inFlow rest then .ok (.short starts .question 0)
    else if first == ':' && standsAlone inFlow rest then .ok (.short starts .colon 0)
    else if first == '|' && !inFlow then
      (blockScalar false floor rest behind).map (·.lexed starts .literal [])
    else if first == '>' && !inFlow then
      (blockScalar true floor rest behind).map (·.lexed starts .folded [])
    else if startsPlain inFlow (first :: rest) then
      (plainFrom inFlow floor .none rest behind).map (·.lexed starts .plain [first])
    else .error (.unexpectedCharacter c.place)

/-- Read the lexeme at a cursor that is not at the end. What surrounds the place is
indented less than `floor`. -/
def lexemeAt (inFlow : Bool) (floor : Nat) (c : Cursor) (first : Char) (rest : List Char)
    (starts : c.rest = first :: rest) : Except Problem (Lexed c) :=
  if c.place.column == 0 && first == '%' then
    match directive? rest with
    | some directive => .ok (.wholeLine starts directive)
    | none => .error (.badDirective c.place)
  else if c.atMarkerOf '-' then .ok (.short starts .documentStart 2)
  else if c.atMarkerOf '.' then .ok (.short starts .documentEnd 2)
  else lexemeFrom inFlow floor c first rest starts

end LapTelemetry.Yaml
