import LapTelemetry.Yaml.Scalar

/-! # Scalars in blocks of lines

After `|` or `>` a scalar is a block of indented lines. The header may say how deep
the lines are indented beyond what surrounds them, and what becomes of the breaks
behind the last line. If it does not say how deep, the deepest of the blank lines in
front and the first line with text decides. The block ends at a line that is
indented less.

A literal scalar (`|`) keeps its lines. In a folded scalar (`>`) a single newline
between two lines that start with text becomes a space, and one of several is
dropped. -/

namespace LapTelemetry.Yaml

set_option autoImplicit false

/-- What becomes of the breaks behind the last line. -/
inductive Chomping where
  | strip
  /-- The break that ends the line stays. -/
  | clip
  | keep
  deriving DecidableEq, Repr

/-- What the first line of a block says. -/
structure BlockHeader where
  chomping : Chomping
  /-- How much deeper the lines are indented than what surrounds them. -/
  deeper : Option Nat
  deriving DecidableEq, Repr

namespace BlockHeader

def plain : BlockHeader := ⟨.clip, none⟩

end BlockHeader

/-- The breaks between the lines of a block. -/
structure BlockGap where
  /-- The break that ended the last line, if there is a line. -/
  ended : Option Char
  /-- The blank lines after it. -/
  blankLines : List Char
  /-- Whether the last line started with a blank. -/
  startedBlank : Bool
  /-- The deepest column so far, counted until the indentation is known. -/
  deepest : Nat
  deriving DecidableEq, Repr

namespace BlockGap

/-- The gap in front of the first line. -/
def start : BlockGap := ⟨none, [], false, 0⟩

/-- The gap after another blank line, which was `column` columns deep. -/
def addLine (gap : BlockGap) (c : Char) (column : Nat) : BlockGap :=
  { gap with blankLines := gap.blankLines ++ [c], deepest := max gap.deepest column }

/-- What a gap comes to in front of a line. -/
def text (gap : BlockGap) (folded startsBlank : Bool) : List Char :=
  if folded && gap.ended == some '\n' && !gap.startedBlank && !startsBlank then
    (if gap.blankLines.isEmpty then [' '] else gap.blankLines)
  else gap.ended.toList ++ gap.blankLines

/-- What a gap comes to behind the last line. -/
def lastText (gap : BlockGap) : Chomping → List Char
  | .strip => []
  | .clip => gap.ended.toList
  | .keep => gap.ended.toList ++ gap.blankLines

end BlockGap

/-- Where reading stands in a block. -/
inductive BlockPlace where
  /-- In the comment behind the header, or in front of it. -/
  | header (comment : Bool)
  /-- In the indentation of a line; the indentation may not be known yet. -/
  | margin (indent : Option Nat) (gap : BlockGap)
  | line (indent : Nat) (startedBlank : Bool)
  deriving DecidableEq, Repr

/-- Read on in a block, from behind the indicators of its header. What surrounds it
is indented less than `floor`. -/
def blockFrom (folded : Bool) (header : BlockHeader) (floor : Nat) :
    BlockPlace → (text : List Char) → Position → Except Problem (Tail text)
  | .margin _ gap, [], place => .ok ⟨gap.lastText header.chomping, ⟨[], place⟩, true, Nat.le_refl _⟩
  | _, [], place => .ok (.stop [] place true)
  | .header comment, c :: rest, place =>
    if isBreak c then
      let indent := header.deeper.map fun deeper => floor - 1 + deeper
      (blockFrom folded header floor (.margin indent .start) rest place.nextLine).map (·.after [])
    else if comment || isBlank c then
      (blockFrom folded header floor (.header comment) rest (place.after c)).map (·.after [])
    else if c == '#' then
      (blockFrom folded header floor (.header true) rest (place.after c)).map (·.after [])
    else .error (.trailingText place)
  | .margin indent gap, c :: rest, place =>
    if c == ' ' && indent.all (place.column < ·) then
      (blockFrom folded header floor (.margin indent gap) rest (place.after c)).map (·.after [])
    else if c == '\t' && indent.all (place.column < ·) then .error (.tabInIndentation place)
    else if isBreak c then
      let longer := gap.addLine c place.column
      (blockFrom folded header floor (.margin indent longer) rest place.nextLine).map (·.after [])
    else
      let known := indent.getD (max (max gap.deepest place.column) (max floor 1))
      if place.column = known then
        (blockFrom folded header floor (.line known (isBlank c)) rest (place.after c)).map
          (·.after (gap.text folded (isBlank c) ++ [c]))
      else .ok ⟨gap.lastText header.chomping, ⟨c :: rest, place⟩, true, Nat.le_refl _⟩
  | .line indent startedBlank, c :: rest, place =>
    if isBreak c then
      let gap : BlockGap := ⟨some c, [], startedBlank, 0⟩
      (blockFrom folded header floor (.margin (some indent) gap) rest place.nextLine).map (·.after [])
    else
      (blockFrom folded header floor (.line indent startedBlank) rest (place.after c)).map
        (·.after [c])

/-- The chomping that a character stands for. -/
def chomping? : Char → Option Chomping
  | '-' => some .strip
  | '+' => some .keep
  | _ => none

/-- Read a block scalar from behind the character that introduces it. -/
def blockScalar (folded : Bool) (floor : Nat) (text : List Char) (place : Position) :
    Except Problem (Tail text) :=
  let deeper? (c : Char) : Option Nat := if c.isDigit then some (c.toNat - '0'.toNat) else none
  let go (header : BlockHeader) (rest : List Char) (place : Position) : Except Problem (Tail rest) :=
    if header.deeper = some 0 then .error (.zeroIndentation place)
    else blockFrom folded header floor (.header false) rest place
  match text with
  | [] => go .plain [] place
  | first :: others =>
    match chomping? first, deeper? first with
    | some chomping, _ =>
      match others with
      | [] => (go ⟨chomping, none⟩ [] (place.after first)).map (·.after [])
      | second :: rest =>
        match deeper? second with
        | some deeper =>
          (go ⟨chomping, some deeper⟩ rest ((place.after first).after second)).map fun tail =>
            (tail.after []).after []
        | none => (go ⟨chomping, none⟩ (second :: rest) (place.after first)).map (·.after [])
    | none, some deeper =>
      match others with
      | [] => (go ⟨.clip, some deeper⟩ [] (place.after first)).map (·.after [])
      | second :: rest =>
        match chomping? second with
        | some chomping =>
          (go ⟨chomping, some deeper⟩ rest ((place.after first).after second)).map fun tail =>
            (tail.after []).after []
        | none => (go ⟨.clip, some deeper⟩ (second :: rest) (place.after first)).map (·.after [])
    | none, none => go .plain (first :: others) place

end LapTelemetry.Yaml
