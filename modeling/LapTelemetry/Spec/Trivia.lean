/-! # Trivia of specification text

Comments and quoted literals carry no meaning in a specification. `blankTrivia`
replaces each of them by a space, so that the words around it stay apart, and
keeps the line structure where it can:

* a line comment runs to the end of its line and keeps the newline; at the end
  of the text it leaves a space only if the text before it does not end in a
  newline;
* a block comment leaves a space and as many newlines as it had; the star that
  opens it cannot close it;
* a literal in single or double quotes leaves a space alone; a backslash in it
  takes the next character with it, and its newlines are lost.

A comment or literal that is never closed runs to the end of the text. -/

namespace LapTelemetry.Spec

set_option autoImplicit false

/-- The region of the text the scan is in. `freshLine` says that what has been
written so far ends in a newline. -/
inductive Region where
  | code (freshLine : Bool)
  | lineComment (freshLine : Bool)
  | blockComment (newlines : Nat) (afterStar : Bool)
  | literal (quote : Char) (escaped : Bool)
  deriving DecidableEq, Repr

/-- The text with the rest of the region blanked, and everything after it. -/
def blankFrom : Region → List Char → List Char
  | .code _, [] => []
  | .code freshLine, '/' :: '/' :: rest => blankFrom (.lineComment freshLine) rest
  | .code _, '/' :: '*' :: rest => blankFrom (.blockComment 0 false) rest
  | .code _, c :: rest =>
    if c = '"' ∨ c = '\'' then blankFrom (.literal c false) rest
    else c :: blankFrom (.code (c = '\n')) rest
  | .lineComment freshLine, [] => if freshLine then [] else [' ']
  | .lineComment freshLine, c :: rest =>
    if c = '\n' then ' ' :: '\n' :: blankFrom (.code true) rest
    else blankFrom (.lineComment freshLine) rest
  | .blockComment newlines _, [] => ' ' :: List.replicate newlines '\n'
  | .blockComment newlines afterStar, c :: rest =>
    if afterStar ∧ c = '/' then
      ' ' :: (List.replicate newlines '\n' ++ blankFrom (.code (0 < newlines)) rest)
    else blankFrom (.blockComment (if c = '\n' then newlines + 1 else newlines) (c = '*')) rest
  | .literal _ _, [] => [' ']
  | .literal quote escaped, c :: rest =>
    if escaped then blankFrom (.literal quote false) rest
    else if c = '\\' then blankFrom (.literal quote true) rest
    else if c = quote then ' ' :: blankFrom (.code false) rest
    else blankFrom (.literal quote false) rest

/-- Specification text with every comment and literal blanked. -/
def blankTrivia (text : List Char) : List Char := blankFrom (.code false) text

example : blankTrivia "a/* x\ny */b".toList = "a \nb".toList := by decide
example : blankTrivia "a // b\nc // d".toList = "a  \nc  ".toList := by decide
example : blankTrivia "a\n// d".toList = "a\n".toList := by decide
example : blankTrivia "x\"y\\\"z\"w".toList = "x w".toList := by decide
example : blankTrivia "/*/ a */b".toList = " b".toList := by decide

end LapTelemetry.Spec
