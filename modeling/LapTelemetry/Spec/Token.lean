import LapTelemetry.Text.Blank

/-! # Tokens of specification text

Blanks and the five marks `; [ ] { }` separate words; each mark is a token
of its own and a word is as long as it can be. A token knows the line it starts
on, which is one more than the number of newlines before it. -/

namespace LapTelemetry.Spec

open LapTelemetry.Text

set_option autoImplicit false

/-- A lexical unit. A word is a name, a keyword or a number. -/
inductive TokenKind where
  | word (text : String)
  | semicolon
  | openBracket
  | closeBracket
  | openBrace
  | closeBrace
  deriving DecidableEq, Repr

/-- A lexical unit and the line it starts on. -/
structure Token where
  kind : TokenKind
  line : Nat
  deriving DecidableEq, Repr

namespace TokenKind

/-- The characters of a lexical unit. -/
def spelling : TokenKind → String
  | .word text => text
  | .semicolon => ";"
  | .openBracket => "["
  | .closeBracket => "]"
  | .openBrace => "\x7b"
  | .closeBrace => "\x7d"

/-- The unit as it appears in messages. -/
def quoted (kind : TokenKind) : String := "'" ++ kind.spelling ++ "'"

/-- The unit a mark is. -/
def ofMark? : Char → Option TokenKind
  | ';' => some .semicolon
  | '[' => some .openBracket
  | ']' => some .closeBracket
  | '\x7b' => some .openBrace
  | '\x7d' => some .closeBrace
  | _ => none

end TokenKind

namespace Token

/-- Whether a token is the given word. -/
def isWord (token : Token) (text : String) : Bool := token.kind == .word text

/-- The word collected so far, backwards, as a token. -/
def pending (line : Nat) (word : List Char) : List Token :=
  if word.isEmpty then [] else [⟨.word (String.ofList word.reverse), line⟩]

/-- The tokens of the rest of a text. A word never spans lines, so the line of a
pending word is the current one. -/
def scan (line : Nat) (word : List Char) : List Char → List Token
  | [] => pending line word
  | c :: rest =>
    match TokenKind.ofMark? c with
    | some mark => pending line word ++ ⟨mark, line⟩ :: scan line [] rest
    | none =>
      if isBlank c then pending line word ++ scan (if c = '\n' then line + 1 else line) [] rest
      else scan line (c :: word) rest

/-- The tokens of a text without trivia. -/
def ofText (text : List Char) : List Token := scan 1 [] text

end Token

end LapTelemetry.Spec
