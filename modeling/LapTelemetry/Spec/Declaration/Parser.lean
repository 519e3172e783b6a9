import LapTelemetry.Fault
import LapTelemetry.Spec.Declaration
import LapTelemetry.Spec.Trivia
import LapTelemetry.Number.Power

/-! # Reading declarations from tokens

The grammar, with words in any name or type position:

    specification := (';' | struct | union)*
    struct        := 'struct' [word] '{' field* '}'
    union         := 'union' word '{' (field | 'struct' '{' field* '}' word ';')* '}' ';'
    field         := word word ';' | word word '[' length ']' ';'

A length is an optional plus sign and decimal digits, below 2 ^ 64. A member of a
union that starts with the word `struct` is always an inline struct, and the
semicolon after a struct is an empty declaration.

Every rule returns the tokens after it together with the proof that they are
fewer, so the repetition of a rule ends. `last` is the line of the last token of
the text; a text that ends too early is reported there. -/

namespace LapTelemetry.Spec

open LapTelemetry.Number LapTelemetry.Text

set_option autoImplicit false

/-- What a rule read, and the fewer tokens after it. -/
structure Parsed (α : Type) (tokens : List Token) where
  value : α
  rest : List Token
  shorter : rest.length < tokens.length

/-- A fault of specification text on a line. -/
def refuse {α : Type} (line : Nat) (cause : SyntaxFault) : Except Fault α :=
  .error (.specSyntax line cause)

/-- Any token. -/
def nextToken (last : Nat) (expected : Expected) :
    (tokens : List Token) → Except Fault (Parsed Token tokens)
  | [] => refuse last (.endOfInput expected)
  | token :: rest => .ok ⟨token, rest, by simp⟩

/-- A token of the given kind. -/
def exactly (last : Nat) (kind : TokenKind) (tokens : List Token) :
    Except Fault (Parsed Unit tokens) := do
  let token ← nextToken last (.token kind) tokens
  if token.value.kind = kind then return ⟨(), token.rest, token.shorter⟩
  else refuse token.value.line (.unexpected (.token kind) token.value.kind)

/-- A word. -/
def word (last : Nat) (expected : Expected) (tokens : List Token) :
    Except Fault (Parsed String tokens) := do
  let token ← nextToken last expected tokens
  match token.value.kind with
  | .word text => return ⟨text, token.rest, token.shorter⟩
  | found => refuse token.value.line (.unexpected expected found)

/-- The length a word spells. -/
def arrayLength? (text : String) : Option Nat :=
  let digits := match text.toList with
    | '+' :: digits => digits
    | digits => digits
  (Decimal.value? digits).bind fun length => if length < pow2 64 then some length else none

/-- A field after its type. -/
def fieldAfter (last index : Nat) (type : String) (line : Nat) (tokens : List Token) :
    Except Fault (Parsed FieldDecl tokens) := do
  let name ← word last .fieldName tokens
  let mark ← nextToken last .fieldEnd name.rest
  have := name.shorter
  have := mark.shorter
  match mark.value.kind with
  | .semicolon => return ⟨⟨index, line, name.value, .named type⟩, mark.rest, by omega⟩
  | .openBracket =>
    let size ← word last .arrayLength mark.rest
    match arrayLength? size.value with
    | none => refuse line (.arrayLength name.value size.value)
    | some length =>
      let close ← exactly last .closeBracket size.rest
      let stop ← exactly last .semicolon close.rest
      have := size.shorter
      have := close.shorter
      have := stop.shorter
      return ⟨⟨index, line, name.value, .array type length⟩, stop.rest, by omega⟩
  | found => refuse mark.value.line (.unexpected .fieldEnd found)

/-- The fields of a struct up to its closing brace, with the next node number.
The name is that of the struct, for the message if the text ends in the body. -/
def structFields (last : Nat) (name : Option String) (index : Nat) :
    (tokens : List Token) → Except Fault (Parsed (List FieldDecl × Nat) tokens)
  | [] => refuse last (.unclosed name)
  | token :: rest =>
    match token.kind with
    | .closeBrace => .ok ⟨([], index), rest, by simp⟩
    | .word type => do
      let first ← fieldAfter last index type token.line rest
      have := first.shorter
      let others ← structFields last name (index + 1) first.rest
      have := others.shorter
      return ⟨(first.value :: others.value.1, others.value.2), others.rest, by
        simp only [List.length_cons]; omega⟩
    | found => refuse token.line (.unexpected .structMember found)
termination_by tokens => tokens.length
decreasing_by simp only [List.length_cons]; omega

/-- An inline struct after the word `struct`, with the next node number. -/
def inlineStruct (last index line : Nat) (tokens : List Token) :
    Except Fault (Parsed (Member × Nat) tokens) := do
  let start ← exactly last .openBrace tokens
  let body ← structFields last none (index + 1) start.rest
  let name ← word last .memberName body.rest
  let stop ← exactly last .semicolon name.rest
  have := start.shorter
  have := body.shorter
  have := name.shorter
  have := stop.shorter
  let (fields, own) := body.value
  return ⟨(.inline own name.value ⟨index, line, fields⟩, own + 1), stop.rest, by omega⟩

/-- The members of a union up to its closing brace and semicolon, with the next
node number. -/
def unionMembers (last : Nat) (name : String) (index : Nat) :
    (tokens : List Token) → Except Fault (Parsed (List Member × Nat) tokens)
  | [] => refuse last (.unclosed (some name))
  | token :: rest =>
    match token.kind with
    | .closeBrace => do
      let stop ← exactly last .semicolon rest
      have := stop.shorter
      return ⟨([], index), stop.rest, by simp only [List.length_cons]; omega⟩
    | .word type => do
      let first : Parsed (Member × Nat) rest ←
        if type = "struct" then inlineStruct last index token.line rest
        else do
          let field ← fieldAfter last index type token.line rest
          pure ⟨(.field field.value, index + 1), field.rest, field.shorter⟩
      have := first.shorter
      let others ← unionMembers last name first.value.2 first.rest
      have := others.shorter
      return ⟨(first.value.1 :: others.value.1, others.value.2), others.rest, by
        simp only [List.length_cons]; omega⟩
    | found => refuse token.line (.unexpected .unionMember found)
termination_by tokens => tokens.length
decreasing_by simp only [List.length_cons]; omega

/-- A struct after the word `struct`, with the next node number. -/
def structAfter (last index line : Nat) (tokens : List Token) :
    Except Fault (Parsed (Declaration × Nat) tokens) := do
  let head ← nextToken last .structName tokens
  have := head.shorter
  match head.value.kind with
  | .openBrace =>
    let body ← structFields last none (index + 1) head.rest
    have := body.shorter
    return ⟨(.struct none ⟨index, line, body.value.1⟩, body.value.2), body.rest, by omega⟩
  | .word name =>
    let start ← exactly last .openBrace head.rest
    let body ← structFields last (some name) (index + 1) start.rest
    have := start.shorter
    have := body.shorter
    return ⟨(.struct (some name) ⟨index, line, body.value.1⟩, body.value.2), body.rest, by omega⟩
  | found => refuse head.value.line (.unexpected .structName found)

/-- A union after the word `union`, with the next node number. -/
def unionAfter (last index line : Nat) (tokens : List Token) :
    Except Fault (Parsed (Declaration × Nat) tokens) := do
  let name ← word last .unionName tokens
  let start ← exactly last .openBrace name.rest
  let body ← unionMembers last name.value (index + 1) start.rest
  have := name.shorter
  have := start.shorter
  have := body.shorter
  return ⟨(.union index line name.value body.value.1, body.value.2), body.rest, by omega⟩

/-- Declarations to the end of the text, with the next node number. -/
def declarationList (last index : Nat) : List Token → Except Fault (List Declaration × Nat)
  | [] => .ok ([], index)
  | token :: rest =>
    match token.kind with
    | .semicolon => declarationList last index rest
    | .word text => do
      let first : Parsed (Declaration × Nat) rest ←
        if text = "struct" then structAfter last index token.line rest
        else if text = "union" then unionAfter last index token.line rest
        else refuse token.line (.unexpected .declaration token.kind)
      have := first.shorter
      let (others, next) ← declarationList last first.value.2 first.rest
      return (first.value.1 :: others, next)
    | found => refuse token.line (.unexpected .declaration found)
termination_by tokens => tokens.length
decreasing_by all_goals simp only [List.length_cons]; omega

/-- The line of the last token, or 1 if there is none. -/
def lastLine (tokens : List Token) : Nat := (tokens.getLast?.map (·.line)).getD 1

namespace Specification

/-- The specification that tokens spell. -/
def ofTokens (tokens : List Token) : Except Fault Specification := do
  let (declared, next) ← declarationList (lastLine tokens) 1 tokens
  return ⟨declared, next⟩

/-- The specification that a text spells. -/
def ofText (text : List Char) : Except Fault Specification :=
  ofTokens (Token.ofText (blankTrivia text))

end Specification

end LapTelemetry.Spec
