import LapTelemetry.Yaml.Lexeme

/-! # Tokens

Tokens are the lexemes of a document with the structure that lines and columns stand
for. A mapping in block style begins where its first key stands and ends before the
first lexeme that stands further to the left; each of its keys gets a mark in front.

What is written with a colon behind it is only found to be a key when the colon is
reached. So the place of the last lexeme that may turn out to start a key is
remembered, one for every open brace and one for the block around them: a
`Candidate`. It stays one as long as the line goes on, for 1024 bytes at most. A
lexeme that stands where the mapping around it has its keys must turn out to be one.

Anchors and aliases are matched here. An anchor is numbered by how many names have
been given to anchors before it; an alias gets the number of the last anchor of its
name. -/

namespace LapTelemetry.Yaml

set_option autoImplicit false

/-- A lexeme, or a mark of structure. -/
inductive Token where
  | directive (directive : Directive)
  | documentStart
  | documentEnd
  | blockStart
  | blockEnd
  | openBrace
  | closeBrace
  | comma
  | key
  | value
  | anchor (number : Nat)
  | aliasTo (number : Nat)
  | tag (tag : WrittenTag)
  | scalar (style : ScalarStyle) (text : String)
  deriving DecidableEq, Repr

/-- A token that may turn out to start a key. -/
structure Candidate where
  /-- How many tokens stand before it. -/
  number : Nat
  place : Position
  /-- Whether it stands where keys stand. -/
  required : Bool
  deriving DecidableEq, Repr

/-- This many bytes a key may be from its colon. -/
def maxKeySpan : Nat := 1024

namespace Candidate

/-- Whether a colon at a place can no longer make a key of the candidate. -/
def isLate (candidate : Candidate) (place : Position) : Bool :=
  candidate.place.line < place.line || candidate.place.bytes + maxKeySpan < place.bytes

/-- Give a candidate up, which a required one cannot be. -/
def giveUp : Option Candidate → Except Problem (Option Candidate)
  | some candidate =>
    if candidate.required then .error (.colonExpected candidate.place) else .ok none
  | none => .ok none

/-- What is left of a candidate at a place. -/
def expire (place : Position) (candidate : Option Candidate) : Except Problem (Option Candidate) :=
  if candidate.any (·.isLate place) then giveUp candidate else .ok candidate

end Candidate

/-- What has been found out up to a place. -/
structure Context where
  /-- The tokens so far, the last one first. -/
  tokens : List Token
  /-- The columns of the open mappings in block style, the innermost first. -/
  columns : List Nat
  candidate : Option Candidate
  /-- The candidates in front of the open braces, the innermost first. -/
  outside : List (Option Candidate)
  /-- Whether a key may start at the next lexeme. -/
  keyAllowed : Bool
  /-- The numbers of the anchors by name. -/
  anchors : List (String × Nat)
  deriving Repr

namespace Context

/-- At the start of a text. -/
def start : Context := ⟨[], [], none, [], true, []⟩

/-- Whether a brace is open. -/
def inFlow (context : Context) : Bool := !context.outside.isEmpty

/-- Lines that belong to the innermost mapping in block style, and not only to it as
keys, are indented this deep at least. -/
def floor (context : Context) : Nat := (context.columns.head?.map (· + 1)).getD 0

/-- Add a token. -/
def add (context : Context) (token : Token) : Context :=
  { context with tokens := token :: context.tokens }

/-- Insert tokens in front of the last ones, the first `number` staying in front. -/
def insert (context : Context) (number : Nat) (inserted : List Token) : Context :=
  let later := context.tokens.length - number
  { context with
    tokens := context.tokens.take later ++ inserted.reverse ++ context.tokens.drop later }

/-- Whether a mapping in block style begins with a key in this column. -/
def opensAt (context : Context) (column : Nat) : Bool := !context.inFlow && context.floor ≤ column

/-- Begin a mapping in block style if a key in this column begins one. -/
def openMapping (context : Context) (column : Nat) : Context :=
  if context.opensAt column then
    { context.add .blockStart with columns := column :: context.columns }
  else context

/-- End the mappings in block style whose keys stand in the columns that are given
up. -/
def closeMappings (context : Context) (given : Nat → Bool) : Context :=
  if context.inFlow then context
  else
    { context with
      tokens := (context.columns.takeWhile given).map (fun _ => .blockEnd) ++ context.tokens
      columns := context.columns.dropWhile given }

/-- Give up the innermost candidate. -/
def settle (context : Context) : Except Problem Context := do
  return { context with candidate := ← Candidate.giveUp context.candidate }

/-- Remember the next token, which is at a place, if a key may start there. -/
def remember (context : Context) (place : Position) : Except Problem Context :=
  if context.keyAllowed then do
    let context ← context.settle
    let required := !context.inFlow && context.columns.head? == some place.column
    return { context with candidate := some ⟨context.tokens.length, place, required⟩ }
  else .ok context

/-- Give up the candidates that have become too late at a place. -/
def expire (context : Context) (place : Position) : Except Problem Context := do
  return { context with
    candidate := ← Candidate.expire place context.candidate
    outside := ← context.outside.mapM (Candidate.expire place) }

/-- The context in front of a lexeme at a place. -/
def reach (context : Context) (place : Position) : Except Problem Context := do
  return (← context.expire place).closeMappings (place.column < ·)

/-! ## The lexemes -/

/-- A lexeme outside all mappings in block style. -/
def boundary (context : Context) (token : Token) : Except Problem Context := do
  let context ← (context.closeMappings fun _ => true).settle
  return { context with keyAllowed := false }.add token

/-- A lexeme that may start a key. -/
def content (context : Context) (place : Position) (token : Token) : Except Problem Context := do
  let context ← context.remember place
  return { context with keyAllowed := false }.add token

/-- A question mark. -/
def question (context : Context) (place : Position) : Except Problem Context := do
  if !context.inFlow && !context.keyAllowed then throw (.misplacedKey place)
  let context ← (context.openMapping place.column).settle
  return { context with keyAllowed := !context.inFlow }.add .key

/-- A colon. -/
def colon (context : Context) (place : Position) : Except Problem Context :=
  match context.candidate with
  | some candidate =>
    let column := candidate.place.column
    let marks := if context.opensAt column then [Token.blockStart, .key] else [.key]
    let columns := if context.opensAt column then column :: context.columns else context.columns
    .ok ({ context.insert candidate.number marks with columns, candidate := none, keyAllowed := false }.add
      .value)
  | none => do
    if !context.inFlow && !context.keyAllowed then throw (.misplacedValue place)
    let context := context.openMapping place.column
    return { context with keyAllowed := !context.inFlow }.add .value

/-- An opening brace. -/
def openBrace (context : Context) (place : Position) : Except Problem Context := do
  let context ← context.remember place
  return { context with
    candidate := none
    outside := context.candidate :: context.outside
    keyAllowed := true }.add .openBrace

/-- A closing brace. -/
def closeBrace (context : Context) : Except Problem Context := do
  let context ← context.settle
  return { context with
    candidate := context.outside.head?.join
    outside := context.outside.tail
    keyAllowed := false }.add .closeBrace

/-- A comma. -/
def comma (context : Context) : Except Problem Context := do
  return { ← context.settle with keyAllowed := true }.add .comma

/-- An anchor. -/
def anchor (context : Context) (place : Position) (name : String) : Except Problem Context := do
  let others := context.anchors.filter (·.1 != name)
  let number := context.anchors.length
  let context ← context.content place (.anchor number)
  return { context with anchors := (name, number) :: others }

/-- An alias. -/
def aliasTo (context : Context) (place : Position) (name : String) : Except Problem Context :=
  match context.anchors.lookup name with
  | some number => context.content place (.aliasTo number)
  | none => .error (.unknownAnchor name)

/-- A scalar. -/
def scalar (context : Context) (place : Position) (style : ScalarStyle) (text : String) (broke : Bool) :
    Except Problem Context := do
  let token := Token.scalar style text
  match style with
  | .literal | .folded => return { ← context.settle with keyAllowed := true }.add token
  | .plain | .quoted => return { ← context.content place token with keyAllowed := broke }

/-- The context behind a lexeme at a place. -/
def take (context : Context) (place : Position) (lexeme : Lexeme) (broke : Bool) :
    Except Problem Context :=
  match lexeme with
  | .directive directive => context.boundary (.directive directive)
  | .documentStart => context.boundary .documentStart
  | .documentEnd => context.boundary .documentEnd
  | .openBrace => context.openBrace place
  | .closeBrace => context.closeBrace
  | .comma => context.comma
  | .question => context.question place
  | .colon => context.colon place
  | .anchor name => context.anchor place name
  | .aliasTo name => context.aliasTo place name
  | .tag tag => context.content place (.tag tag)
  | .scalar style text => context.scalar place style text broke

/-- The context behind trivia in which the line may have been broken. -/
def passTrivia (context : Context) (broke : Bool) : Context :=
  if broke && !context.inFlow then { context with keyAllowed := true } else context

/-- All tokens in order, at the end of the text. -/
def finish (context : Context) : Except Problem (List Token) := do
  return (← (context.closeMappings fun _ => true).settle).tokens.reverse

/-- Read on from a place. -/
def readOn (context : Context) (c : Cursor) : Except Problem (List Token) := do
  let t := c.skipTrivia context.inFlow (context.inFlow || !context.keyAllowed)
  have : t.size ≤ c.size := Cursor.size_skipTrivia _ _ c
  let context := context.passTrivia (t.place.line != c.place.line)
  let context ← context.reach t.place
  match starts : t.rest with
  | [] => context.finish
  | first :: rest =>
    let read ← lexemeAt context.inFlow context.floor t first rest starts
    have := read.shorter
    (← context.take t.place read.lexeme read.broke).readOn read.next
termination_by c.size
decreasing_by omega

end Context

namespace Token

/-- The tokens of a text. -/
def ofText (text : String) : Except Problem (List Token) :=
  if text.toList.all isAllowed then Context.start.readOn (.start (unifyBreaks text.toList))
  else .error .forbiddenCharacter

end Token

end LapTelemetry.Yaml
