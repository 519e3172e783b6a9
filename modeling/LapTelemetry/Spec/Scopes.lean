import LapTelemetry.Spec.Arena
import LapTelemetry.Spec.Declaration.Parser

/-! # Reading an arena scope by scope

The tokens of a specification are read in one loop, with the scopes that are open on a stack: the
specification at its bottom, and on it at most a struct or a union and an inline struct. The kind of
the innermost scope says what a token means. A struct or a union is allocated when its scope opens,
a field when it is complete. A closing brace ends the innermost scope, and what is closed is
attached to the scope around it: to the specification as it is, and to a union as the type of a
member, whose name has yet to be read.

A token that opens or closes a scope, or starts a field, takes others with it. `Left` keeps the
proof that there are no more tokens afterwards, so the loop ends.

The rules of `Declaration.Parser` read the same tokens with one function for each construct, and
give the same nodes or the same fault (`ofTokens_arena`). -/

namespace LapTelemetry.Spec

set_option autoImplicit false

/-- What was made, and the tokens that are left. -/
structure Left (α : Type) (tokens : List Token) where
  value : α
  rest : List Token
  noMore : rest.length ≤ tokens.length

/-- The nodes so far, and the scopes that are open, from the innermost to the specification. -/
structure Scopes where
  arena : List Node
  stack : List Nat
  deriving DecidableEq, Repr

namespace Scopes

/-- Before the first token the specification alone is open. -/
def start : Scopes := ⟨Arena.empty, [0]⟩

/-- The innermost scope. -/
def top (scopes : Scopes) : Nat := scopes.stack.headD 0

/-- Allocate a node and open its scope. -/
def enter (scopes : Scopes) (kind : NodeKind) (line : Nat) : Scopes :=
  let (arena, id) := Arena.alloc scopes.arena kind line
  ⟨arena, id :: scopes.stack⟩

/-- Allocate a field and attach it to the innermost scope. -/
def addField (scopes : Scopes) (name : String) (type : NodeType) (line : Nat) : Scopes :=
  let (arena, id) := Arena.alloc scopes.arena (.field name type) line
  { scopes with arena := Arena.attach arena scopes.top id }

/-- A field after its type. -/
def readField (last : Nat) (scopes : Scopes) (type : String) (line : Nat) (tokens : List Token) :
    Except Fault (Left Scopes tokens) := do
  let field ← fieldAfter last scopes.arena.length type line tokens
  let decl := field.value
  return ⟨scopes.addField decl.name decl.type.node decl.line, field.rest, Nat.le_of_lt field.shorter⟩

/-- Close the innermost scope behind a brace on a line, and attach it to the scope around it. -/
def leave (last : Nat) (scopes : Scopes) (line : Nat) (tokens : List Token) :
    Except Fault (Left Scopes tokens) :=
  match scopes.stack with
  | closed :: parent :: below =>
    let outer : Scopes := { scopes with stack := parent :: below }
    match Arena.kind outer.arena parent with
    | .specification =>
      .ok ⟨{ outer with arena := Arena.attach outer.arena parent closed }, tokens, Nat.le_refl _⟩
    | .union _ => do
      let name ← word last .memberName tokens
      let stop ← exactly last .semicolon name.rest
      let member := outer.addField name.value (.inline closed) (Arena.line outer.arena closed)
      return ⟨member, stop.rest, Nat.le_of_lt (Nat.lt_trans stop.shorter name.shorter)⟩
    | .struct _ | .field _ _ => refuse line .nestedStruct
  | _ => refuse line .unbalancedBrace

/-- A token outside all bodies. -/
def inSpecification (last : Nat) (scopes : Scopes) (token : Token) (tokens : List Token) :
    Except Fault (Left Scopes tokens) :=
  match token.kind with
  | .semicolon => .ok ⟨scopes, tokens, Nat.le_refl _⟩
  | .word text =>
    if text = "struct" then do
      let head ← nextToken last .structName tokens
      match head.value.kind with
      | .openBrace =>
        return ⟨scopes.enter (.struct none) token.line, head.rest, Nat.le_of_lt head.shorter⟩
      | .word name =>
        let brace ← exactly last .openBrace head.rest
        return ⟨scopes.enter (.struct (some name)) token.line, brace.rest,
          Nat.le_of_lt (Nat.lt_trans brace.shorter head.shorter)⟩
      | found => refuse head.value.line (.unexpected .structName found)
    else if text = "union" then do
      let name ← word last .unionName tokens
      let brace ← exactly last .openBrace name.rest
      return ⟨scopes.enter (.union name.value) token.line, brace.rest,
        Nat.le_of_lt (Nat.lt_trans brace.shorter name.shorter)⟩
    else refuse token.line (.unexpected .declaration token.kind)
  | found => refuse token.line (.unexpected .declaration found)

/-- A token in the body of a struct. -/
def inStruct (last : Nat) (scopes : Scopes) (token : Token) (tokens : List Token) :
    Except Fault (Left Scopes tokens) :=
  match token.kind with
  | .closeBrace => scopes.leave last token.line tokens
  | .word type => scopes.readField last type token.line tokens
  | found => refuse token.line (.unexpected .structMember found)

/-- A token in the body of a union. -/
def inUnion (last : Nat) (scopes : Scopes) (token : Token) (tokens : List Token) :
    Except Fault (Left Scopes tokens) :=
  match token.kind with
  | .closeBrace => do
    let stop ← exactly last .semicolon tokens
    let left ← scopes.leave last token.line stop.rest
    return ⟨left.value, left.rest, Nat.le_trans left.noMore (Nat.le_of_lt stop.shorter)⟩
  | .word type =>
    if type = "struct" then do
      let brace ← exactly last .openBrace tokens
      return ⟨scopes.enter (.struct none) token.line, brace.rest, Nat.le_of_lt brace.shorter⟩
    else scopes.readField last type token.line tokens
  | found => refuse token.line (.unexpected .unionMember found)

/-- One turn of the loop: the innermost scope says what the token means. -/
def step (last : Nat) (scopes : Scopes) (token : Token) (tokens : List Token) :
    Except Fault (Left Scopes tokens) :=
  match Arena.kind scopes.arena scopes.top with
  | .struct _ => scopes.inStruct last token tokens
  | .union _ => scopes.inUnion last token tokens
  | .specification | .field _ _ => scopes.inSpecification last token tokens

/-- The end of the tokens; no scope but the specification may be open. -/
def finish (last : Nat) (scopes : Scopes) : Except Fault (List Node) :=
  match scopes.stack with
  | innermost :: _ :: _ => refuse last (.unclosed (Arena.kind scopes.arena innermost).scopeName?)
  | _ => .ok scopes.arena

/-- Read tokens to their end. -/
def run (last : Nat) (scopes : Scopes) : List Token → Except Fault (List Node)
  | [] => scopes.finish last
  | token :: tokens => do
    let next ← scopes.step last token tokens
    have := next.noMore
    next.value.run last next.rest
termination_by tokens => tokens.length
decreasing_by simp only [List.length_cons]; omega

end Scopes

namespace Arena

/-- The arena that tokens spell. -/
def ofTokens (tokens : List Token) : Except Fault (List Node) :=
  Scopes.start.run (lastLine tokens) tokens

/-- The arena that a text spells. -/
def ofText (text : List Char) : Except Fault (List Node) :=
  ofTokens (Token.ofText (blankTrivia text))

end Arena

end LapTelemetry.Spec
