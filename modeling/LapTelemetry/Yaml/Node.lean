import LapTelemetry.Yaml.Token

/-! # Nodes and documents

A document is one node: a scalar, a mapping of nodes to nodes, or an alias of a node
with an anchor. In front of a node there may be an anchor and a tag, in any order.
Where a key or a value may stand and nothing is written, there is an empty plain
scalar. The entries of a mapping follow the tokens:

    block := blockStart entry* blockEnd        entry := key [node] [value [node]]
    flow  := '{' [item (',' item)* [',']] '}'  item  := entry | node

A text is a document with directives and a start mark, or without both, or nothing;
only end marks may follow.

Every rule returns the tokens behind it, which are fewer (`Reading.shorter`). -/

namespace LapTelemetry.Yaml

set_option autoImplicit false

/-- What stands in front of a node. -/
structure Properties where
  anchor : Option Nat
  tag : Option TagText
  deriving DecidableEq, Repr

namespace Properties

def none : Properties := ⟨Option.none, Option.none⟩

end Properties

/-- What a document is made of. -/
inductive Node where
  | scalar (properties : Properties) (style : ScalarStyle) (text : String)
  | mapping (properties : Properties) (entries : List (Node × Node))
  | aliasTo (number : Nat)
  deriving Repr

/-- The entries of a mapping in order. -/
abbrev Entries := List (Node × Node)

/-- The node where nothing is written. -/
def Node.empty : Node := .scalar .none .plain ""

/-! ## Reading nodes -/

/-- What has been read, and the tokens behind it, fewer than `bound`. -/
structure Reading (α : Type) (bound : Nat) where
  value : α
  rest : List Token
  shorter : rest.length < bound

/-- The same reading with another value, from further back. -/
def Reading.widen {α β : Type} {bound : Nat} (reading : Reading α bound) (value : β) {wider : Nat}
    (le : bound ≤ wider) : Reading β wider :=
  ⟨value, reading.rest, Nat.lt_of_lt_of_le reading.shorter le⟩

/-- The tokens behind the properties of a node. -/
structure Headed (tokens : List Token) where
  properties : Properties
  rest : List Token
  le : rest.length ≤ tokens.length

/-- Read the properties of a node. -/
def headed (handles : Handles) (tokens : List Token) : Except Problem (Headed tokens) :=
  match tokens with
  | .anchor number :: .tag tag :: rest =>
    (tag.resolve handles).map fun tag => ⟨⟨some number, some tag⟩, rest, by simp; omega⟩
  | .tag tag :: .anchor number :: rest =>
    (tag.resolve handles).map fun tag => ⟨⟨some number, some tag⟩, rest, by simp; omega⟩
  | .anchor number :: rest => .ok ⟨⟨some number, none⟩, rest, by simp⟩
  | .tag tag :: rest =>
    (tag.resolve handles).map fun tag => ⟨⟨none, some tag⟩, rest, by simp⟩
  | tokens => .ok ⟨.none, tokens, Nat.le_refl _⟩

/-- The tag of a scalar; the exclamation mark alone says nothing. -/
def Properties.ofScalar (properties : Properties) : Properties :=
  if properties.tag = some (TagText.ofAscii ['!']) then { properties with tag := Option.none }
  else properties

/-- What may follow where a node in block style is left out. -/
def endsBlockItem : Token → Bool
  | .key | .value | .blockEnd => true
  | _ => false

/-- What may follow where a key in flow style is left out. -/
def endsFlowKey : Token → Bool
  | .value | .comma | .closeBrace => true
  | _ => false

/-- What may follow where a value in flow style is left out. -/
def endsFlowValue : Token → Bool
  | .comma | .closeBrace => true
  | _ => false

mutual

/-- A node. -/
def node (handles : Handles) (tokens : List Token) : Except Problem (Reading Node tokens.length) :=
  match tokens with
  | .aliasTo number :: rest => .ok ⟨.aliasTo number, rest, by simp⟩
  | tokens => do
    let head ← headed handles tokens
    have le := head.le
    match starts : head.rest with
    | .scalar style text :: rest =>
      return ⟨.scalar head.properties.ofScalar style text, rest, by
        rw [starts, List.length_cons] at le; exact le⟩
    | .blockStart :: rest =>
      let entries ← blockEntries handles rest
      have lt := entries.shorter
      return entries.widen (.mapping head.properties entries.value) (by
        rw [starts, List.length_cons] at le; omega)
    | .openBrace :: rest =>
      let entries ← flowEntries handles rest
      return entries.widen (.mapping head.properties entries.value) (by
        rw [starts, List.length_cons] at le; omega)
    | rest =>
      if fewer : rest.length < tokens.length then
        return ⟨.scalar head.properties .plain "", rest, fewer⟩
      else throw .nodeExpected
termination_by (tokens.length, 1)
decreasing_by all_goals
  rw [starts, List.length_cons] at le
  exact Prod.Lex.left _ _ (by omega)

/-- A node, or nothing in front of some tokens. -/
def nodeUnless (handles : Handles) (ends : Token → Bool) (tokens : List Token) :
    Except Problem (Reading Node (tokens.length + 1)) :=
  if (tokens.head?.map ends).getD false then .ok ⟨.empty, tokens, Nat.lt_succ_self _⟩
  else do
    let read ← node handles tokens
    return read.widen read.value (Nat.le_succ _)
termination_by (tokens.length, 2)
decreasing_by exact Prod.Lex.right _ (by omega)

/-- The value behind a key, if there is one. -/
def valueUnless (handles : Handles) (ends : Token → Bool) (tokens : List Token) :
    Except Problem (Reading Node (tokens.length + 1)) :=
  match tokens with
  | .value :: rest => do
    let read ← nodeUnless handles ends rest
    return read.widen read.value (Nat.le_succ _)
  | tokens => .ok ⟨.empty, tokens, Nat.lt_succ_self _⟩
termination_by (tokens.length, 0)
decreasing_by exact Prod.Lex.left _ _ (by simp)

/-- The entries of a mapping in block style, and its end. -/
def blockEntries (handles : Handles) (tokens : List Token) :
    Except Problem (Reading Entries tokens.length) :=
  match tokens with
  | .blockEnd :: rest => .ok ⟨[], rest, by simp⟩
  | .key :: rest => do
    let key ← nodeUnless handles endsBlockItem rest
    have keyLt := key.shorter
    let value ← valueUnless handles endsBlockItem key.rest
    have valueLt := value.shorter
    let others ← blockEntries handles value.rest
    return others.widen ((key.value, value.value) :: others.value) (by simp; omega)
  | _ => .error .keyExpected
termination_by (tokens.length, 0)
decreasing_by all_goals exact Prod.Lex.left _ _ (by simp only [List.length_cons]; omega)

/-- The items behind an opening brace or a comma, and the closing brace. -/
def flowEntries (handles : Handles) (tokens : List Token) :
    Except Problem (Reading Entries tokens.length) :=
  match tokens with
  | .closeBrace :: rest => .ok ⟨[], rest, by simp⟩
  | .key :: rest => do
    let key ← nodeUnless handles endsFlowKey rest
    have keyLt := key.shorter
    let value ← valueUnless handles endsFlowValue key.rest
    have valueLt := value.shorter
    let others ← flowRest handles value.rest
    return others.widen ((key.value, value.value) :: others.value) (by simp; omega)
  | tokens => do
    let key ← node handles tokens
    have keyLt := key.shorter
    let others ← flowRest handles key.rest
    return others.widen ((key.value, .empty) :: others.value) (by omega)
termination_by (tokens.length, 2)
decreasing_by all_goals
  simp only [Prod.lex_def, List.length_cons, true_and]
  omega

/-- What follows an item: a comma and more, or the closing brace. -/
def flowRest (handles : Handles) (tokens : List Token) :
    Except Problem (Reading Entries tokens.length) :=
  match tokens with
  | .comma :: rest => do
    let others ← flowEntries handles rest
    return others.widen others.value (by simp)
  | .closeBrace :: rest => .ok ⟨[], rest, by simp⟩
  | _ => .error .unclosedMapping
termination_by (tokens.length, 0)
decreasing_by exact Prod.Lex.left _ _ (by simp)

end

/-! ## Documents -/

/-- A node with the nodes that aliases in it stand for. -/
structure Document where
  root : Node
  anchored : List (Nat × Node)
  deriving Repr

mutual

/-- The nodes with an anchor in a node, those further to the front first. -/
def Node.anchored : Node → List (Nat × Node)
  | .scalar properties style text =>
    (properties.anchor.map fun number => (number, Node.scalar properties style text)).toList
  | .mapping properties entries =>
    (properties.anchor.map fun number => (number, Node.mapping properties entries)).toList ++
      anchoredIn entries
  | .aliasTo _ => []

/-- The nodes with an anchor in entries. -/
def anchoredIn : Entries → List (Nat × Node)
  | [] => []
  | (key, value) :: others => key.anchored ++ value.anchored ++ anchoredIn others

end

namespace Document

/-- The document with a root. -/
def ofRoot (root : Node) : Document := ⟨root, root.anchored⟩

/-- What a node stands for: an alias stands for the last node with its number. -/
def target (document : Document) : Node → Node
  | .aliasTo number => (document.anchored.reverse.lookup number).getD (.aliasTo number)
  | node => node

/-- Directives in front of a document, and what follows. -/
def directives : List Token → List Directive × List Token
  | .directive directive :: rest => (directive :: (directives rest).1, (directives rest).2)
  | tokens => ([], tokens)

/-- Whether these tokens leave no document behind a start mark. -/
def isMissing : List Token → Bool
  | [] | .directive _ :: _ | .documentStart :: _ | .documentEnd :: _ => true
  | _ => false

/-- Nothing but end marks may follow a document. -/
def finish (tokens : List Token) : Except Problem Unit :=
  if tokens.all (· == .documentEnd) then .ok () else .error .secondDocument

/-- The document of some tokens. -/
def ofTokens (tokens : List Token) : Except Problem Document := do
  if tokens.isEmpty then return ofRoot .empty
  let (lines, rest) := directives tokens
  let handles ← Handles.ofDirectives lines
  match lines, rest with
  | _, .documentStart :: rest =>
    if isMissing rest then (finish rest).map fun _ => ofRoot .empty
    else
      let read ← node handles rest
      (finish read.rest).map fun _ => ofRoot read.value
  | _ :: _, _ => throw .documentExpected
  | [], rest =>
    let read ← node handles rest
    (finish read.rest).map fun _ => ofRoot read.value

/-- The document that a text holds. -/
def ofText (text : String) : Except Problem Document := do ofTokens (← Token.ofText text)

end Document

end LapTelemetry.Yaml
