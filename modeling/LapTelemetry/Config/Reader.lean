import LapTelemetry.Config.Settings
import LapTelemetry.Yaml.Meaning
import LapTelemetry.Number.Power

/-! # Settings from documents

A document of settings is a mapping with a fixed set of keys, none of which occurs
twice; what it leaves out keeps its standard value. A text of blanks is a document
without settings. Among the tags any key may occur, and of two equal keys the later
counts. Settings that have been read are validated. -/

namespace LapTelemetry.Config

open LapTelemetry.Number LapTelemetry.Point LapTelemetry.Text LapTelemetry.Yaml

set_option autoImplicit false

/-- Why a document holds no settings. -/
inductive Unreadable where
  | notADocument (cause : Problem)
  | notAMapping (where_ : String)
  | unknownKey (key : String)
  | repeatedKey (key : String)
  | wrongValue (key : String)
  deriving DecidableEq, Repr

/-- A place in a document for readers, who count from one. -/
def placeText (place : Position) : String :=
  " at line " ++ Decimal.ofNat (place.line + 1) ++ " column " ++ Decimal.ofNat (place.column + 1)

def problemText : Problem → String
  | .forbiddenCharacter => "control characters are not allowed"
  | .unexpectedCharacter place => "unexpected character" ++ placeText place
  | .unclosedQuote place => "unclosed quote" ++ placeText place
  | .unknownEscape place => "unknown escape" ++ placeText place
  | .markerInScalar place => "document marker in a quoted scalar" ++ placeText place
  | .tabInIndentation place => "tab in the indentation" ++ placeText place
  | .colonInScalar place => "unexpected colon" ++ placeText place
  | .zeroIndentation place => "a block must be indented" ++ placeText place
  | .trailingText place => "unexpected text behind the head of a block" ++ placeText place
  | .badName place => "expected a name" ++ placeText place
  | .badTag place => "malformed tag" ++ placeText place
  | .badDirective place => "malformed directive" ++ placeText place
  | .repeatedDirective => "repeated directive"
  | .foreignVersion => "unknown version of the format"
  | .unknownHandle handle => "unknown tag handle " ++ handle
  | .unknownAnchor name => "unknown anchor '" ++ name ++ "'"
  | .colonExpected place => "expected a colon behind the key" ++ placeText place
  | .misplacedKey place => "a key cannot stand here" ++ placeText place
  | .misplacedValue place => "a value cannot stand here" ++ placeText place
  | .list place => "a list cannot stand here" ++ placeText place
  | .nodeExpected => "expected a value"
  | .keyExpected => "expected a key"
  | .unclosedMapping => "unclosed mapping"
  | .documentExpected => "expected a document behind the directives"
  | .secondDocument => "second document"

def Unreadable.text : Unreadable → String
  | .notADocument cause => problemText cause
  | .notAMapping place => place ++ " is no mapping"
  | .unknownKey key => "unknown key '" ++ key ++ "'"
  | .repeatedKey key => "repeated key '" ++ key ++ "'"
  | .wrongValue key => "wrong value of '" ++ key ++ "'"

/-- The first key that occurs again later. -/
def repeatedKey? : List String → Option String
  | [] => none
  | key :: others => if key ∈ others then some key else repeatedKey? others

/-- Entries whose keys are texts. -/
abbrev NamedEntries := List (String × Node)

/-- The entries of a mapping whose keys are all texts. -/
def namedEntries? (document : Document) (node : Node) : Option NamedEntries := do
  (← (document.target node).entries?).mapM fun (key, value) => do
    return (← (document.target key).text?, value)

/-- The entries of a mapping that has known keys, each at most once. -/
def knownEntries (document : Document) (place : String) (known : List String) (node : Node) :
    Except Unreadable NamedEntries := do
  let some entries := namedEntries? document node | throw (.notAMapping place)
  let keys := entries.map (·.1)
  match keys.find? fun key => !known.contains key with
  | some key => throw (.unknownKey key)
  | none =>
    match repeatedKey? keys with
    | some key => throw (.repeatedKey key)
    | none => return entries

/-- The value of a key, or its standard value. -/
def valueOr {α : Type} (document : Document) (entries : NamedEntries) (key : String) (standard : α)
    (read : Node → Option α) : Except Unreadable α :=
  match entries.lookup key with
  | none => .ok standard
  | some node =>
    match read (document.target node) with
    | some value => .ok value
    | none => .error (.wrongValue key)

/-- A natural number below a bound. -/
def naturalBelow? (bound : Nat) (node : Node) : Option Nat :=
  node.natural?.bind fun n => if n < bound then some n else none

/-- Tags, of which both the key and the value are texts. -/
def tags? (document : Document) (node : Node) : Option Tags := do
  let entries ← namedEntries? document node
  return .ofList (← entries.mapM fun (key, value) => do
    return (key, ← (document.target value).text?))

/-- The settings of a destination in a node. -/
def readDelivery (document : Document) (node : Node) : Except Unreadable Delivery := do
  let standard := Settings.standard.delivery
  let entries ← knownEntries document "sink" ["bucket", "org", "tags"] node
  return {
    bucket := ← valueOr document entries "bucket" standard.bucket Node.text?
    org := ← valueOr document entries "org" standard.org Node.optionalText?
    tags := ← valueOr document entries "tags" standard.tags (tags? document) }

/-- The settings in a document. -/
def readSettings (document : Document) : Except Unreadable Settings := do
  let standard := Settings.standard
  let entries ← knownEntries document "the document"
    ["listen", "spec", "packet_format", "max_datagram_size", "sink"] document.root
  return {
    listen := ← valueOr document entries "listen" standard.listen fun node =>
      node.text?.bind SocketAddress.ofText?
    spec := ← valueOr document entries "spec" standard.spec Node.optionalText?
    format := ← valueOr document entries "packet_format" standard.format (naturalBelow? (pow2 16))
    maxDatagramSize := ←
      valueOr document entries "max_datagram_size" standard.maxDatagramSize (naturalBelow? (pow2 64))
    delivery := ← match entries.lookup "sink" with
      | none => .ok standard.delivery
      | some node => readDelivery document node }

namespace Settings

/-- The settings that a text holds. -/
def ofText (text : String) : Except Fault Settings :=
  if isBlankText text then .ok standard
  else
    match (Document.ofText text).mapError Unreadable.notADocument >>= readSettings with
    | .error cause => .error (.config (.unreadable cause.text))
    | .ok settings => settings.validate.map fun _ => settings

/-- The settings at a path. -/
def load {m : Type → Type} [Monad m] (content : Content m) (path : String) :
    m (Except Fault Settings) := do
  match ← content path with
  | .ok text => return ofText text
  | .error cause => return .error (.io (.readingConfig path) cause)

end Settings

end LapTelemetry.Config
