import LapTelemetry.Yaml.Scalar

/-! # Tags and directives

A tag says what a node is. It is written in full between angle brackets, or as a
handle and a suffix; a directive in front of the document says what a handle stands
for. Two handles stand for something from the start. In a tag any byte can be
written as a percent sign and two hexadecimal digits, so the text of a tag is a
sequence of bytes; a zero byte ends it.

The other directive names the version of the format, which is 1.1 or 1.2. -/

namespace LapTelemetry.Yaml

set_option autoImplicit false

/-- The text of a tag, byte by byte. -/
abbrev TagText := List Nat

/-- The bytes of a text of ASCII characters. -/
def TagText.ofAscii (text : List Char) : TagText := text.map Char.toNat

/-- A character of the name of an anchor, a handle or a directive. -/
def isNameChar (c : Char) : Bool := c.isAlphanum || c == '_' || c == '-'

/-- The characters of a tag beside those of names. -/
def tagMarks : List Char :=
  [';', '/', '?', ':', '@', '&', '=', '+', '$', '.', '!', '~', '*', '\'', '(', ')']

/-- Whether a character may stand in a tag as it is; in full tags and in directives
the flow indicators may. -/
def isTagChar (flowMarks : Bool) (c : Char) : Bool :=
  isNameChar c || tagMarks.contains c || (flowMarks && [',', '[', ']'].contains c)

/-- How many bytes a character has that starts with this one. -/
def encodedLength? (byte : Nat) : Option Nat :=
  if byte < 0x80 then some 1
  else if byte < 0xC0 then none
  else if byte < 0xE0 then some 2
  else if byte < 0xF0 then some 3
  else if byte < 0xF8 then some 4
  else none

/-- How many more bytes of a character follow an escaped byte, if it may stand where
`due` bytes of a character are due. -/
def escapedByte? (due byte : Nat) : Option Nat :=
  match due with
  | 0 => (encodedLength? byte).map (· - 1)
  | due + 1 => if 0x80 ≤ byte ∧ byte < 0xC0 then some due else none

/-- Read the text of a tag while it goes on: the bytes, and the number of characters
they were written with. -/
def tagBytes? (flowMarks : Bool) : Nat → List Char → Option (TagText × Nat)
  | due, '%' :: high :: low :: rest => do
    let byte := 16 * (← hexValue? high) + (← hexValue? low)
    let (bytes, count) ← tagBytes? flowMarks (← escapedByte? due byte) rest
    return (byte :: bytes, count + 3)
  | 0, c :: rest =>
    if c == '%' then none
    else if isTagChar flowMarks c then do
      let (bytes, count) ← tagBytes? flowMarks 0 rest
      return (c.toNat :: bytes, count + 1)
    else some ([], 0)
  | 0, [] => some ([], 0)
  | _ + 1, _ => none

/-- Read the text of a tag, up to a zero byte, with the number of characters. -/
def tagText? (flowMarks : Bool) (text : List Char) : Option (TagText × Nat) :=
  (tagBytes? flowMarks 0 text).map fun (bytes, count) => (bytes.takeWhile (· != 0), count)

/-- A tag as it is written. -/
structure WrittenTag where
  /-- The handle with its exclamation marks; the empty text if there is none. -/
  handle : List Char
  suffix : TagText
  deriving DecidableEq, Repr

/-- Read a tag from behind its exclamation mark, with the number of characters. -/
def writtenTag? (text : List Char) : Option (WrittenTag × Nat) :=
  match text with
  | '<' :: full => do
    let (bytes, count) ← tagText? true full
    if count ≠ 0 ∧ (full.drop count).head? = some '>' then return (⟨[], bytes⟩, count + 2) else none
  | _ => do
    let name := text.takeWhile isNameChar
    let rest := text.drop name.length
    match rest with
    | '!' :: rest =>
      let (bytes, count) ← tagText? false rest
      if count = 0 then none
      else return (⟨'!' :: name ++ ['!'], bytes⟩, name.length + 1 + count)
    | _ =>
      let (bytes, count) ← tagText? false rest
      let suffix := TagText.ofAscii name ++ bytes
      let tag : WrittenTag :=
        if suffix.isEmpty then ⟨[], TagText.ofAscii ['!']⟩ else ⟨['!'], suffix⟩
      return (tag, name.length + count)

/-! ## Directives -/

/-- A line in front of a document. -/
inductive Directive where
  | version (major minor : Nat)
  | handle (name : List Char) (stands : TagText)
  deriving DecidableEq, Repr

/-- Read a number of at most nine digits. -/
def versionNumber? (text : List Char) : Option (Nat × List Char) :=
  let digits := text.takeWhile Char.isDigit
  if digits.isEmpty || 9 < digits.length then none
  else some (digits.foldl (fun value c => 10 * value + (c.toNat - '0'.toNat)) 0, text.drop digits.length)

/-- Whether nothing but a comment follows on the line. -/
def atLineEnd (text : List Char) : Bool :=
  match text.dropWhile isBlank with
  | [] => true
  | c :: _ => c == '#' || isBreak c

/-- Read the version that a directive names, and what is left of the line. -/
def versionDirective? (text : List Char) : Option Directive := do
  let (major, rest) ← versionNumber? (text.dropWhile isBlank)
  let '.' :: rest := rest | none
  let (minor, rest) ← versionNumber? rest
  if atLineEnd rest then some (.version major minor) else none

/-- Read a handle and what it stands for. -/
def handleDirective? (text : List Char) : Option Directive := do
  let '!' :: rest := text.dropWhile isBlank | none
  let name := rest.takeWhile isNameChar
  let (handle, rest) ← match rest.drop name.length with
    | '!' :: rest => some ('!' :: name ++ ['!'], rest)
    | rest => if name.isEmpty then some (['!'], rest) else none
  if !(rest.head?.map isBlank).getD false then none
  else do
    let stands := rest.dropWhile isBlank
    let (bytes, count) ← tagText? true stands
    let rest := stands.drop count
    if count ≠ 0 ∧ atWordEnd rest ∧ atLineEnd rest then some (.handle handle bytes) else none

/-- Read a directive from behind its percent sign. -/
def directive? (text : List Char) : Option Directive :=
  let name := text.takeWhile isNameChar
  let rest := text.drop name.length
  if !atWordEnd rest then none
  else if name = ['Y', 'A', 'M', 'L'] then versionDirective? rest
  else if name = ['T', 'A', 'G'] then handleDirective? rest
  else none

/-! ## What tags stand for -/

/-- What handles stand for. -/
abbrev Handles := List (List Char × TagText)

/-- The tags of the format itself start like this. -/
def coreTag (name : String) : TagText := TagText.ofAscii ("tag:yaml.org,2002:" ++ name).toList

/-- What handles stand for if no directive says otherwise. -/
def Handles.standard : Handles := [(['!'], TagText.ofAscii ['!']), (['!', '!'], coreTag "")]

/-- The handles and whether a version has been named, after a directive. -/
def Directive.apply (known : Handles × Bool) : Directive → Except Problem (Handles × Bool)
  | .version major minor =>
    if known.2 then .error .repeatedDirective
    else if major = 1 ∧ (minor = 1 ∨ minor = 2) then .ok (known.1, true)
    else .error .foreignVersion
  | .handle name stands =>
    if known.1.any (·.1 == name) then .error .repeatedDirective
    else .ok (known.1 ++ [(name, stands)], known.2)

/-- The handles of a document after its directives. -/
def Handles.ofDirectives (directives : List Directive) : Except Problem Handles := do
  let (handles, _) ← directives.foldlM Directive.apply ([], false)
  return handles ++ standard

/-- The tag that a written tag stands for. -/
def WrittenTag.resolve (handles : Handles) (tag : WrittenTag) : Except Problem TagText :=
  if tag.handle.isEmpty then .ok tag.suffix
  else
    match handles.lookup tag.handle with
    | some stands => .ok (stands ++ tag.suffix)
    | none => .error (.unknownHandle (String.ofList tag.handle))

end LapTelemetry.Yaml
