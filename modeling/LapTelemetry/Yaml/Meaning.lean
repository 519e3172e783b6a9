import LapTelemetry.Text.Decimal
import LapTelemetry.Yaml.Node

/-! # What nodes mean

A node means different things to different readers. Any scalar is a text. Only a
plain scalar can be a number or say that there is nothing, and a literal one can be a
number if its tag says so: quotes make a text of what stands in them. A place where
nothing is written also passes for an empty mapping.

A plain scalar with a tag says that there is nothing if the tag is that of nothing,
and must then be a spelling of it. -/

namespace LapTelemetry.Yaml

open LapTelemetry.Text

set_option autoImplicit false

/-- The spellings of nothing. -/
def nullTexts : List String := ["~", "null", "Null", "NULL"]

/-- Digits of a radix as a number. -/
def digitsIn? (radix : Nat) (digits : List Char) : Option Nat :=
  if digits.isEmpty then none
  else digits.foldlM (fun value c => do
    let digit ← hexValue? c
    if digit < radix then some (radix * value + digit) else none) 0

/-- The natural number that a plain scalar spells: in decimal without leading zeros,
or with a mark for another radix; a plus sign may stand in front. -/
def naturalOf? (text : List Char) : Option Nat :=
  let unsigned := match text with
    | '+' :: rest => rest
    | _ => text
  match unsigned with
  | '0' :: 'x' :: digits => digitsIn? 16 digits
  | '0' :: 'o' :: digits => digitsIn? 8 digits
  | '0' :: 'b' :: digits => digitsIn? 2 digits
  | ['0'] => some 0
  | '0' :: _ => none
  | digits => Decimal.value? digits

namespace Node

/-- The text of a scalar. -/
def text? : Node → Option String
  | .scalar _ _ text => some text
  | _ => none

/-- The text of a scalar, or nothing. -/
def optionalText? : Node → Option (Option String)
  | .scalar properties .plain text =>
    match properties.tag with
    | none => some (if text.isEmpty || nullTexts.contains text then none else some text)
    | some tag =>
      if tag ≠ coreTag "null" then some (some text)
      else if nullTexts.contains text then some none
      else none
  | .scalar _ _ text => some (some text)
  | _ => none

/-- The natural number a node spells. -/
def natural? : Node → Option Nat
  | .scalar properties style text =>
    if style = .plain ∨ (style = .literal ∧ properties.tag = some (coreTag "int")) then
      naturalOf? text.toList
    else none
  | _ => none

/-- The entries of a mapping. -/
def entries? : Node → Option Entries
  | .mapping _ entries => some entries
  | .scalar _ style text => if style = .plain ∧ text.isEmpty then some [] else none
  | .aliasTo _ => none

end Node

end LapTelemetry.Yaml
