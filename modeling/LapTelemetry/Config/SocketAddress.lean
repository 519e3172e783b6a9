import LapTelemetry.Text.Decimal
import LapTelemetry.Number.Power

/-! # Socket addresses

The text of a socket address is a host, a colon and a port. A host of version 4 has
four octets in decimal without leading zeros. A host of version 6 stands in brackets
and has eight groups of hexadecimal digits; `::` stands for at least one group of
zeros, the last two groups may be written as a host of version 4, and a scope may
follow a percent sign.

On output, a host of version 6 gets `::` for its longest run of zero groups, the
first one of equal length, if the run is longer than one group; a host of version 4
in the range reserved for such hosts is written as one. -/

namespace LapTelemetry.Config

open LapTelemetry.Number LapTelemetry.Text

set_option autoImplicit false

/-- A host of version 4. -/
structure HostV4 where
  octets : Vector UInt8 4
  deriving DecidableEq, Repr

/-- A host of version 6. -/
structure HostV6 where
  groups : Vector UInt16 8
  /-- The zone that the address is meant in; zero if none is given. -/
  scope : Nat
  deriving DecidableEq, Repr

/-- Where datagrams are received. -/
inductive SocketAddress where
  | v4 (host : HostV4) (port : UInt16)
  | v6 (host : HostV6) (port : UInt16)
  deriving DecidableEq, Repr

/-! ## Reading -/

/-- Read a part of an address from the front of a text. -/
abbrev FrontReader (α : Type) := List Char → Option (α × List Char)

/-- The value of a hexadecimal digit. -/
def hexDigit? (c : Char) : Option Nat :=
  if 'a' ≤ c ∧ c ≤ 'f' then some (c.toNat - 87)
  else if 'A' ≤ c ∧ c ≤ 'F' then some (c.toNat - 55)
  else Decimal.digitValue? c

/-- How the numbers of an address are written. -/
structure NumberStyle where
  radix : Nat
  digit? : Char → Option Nat
  /-- At most this many digits, if there is a limit. -/
  maxDigits : Option Nat
  leadingZeros : Bool
  /-- Numbers are below this. -/
  bound : Nat

namespace NumberStyle

def octet : NumberStyle := ⟨10, Decimal.digitValue?, some 3, false, pow2 8⟩
def group : NumberStyle := ⟨16, hexDigit?, some 4, true, pow2 16⟩
def port : NumberStyle := ⟨10, Decimal.digitValue?, none, true, pow2 16⟩
def scope : NumberStyle := ⟨10, Decimal.digitValue?, none, true, pow2 32⟩

/-- Read a number in a style, with all its digits. -/
def read (style : NumberStyle) : FrontReader Nat := fun text =>
  let isDigit (c : Char) : Bool := (style.digit? c).isSome
  let digits := text.takeWhile isDigit
  let value := digits.foldl (fun acc c => style.radix * acc + (style.digit? c).getD 0) 0
  let tooLong := (style.maxDigits.map fun limit => decide (limit < digits.length)).getD false
  let badZero := !style.leadingZeros && digits.head? == some '0' && 1 < digits.length
  if digits.isEmpty || tooLong || badZero || style.bound ≤ value then none
  else some (value, text.dropWhile isDigit)

end NumberStyle

/-- Read one character. -/
def mark (c : Char) : FrontReader Unit
  | [] => none
  | first :: rest => if first = c then some ((), rest) else none

/-- Read a part behind a mark. -/
def behind {α : Type} (c : Char) (part : FrontReader α) : FrontReader α := fun text =>
  (mark c text).bind fun (_, rest) => part rest

/-- Read parts with marks between them. -/
def separated {α : Type} (c : Char) (part : FrontReader α) : Nat → FrontReader (List α)
  | 0 => fun text => some ([], text)
  | count + 1 => fun text => do
    let (first, rest) ← part text
    let (others, rest) ← loop count rest
    return (first :: others, rest)
where
  loop : Nat → FrontReader (List α)
    | 0 => fun text => some ([], text)
    | count + 1 => fun text => do
      let (next, rest) ← behind c part text
      let (others, rest) ← loop count rest
      return (next :: others, rest)

/-- A list of the right length. -/
def exactly? {α : Type} (count : Nat) (items : List α) : Option (Vector α count) :=
  if h : items.length = count then some ⟨items.toArray, by simp [h]⟩ else none

/-- Read a host of version 4. -/
def hostV4 : FrontReader HostV4 := fun text => do
  let (octets, rest) ← separated '.' NumberStyle.octet.read 4 text
  return (⟨← exactly? 4 (octets.map UInt8.ofNat)⟩, rest)

/-- Two octets as a group. -/
def groupOf (high low : UInt8) : UInt16 := UInt16.ofNat (256 * high.toNat + low.toNat)

/-- A host of version 4 as two groups. -/
def HostV4.groups (host : HostV4) : List UInt16 :=
  [groupOf host.octets[0] host.octets[1], groupOf host.octets[2] host.octets[3]]

/-- Read at most that many groups, and say whether a host of version 4 ends them. -/
def groupsFrom : Nat → Bool → List Char → List UInt16 × Bool × List Char
  | 0, _, text => ([], false, text)
  | left + 1, isFirst, text =>
    let placed {α : Type} (part : FrontReader α) : FrontReader α := if isFirst then part else behind ':' part
    match (if left = 0 then none else placed hostV4 text) with
    | some (host, rest) => (host.groups, true, rest)
    | none =>
      match placed NumberStyle.group.read text with
      | some (group, rest) =>
        let (others, embedded, rest) := groupsFrom left false rest
        (UInt16.ofNat group :: others, embedded, rest)
      | none => ([], false, text)

/-- Read the groups of a host of version 6. -/
def allGroups : FrontReader (Vector UInt16 8) := fun text => do
  let (front, embedded, rest) := groupsFrom 8 true text
  if front.length = 8 then return (← exactly? 8 front, rest)
  else if embedded then none
  else
    let (_, rest) ← behind ':' (mark ':') rest
    let (back, _, rest) := groupsFrom (8 - (front.length + 1)) true rest
    let zeros := List.replicate (8 - front.length - back.length) 0
    return (← exactly? 8 (front ++ zeros ++ back), rest)

/-- Read the port of an address. -/
def portPart : FrontReader UInt16 := fun text => do
  let (port, rest) ← behind ':' NumberStyle.port.read text
  return (UInt16.ofNat port, rest)

/-- Read a host of version 6 in its brackets. -/
def hostV6 : FrontReader HostV6 := fun text => do
  let (groups, rest) ← behind '[' allGroups text
  let (scope, rest) := (behind '%' NumberStyle.scope.read rest).getD (0, rest)
  let (_, rest) ← mark ']' rest
  return (⟨groups, scope⟩, rest)

/-- Read an address and its port. -/
def addressPart : FrontReader SocketAddress := fun text =>
  match hostV4 text with
  | some (host, rest) => do
    let (port, rest) ← portPart rest
    return (.v4 host port, rest)
  | none => do
    let (host, rest) ← hostV6 text
    let (port, rest) ← portPart rest
    return (.v6 host port, rest)

/-- The address that a text spells. -/
def SocketAddress.ofText? (text : String) : Option SocketAddress :=
  match addressPart text.toList with
  | some (address, []) => some address
  | _ => none

/-! ## Writing -/

def HostV4.text (host : HostV4) : String :=
  ".".intercalate (host.octets.toList.map fun octet => Decimal.ofNat octet.toNat)

namespace HostV6

/-- Groups between colons. -/
def groupsText (groups : List UInt16) : String :=
  ":".intercalate (groups.map fun group => String.ofList (Nat.toDigits 16 group.toNat))

/-- The run of zeros at a position. -/
def zerosAt (groups : List UInt16) (start : Nat) : Nat := ((groups.drop start).takeWhile (· == 0)).length

/-- The start and the length of the first longest run of zeros. -/
def longestZeros (groups : List UInt16) : Nat × Nat :=
  (List.range groups.length).foldl
    (fun best start => if best.2 < zerosAt groups start then (start, zerosAt groups start) else best) (0, 0)

/-- The host of version 4 that a host of version 6 stands for. -/
def mapped? (host : HostV6) : Option HostV4 :=
  match host.groups.toList with
  | [0, 0, 0, 0, 0, 0xFFFF, high, low] =>
    some ⟨#v[(high / 256).toUInt8, high.toUInt8, (low / 256).toUInt8, low.toUInt8]⟩
  | _ => none

/-- A host without brackets and scope. -/
def addressText (host : HostV6) : String :=
  match host.mapped? with
  | some inner => "::ffff:" ++ inner.text
  | none =>
    let groups := host.groups.toList
    let (start, length) := longestZeros groups
    if 1 < length then
      groupsText (groups.take start) ++ "::" ++ groupsText (groups.drop (start + length))
    else groupsText groups

def text (host : HostV6) : String :=
  let scope := if host.scope = 0 then "" else "%" ++ Decimal.ofNat host.scope
  "[" ++ host.addressText ++ scope ++ "]"

end HostV6

/-- The text of an address. -/
def SocketAddress.text : SocketAddress → String
  | .v4 host port => host.text ++ ":" ++ Decimal.ofNat port.toNat
  | .v6 host port => host.text ++ ":" ++ Decimal.ofNat port.toNat

/-- Any host of this machine. -/
def SocketAddress.anywhere (port : UInt16) : SocketAddress := .v4 ⟨#v[0, 0, 0, 0]⟩ port

end LapTelemetry.Config
