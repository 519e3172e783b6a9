/-! # Primitive wire types

The ten number types a specification may name. Each has a spelling in
specification text, a width in bytes and a numeric reading; all are
little-endian on the wire. `named?_spelling` says that the spellings are the
table `named?` reads, so a name never stands for two types. -/

namespace LapTelemetry.Wire

set_option autoImplicit false

/-- How the bytes of a primitive are read as a number. -/
inductive Reading where
  | unsigned
  | signed
  | floating
  deriving DecidableEq, Repr

/-- A number type of the wire. -/
inductive Primitive where
  | uint8
  | int8
  | uint16
  | int16
  | uint32
  | int32
  | uint64
  | int64
  | float32
  | float64
  deriving DecidableEq, Repr

namespace Primitive

/-- Every primitive, in table order. -/
def all : List Primitive :=
  [.uint8, .int8, .uint16, .int16, .uint32, .int32, .uint64, .int64, .float32, .float64]

/-- The name of a primitive in specification text. -/
def spelling : Primitive → String
  | .uint8 => "uint8"
  | .int8 => "int8"
  | .uint16 => "uint16"
  | .int16 => "int16"
  | .uint32 => "uint32"
  | .int32 => "int32"
  | .uint64 => "uint64"
  | .int64 => "int64"
  | .float32 => "float"
  | .float64 => "double"

/-- The primitive a name stands for. -/
def named? (name : String) : Option Primitive := all.find? fun type => type.spelling == name

/-- The width of a primitive in bytes. -/
def size : Primitive → Nat
  | .uint8 | .int8 => 1
  | .uint16 | .int16 => 2
  | .uint32 | .int32 | .float32 => 4
  | .uint64 | .int64 | .float64 => 8

/-- The width of a primitive in bits. -/
abbrev bitWidth (type : Primitive) : Nat := 8 * type.size

/-- The numeric reading of a primitive. -/
def reading : Primitive → Reading
  | .uint8 | .uint16 | .uint32 | .uint64 => .unsigned
  | .int8 | .int16 | .int32 | .int64 => .signed
  | .float32 | .float64 => .floating

theorem named?_spelling (type : Primitive) : named? type.spelling = some type := by
  cases type <;> decide

theorem spelling_of_named? {name : String} {type : Primitive} (found : named? name = some type) :
    type.spelling = name := by
  have hit := List.find?_some found
  exact beq_iff_eq.mp hit

theorem size_pos (type : Primitive) : 0 < type.size := by
  cases type <;> decide

end Primitive

end LapTelemetry.Wire
