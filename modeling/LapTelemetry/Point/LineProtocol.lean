import LapTelemetry.Fault
import LapTelemetry.Number.Shortest
import LapTelemetry.Point.Basic
import LapTelemetry.Point.Delivery

/-! # Line protocol

A point is one line: the measurement, the tags, a space, the fields, a space and
the time. Commas, spaces and, outside the measurement, equals signs are escaped
by a backslash; a text stands in double quotes, in which quotes and backslashes
are escaped. A newline is written as a backslash and an `n`, so that a line is
never broken.

Integers end in `i`, natural numbers in `u`, and real numbers are written in
positional notation. A real number that is not finite has no text in line
protocol, so its field is left out; a point of which no field is left cannot be
written. -/

namespace LapTelemetry.Point.LineProtocol

open LapTelemetry.Number LapTelemetry.Text

set_option autoImplicit false

/-- Escape the given characters, and newlines. -/
def escape (special : List Char) : List Char → List Char
  | [] => []
  | c :: rest =>
    if c = '\n' then '\\' :: 'n' :: escape special rest
    else if c ∈ special then '\\' :: c :: escape special rest
    else c :: escape special rest

/-- What is escaped in a measurement. -/
def measurementSpecial : List Char := [',', ' ']

/-- What is escaped in keys and in tags. -/
def tagSpecial : List Char := [',', '=', ' ']

/-- What is escaped in a quoted text. -/
def quotedSpecial : List Char := ['"', '\\']

/-- A text in quotes. -/
def quote (text : List Char) : List Char := '"' :: (escape quotedSpecial text ++ ['"'])

/-- The text of a value, if it has one. -/
def valueText? : FieldValue → Option (List Char)
  | .integer i => some ((Decimal.ofInt i).toList ++ ['i'])
  | .natural n => some (Decimal.digits n ++ ['u'])
  | .real pattern =>
    if Binary.double.isFinite pattern.toNat then some (positionalText pattern.toNat).toList else none
  | .text s => some (quote s.toList)

/-- A tag after its comma. -/
def tagText (tag : String × String) : List Char :=
  ',' :: (escape tagSpecial tag.1.toList ++ '=' :: escape tagSpecial tag.2.toList)

/-- A field, if its value can be written. -/
def fieldText? (field : String × FieldValue) : Option (List Char) :=
  (valueText? field.2).map fun text => escape tagSpecial field.1.toList ++ '=' :: text

/-- The line of a point, without the newline after it. -/
def line (tags : Tags) (point : Point) : Except Fault (List Char) :=
  match point.fields.entries.filterMap fieldText? with
  | [] => .error (.sink (.nothingWritable point.measurement))
  | first :: others =>
    .ok (escape measurementSpecial point.measurement.toList ++ tags.entries.flatMap tagText ++
      ' ' :: (first ++ others.flatMap fun field => ',' :: field) ++
      ' ' :: (Decimal.ofInt point.timestamp).toList)

/-- The line of a point under the settings of a destination. -/
def render (delivery : Delivery) (point : Point) : Except Fault String :=
  (line delivery.pointTags point).map String.ofList

end LapTelemetry.Point.LineProtocol
