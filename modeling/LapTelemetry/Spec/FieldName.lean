/-! # Names of fields and inline types

A specification writes names in camel case with a leading `m_`; records use snake
case without it. An underscore goes in front of a capital that follows a small
letter or a digit, and in front of the last capital of an acronym when a small
letter follows it (`ERSAssist` becomes `ers_assist`). The type of an inline struct
is named after its member in camel case, where the first letter of a word and a
letter after a digit are capitals.

Only the letters and digits of ASCII are told apart here; every other character
passes unchanged. -/

namespace LapTelemetry.Spec.FieldName

set_option autoImplicit false

/-- Whether an underscore goes in front of a capital between two characters. -/
def startsWord (previous : Char) (next? : Option Char) : Bool :=
  previous.isLower || previous.isDigit || (next?.any Char.isLower && previous != '_')

/-- Snake case of the characters after a previous one. -/
def snakeAfter (previous : Char) : List Char → List Char
  | [] => []
  | c :: rest =>
    if c.isUpper && startsWord previous rest.head? then '_' :: c.toLower :: snakeAfter c rest
    else c.toLower :: snakeAfter c rest

/-- Snake case of a name. -/
def snake : List Char → List Char
  | [] => []
  | c :: rest => c.toLower :: snakeAfter c rest

/-- The name of a field in records: snake case, without a leading `m_` unless
nothing else is left. -/
def normalize (wireName : List Char) : List Char :=
  match snake wireName with
  | 'm' :: '_' :: c :: rest => c :: rest
  | name => name

/-- Camel case of characters, after a letter of the same word or not. -/
def camelFrom (afterLetter : Bool) : List Char → List Char
  | [] => []
  | c :: rest =>
    if c = '_' then camelFrom false rest
    else (if afterLetter then c.toLower else c.toUpper) :: camelFrom c.isAlpha rest

/-- Camel case of a name. -/
def camel (name : List Char) : List Char := camelFrom false name

/-- Apply a conversion of names to a text. -/
def onText (convert : List Char → List Char) (text : String) : String :=
  String.ofList (convert text.toList)

example : onText normalize "m_sector1TimeInMS" = "sector1_time_in_ms" := by decide
example : onText snake "ERSAssist" = "ers_assist" := by decide
example : onText camel "car_motion_2nd" = "CarMotion2Nd" := by decide

end LapTelemetry.Spec.FieldName
