import LapTelemetry.Spec.Token
import LapTelemetry.Text.Decimal

/-! # What can be wrong with a specification

A fault of specification text names what was expected and what was found, or the
declaration that breaks a rule. The line it is reported on is kept beside it. -/

namespace LapTelemetry.Spec

set_option autoImplicit false

/-- What a specification may go on with. -/
inductive Expected where
  | structName
  | unionName
  | declaration
  | structMember
  | unionMember
  | fieldName
  | fieldEnd
  | arrayLength
  | memberName
  | token (kind : TokenKind)
  deriving DecidableEq, Repr

/-- The expectation as it appears in messages. -/
def Expected.text : Expected → String
  | .structName => "structure name or '\x7b'"
  | .unionName => "union name"
  | .declaration => "'struct' or 'union'"
  | .structMember => "field type or '\x7d'"
  | .unionMember => "member type, 'struct' or '\x7d'"
  | .fieldName => "field name"
  | .fieldEnd => "';' or '['"
  | .arrayLength => "array size"
  | .memberName => "union member name"
  | .token kind => kind.quoted

/-- A fault of specification text. -/
inductive SyntaxFault where
  /-- The text ends where something is expected. -/
  | endOfInput (expected : Expected)
  /-- The text ends inside a body; an inline or anonymous struct has no name. -/
  | unclosed (name : Option String)
  | unexpected (expected : Expected) (found : TokenKind)
  /-- A brace closes, and nothing is open. -/
  | unbalancedBrace
  /-- A struct ends in a scope that cannot hold it. -/
  | nestedStruct
  | arrayLength (field found : String)
  | duplicateType (name : String)
  | duplicateField (type field : String)
  | emptyArray (field : String)
  | oversizedArray (field : String)
  | oversizedType (name : String)
  /-- A fault told in words by whoever reports it. -/
  | described (details : String)
  deriving DecidableEq, Repr

/-- The fault in words. -/
def SyntaxFault.message : SyntaxFault → String
  | .endOfInput expected => "unexpected end of input, expected " ++ expected.text
  | .unclosed name =>
    "unexpected end of input: '" ++ name.getD "<anonymous>" ++ "' is missing its closing '\x7d'"
  | .unexpected expected found => "expected " ++ expected.text ++ ", found " ++ found.quoted
  | .unbalancedBrace => "unbalanced '\x7d'"
  | .nestedStruct => "structures cannot be declared inside structures"
  | .arrayLength field found =>
    "array size of '" ++ field ++ "' must be an integer, found '" ++ found ++ "'"
  | .duplicateType name => "type '" ++ name ++ "' is declared more than once"
  | .duplicateField type field => "'" ++ type ++ "' declares field '" ++ field ++ "' more than once"
  | .emptyArray field => "array '" ++ field ++ "' must have at least one element"
  | .oversizedArray field => "array '" ++ field ++ "' is too large"
  | .oversizedType name => "'" ++ name ++ "' is too large"
  | .described details => details

end LapTelemetry.Spec
