import LapTelemetry.Spec.SyntaxFault

/-! # Faults of telemetry ingestion

Every failure the library can report is a `Fault`, and every fault carries its
cause as data; `message` is the only place that words it. Faults fall into two
groups. Those of the specification and the configuration are fatal: nothing can
be collected. The others concern one datagram, one write or one file, and the
collection goes on. Only a fault of input or output may go away when the
operation is repeated. A lack of memory is reported by nobody: the process ends
where it is met. -/

namespace LapTelemetry

open LapTelemetry.Text

set_option autoImplicit false

/-- What makes a layout unusable although its fields are known. -/
inductive LayoutFault where
  | emptyArray (field : String)
  | duplicateField (field : String)
  | described (details : String)
  deriving DecidableEq, Repr

def LayoutFault.message : LayoutFault → String
  | .emptyArray field => field ++ " is an empty array"
  | .duplicateField field => "'" ++ field ++ "' is declared more than once"
  | .described details => details

/-- Why a destination lost a point. -/
inductive SinkFault where
  | nothingWritable (measurement : String)
  | writeFailed (cause : String)
  | described (reason : String) (cause : Option String)
  deriving DecidableEq, Repr

def SinkFault.reason : SinkFault → String
  | .nothingWritable measurement => "point '" ++ measurement ++ "' has no writable fields"
  | .writeFailed _ => "line protocol write failed"
  | .described reason _ => reason

def SinkFault.cause : SinkFault → Option String
  | .nothingWritable _ => none
  | .writeFailed cause => some cause
  | .described _ cause => cause

/-- What was being done when input or output failed. -/
inductive Activity where
  | openingCapture (path : String)
  | readingCapture
  | writingCapture
  | readingConfig (path : String)
  | readingSpec (path : String)
  | unknown
  | described (activity : String)
  deriving DecidableEq, Repr

def Activity.text : Activity → String
  | .openingCapture path => "opening capture " ++ path
  | .readingCapture => "reading capture"
  | .writingCapture => "writing capture"
  | .readingConfig path => "reading config " ++ path
  | .readingSpec path => "reading spec " ++ path
  | .unknown => "<unknown>"
  | .described activity => activity

/-- What makes a configuration unusable. -/
inductive ConfigFault where
  | emptyBucket
  | zeroDatagramSize
  | emptyTagKey
  | noPerCarArray (layout field : String)
  | unknownFormat (format : Nat)
  | noPacketId (kind : String)
  | oversizedDatagram (size : Nat)
  /-- The document cannot be read as a configuration. -/
  | unreadable (details : String)
  | described (details : String)
  deriving DecidableEq, Repr

def ConfigFault.message : ConfigFault → String
  | .emptyBucket => "sink.bucket must not be empty"
  | .zeroDatagramSize => "max_datagram_size must be greater than zero"
  | .emptyTagKey => "sink.tags keys must not be empty"
  | .noPerCarArray layout field => layout ++ " has no per-car array '" ++ field ++ "'"
  | .unknownFormat format => "no packet kinds are known for packet format " ++ Decimal.ofNat format
  | .noPacketId kind => kind ++ " has no F1 2021 packet id"
  | .oversizedDatagram size => "datagram of " ++ Decimal.ofNat size ++ " bytes is too large"
  | .unreadable details => "YAML parsing failed: " ++ details
  | .described details => details

/-- A failure of telemetry ingestion. -/
inductive Fault where
  | specSyntax (line : Nat) (cause : Spec.SyntaxFault)
  | unresolvedType (name referencedBy : String)
  | invalidLayout (layout : String) (cause : LayoutFault)
  | unknownPacket (format version id : Nat)
  | sizeMismatch (layout : String) (expected actual : Nat)
  | truncated (needed available : Nat)
  | indexOutOfRange (index length : Nat)
  | unpairedTelemetry
  | fieldNotFound (field context : String)
  | sink (cause : SinkFault)
  | io (activity : Activity) (cause : String)
  | config (cause : ConfigFault)
  /-- A field is recorded at an offset where decoding does not arrive at it. -/
  | misplacedField (layout field : String)
  /-- There is no room in memory for so many values. The process ends here. -/
  | outOfRoom (length : Nat)
  deriving DecidableEq, Repr

namespace Fault

/-- The fault in words. -/
def message : Fault → String
  | .specSyntax line cause =>
    "Specification syntax error at line " ++ Decimal.ofNat line ++ ": " ++ cause.message
  | .unresolvedType name referencedBy =>
    "Unresolved type '" ++ name ++ "' referenced by '" ++ referencedBy ++ "'"
  | .invalidLayout layout cause => "Invalid layout '" ++ layout ++ "': " ++ cause.message
  | .unknownPacket format version id =>
    "Unknown packet kind: format=" ++ Decimal.ofNat format ++ ", version=" ++ Decimal.ofNat version ++
      ", id=" ++ Decimal.ofNat id
  | .sizeMismatch layout expected actual =>
    "Structural size mismatch in " ++ layout ++ ": expected " ++ Decimal.ofNat expected ++
      " bytes, got " ++ Decimal.ofNat actual
  | .truncated needed available =>
    "Datagram truncated: needed " ++ Decimal.ofNat needed ++ " bytes, " ++ Decimal.ofNat available ++
      " available"
  | .indexOutOfRange index length =>
    "Car index " ++ Decimal.ofNat index ++ " out of range for " ++ Decimal.ofNat length ++
      " decoded records"
  | .unpairedTelemetry => "Car telemetry received without a paired motion sample"
  | .fieldNotFound field context => "Field '" ++ field ++ "' missing or mistyped in " ++ context
  | .sink cause => "Sink write failed: " ++ cause.reason
  | .io activity _ => "I/O error: " ++ activity.text
  | .config cause => "Invalid configuration: " ++ cause.message
  | .misplacedField layout field => layout ++ "." ++ field ++ " is not at its recorded offset"
  | .outOfRoom length => "No room for " ++ Decimal.ofNat length ++ " values"

/-- Whether nothing can be collected after the fault. -/
def isFatal : Fault → Bool
  | .specSyntax _ _ | .unresolvedType _ _ | .invalidLayout _ _ | .config _ | .outOfRoom _ => true
  | _ => false

/-- Whether the operation may succeed when repeated. -/
def isRetryable : Fault → Bool
  | .io _ _ => true
  | _ => false

/-- The fault beneath, in words. -/
def cause : Fault → Option String
  | .sink cause => cause.cause
  | .io _ cause => some cause
  | _ => none

/-- What the user can do about it. -/
def suggestions : Fault → List String
  | .specSyntax _ _ =>
    ["Check the specification for a missing ';', '\x7b' or '\x7d'",
      "Make sure array sizes are plain integers"]
  | .unresolvedType _ _ =>
    ["Declare structures before the structures that use them",
      "Check the spelling of the type name"]
  | .invalidLayout _ _ =>
    ["Give every array at least one element",
      "Check for fields whose names collide after m_ prefix stripping"]
  | .unknownPacket _ _ _ =>
    ["Set the game's UDP format to match the configured packet format",
      "Ignore if the game sends packet kinds the collector does not track"]
  | .sizeMismatch _ _ _ | .truncated _ _ =>
    ["Verify the specification matches the game's UDP format version",
      "Check for datagrams truncated by a small receive buffer"]
  | .indexOutOfRange _ _ => ["Check the player car index reported in the packet header"]
  | .unpairedTelemetry => ["Enable motion packets in the game's telemetry settings"]
  | .fieldNotFound _ _ =>
    ["Verify the specification declares the fields the tracker reads",
      "Check field names after m_ prefix stripping and snake_case conversion"]
  | .sink _ =>
    ["Check the sink destination is reachable and writable",
      "Points dropped by the sink are not retried"]
  | .io _ _ =>
    ["Check the UDP port is not already in use",
      "Check file paths and permissions"]
  | .config _ =>
    ["Check the configuration file against the documented fields",
      "Remove the file to fall back to defaults"]
  | .misplacedField _ _ => ["Build the layout by the layout rules"]
  | .outOfRoom _ => ["Check the lengths of the arrays in the specification"]

end Fault

end LapTelemetry
