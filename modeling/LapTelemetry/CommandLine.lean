import LapTelemetry.Config.Reader

/-! # The command line

Four options, each followed by a value: a configuration to load, an address and a
specification that go before those of the configuration, and a capture to replay
instead of listening. An option may be given once. -/

namespace LapTelemetry

open LapTelemetry.Config

set_option autoImplicit false

/-- What the command line asks for. -/
structure CommandLine where
  config : Option String
  listen : Option SocketAddress
  spec : Option String
  replay : Option String
  deriving DecidableEq, Repr

/-- Why a command line is refused. -/
inductive UsageFault where
  | unknownOption (option : String)
  | missingValue (option : String)
  | repeatedOption (option : String)
  | notAnAddress (value : String)
  deriving DecidableEq, Repr

def UsageFault.message : UsageFault → String
  | .unknownOption option => "unexpected argument '" ++ option ++ "'"
  | .missingValue option => "'" ++ option ++ "' needs a value"
  | .repeatedOption option => "'" ++ option ++ "' is given more than once"
  | .notAnAddress value => "'" ++ value ++ "' is no socket address"

namespace CommandLine

/-- A command line without options. -/
def empty : CommandLine := ⟨none, none, none, none⟩

/-- Set an option that is not set yet. -/
def once {α : Type} (option : String) (held : Option α) (value : α) : Except UsageFault (Option α) :=
  if held.isSome then .error (.repeatedOption option) else .ok (some value)

/-- The command line with one more option. -/
def set (line : CommandLine) (option value : String) : Except UsageFault CommandLine := do
  match option with
  | "-c" | "--config" => return { line with config := ← once option line.config value }
  | "-l" | "--listen" =>
    match SocketAddress.ofText? value with
    | some address => return { line with listen := ← once option line.listen address }
    | none => throw (.notAnAddress value)
  | "--spec" => return { line with spec := ← once option line.spec value }
  | "--replay" => return { line with replay := ← once option line.replay value }
  | _ => throw (.unknownOption option)

/-- The options in order. -/
def addAll (line : CommandLine) : List String → Except UsageFault CommandLine
  | [] => .ok line
  | [option] => do
    let _ ← line.set option ""
    throw (.missingValue option)
  | option :: value :: others => do addAll (← line.set option value) others

/-- The command line of some arguments. -/
def ofArguments (arguments : List String) : Except UsageFault CommandLine := empty.addAll arguments

/-- Settings with the options that go before them. -/
def override (line : CommandLine) (settings : Settings) : Settings :=
  { settings with
    listen := line.listen.getD settings.listen
    spec := line.spec.or settings.spec }

/-- The settings of a run: those of the configuration, or the standard ones. -/
def settings {m : Type → Type} [Monad m] (line : CommandLine) (content : Content m) :
    m (Except Fault Settings) := do
  let loaded ← match line.config with
    | some path => Settings.load content path
    | none => pure (.ok .standard)
  return loaded.bind fun settings =>
    let settings := line.override settings
    settings.validate.map fun _ => settings

/-- How to call the program. -/
def usage : String :=
  "usage: [-c | --config FILE] [-l | --listen ADDRESS] [--spec FILE] [--replay CAPTURE]"

end CommandLine

end LapTelemetry
