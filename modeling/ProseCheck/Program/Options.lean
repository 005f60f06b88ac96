import ProseCheck.Json.Convert
import ProseCheck.Program.Arguments
import ProseCheck.Program.Environment
import ProseCheck.Program.Help

/-
  This file completes the options of the program: what the
  arguments do not give is taken from the environment, and
  else from the defaults.

  Key definitions include:
    * `Options`
    * `OptionsStop`
    * `Options.read`
-/

------------------------------------------------------------
-- Options
------------------------------------------------------------

namespace ProseCheck

/- The options with which the program runs. -/
structure Options where
  port : Int
  host : String
  stdio : Bool
  language : Option String
  remoteServer : Option String
  verbose : Bool
  logFile : Option String
deriving DecidableEq, Repr

/- Why the program does not run. -/
inductive OptionsStop where
  | help
  | invalid (e : ArgumentError)
  | invalidPort (e : ConversionError)
deriving DecidableEq, Repr

namespace OptionsStop

/- The stop to which the arguments lead. -/
def ofArguments : ArgumentStop → OptionsStop
  | .help => .help
  | .invalid e => .invalid e

end OptionsStop

/- What is reported of invalid arguments. -/
def ArgumentError.report
    (e : ArgumentError) : String :=
  programName ++ ": error: " ++ e.message

namespace Options

/- The port where none is given. -/
def defaultPort : Int :=
  8081

/- The host where none is given. -/
def defaultHost : String :=
  "localhost"

/- The port that the environment gives, or the default. -/
def environmentPort
    (e : Environment) : Except ConversionError Int :=
  match e.setting? "PORT" with
  | some text => (Json.str text).toInteger
  | none => .ok defaultPort

/- The options that arguments and an environment give. -/
def read
    (e : Environment)
    (texts : List String) : Except OptionsStop Options := do
  let raw ←
    (RawOptions.ofArguments texts).mapError .ofArguments
  let port ←
    match raw.port with
    | some n => pure n
    | none => (environmentPort e).mapError .invalidPort
  return {
    port
    host :=
      match raw.host with
      | some host => host
      | none => (e.setting? "HOST").getD defaultHost
    stdio := raw.stdio
    language := raw.language <|> e.setting? "LANGUAGE"
    remoteServer :=
      raw.remoteServer <|> e.setting? "REMOTE_SERVER"
    verbose := raw.verbose
    logFile := raw.logFile }

end Options

end ProseCheck
