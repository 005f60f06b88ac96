import ProseCheck.Catalog
import ProseCheck.Program.Run
import ProseCheck.Server.OpenDocuments

/-
  This file is the program: it reads the environment and the
  file beside it, runs with the arguments it is given, and
  reports what there is to report.  It comes without an
  engine, so that a server of it does not check anything
  until it is linked with one.
-/

------------------------------------------------------------
-- Program
------------------------------------------------------------

namespace ProseCheck

/- The engine of a program that is linked with none. -/
def noEngine : Engine Unit :=
  { create := fun _ _ =>
      .error ⟨.system, "no checking engine is linked"⟩
    check := fun s _ => (.ok [], s) }

/- The names of the variables that hold settings. -/
def settingNames : List String :=
  ["PORT", "HOST", "LANGUAGE", "REMOTE_SERVER"].map
    (fun name => Environment.namePrefix ++ name)

/- The settings that the program finds where it is started. -/
def readEnvironment : IO Environment := do
  let mut found : Environment := []
  for name in settingNames do
    match ← IO.getEnv name with
    | some value => found := found ++ [(name, value)]
    | none => pure ()
  return found

/- The text of the file that extends the environment. -/
def readEnvironmentFile : IO (Option Text) := do
  try
    return some (Text.ofString (← IO.FS.readFile ".env"))
  catch _ =>
    return none

/- Write a record to the log. -/
def writeRecord
    (r : LogRecord) : IO Unit :=
  IO.eprintln (r.level.name ++ ": " ++ r.message)

/- Carry out an effect, as far as there is one to see. -/
def carryOut : ProgramEffect → IO Unit
  | .act (.log r) => writeRecord r
  | _ => pure ()

/- Report why the program does not run. -/
def reportStop : OptionsStop → IO UInt32
  | .help => do
      IO.print helpText
      return 0
  | .invalid e => do
      IO.eprint (usageText ++ e.report ++ "\n")
      return 2
  | .invalidPort e => do
      IO.eprintln e.message
      return 1

/- Report how the program ended. -/
def reportExit : Exit → IO UInt32
  | .code n => return n.toUInt32
  | .stopped why => reportStop why
  | .failed e => do
      IO.eprintln (e.kind.name ++ ": " ++ e.message)
      return 1

end ProseCheck

open ProseCheck in
/- Run the program. -/
def main (texts : List String) : IO UInt32 := do
  let setting : Setting Unit :=
    { engine := noEngine
      backoff := .standard (fun _ => Binary64.ofNat 1) }
  let run :
      Recorded ProgramEffect
        (Exit × Server Unit OpenDocuments) :=
    runProgram setting {} (← readEnvironment)
      (← readEnvironmentFile) texts
  for e in run.entries do
    carryOut e
  reportExit run.value.1
