import ProseCheck.Program.Options
import ProseCheck.Server.Session

/-
  This file runs the program: it reads its options, sets up
  the log and a server, lets the server serve an editor, and
  in the end gives up the tool of the server.

  Key definitions include:
    * `ProgramEffect`
    * `Serving`
    * `Exit`
    * `runProgram`
-/

------------------------------------------------------------
-- Effects
------------------------------------------------------------

namespace ProseCheck

/- Where a server waits for an editor. -/
inductive Endpoint where
  | stdio
  | tcp
      (host : String)
      (port : Int)
deriving DecidableEq, Repr

/-
  One thing that the program does to the world: it sets up
  its log, starts to serve, or lets its server act.
-/
inductive ProgramEffect where
  | openLog
      (level : LogLevel)
      (file : Option String)
  | serve
      (endpoint : Endpoint)
      (language : Option String)
      (remoteServer : Option String)
      (hasTool : Bool)
  | act (e : Effect)
deriving Repr

/- How the lines of a log are laid out. -/
def logFormat : String :=
  "%(asctime)s %(levelname)s %(name)s: %(message)s"

namespace ProgramEffect

/- The writing of a message to the log. -/
def message
    (level : LogLevel)
    (text : String) : ProgramEffect :=
  .act (.message level text)

end ProgramEffect

namespace Recorded

/- A value whose effects are those of a program. -/
def acted
    {α : Type}
    (x : Recorded Effect α) : Recorded ProgramEffect α :=
  x.mapEntries ProgramEffect.act

end Recorded

end ProseCheck

------------------------------------------------------------
-- Serving
------------------------------------------------------------

namespace ProseCheck

/-
  What happens while a server serves: the steps that it takes,
  and how it ends.
-/
structure Serving where
  steps : List Step := []
  outcome : Except Failure Unit := .ok ()

/- How the program ends. -/
inductive Exit where
  | code (n : Nat)
  | stopped (why : OptionsStop)
  | failed (e : Failure)
deriving DecidableEq, Repr

/- Where the options let a server wait. -/
def Options.endpoint
    (o : Options) : Endpoint :=
  if o.stdio then .stdio else .tcp o.host o.port

/- What is reported before a server starts to serve. -/
def Endpoint.description : Endpoint → String
  | .stdio => "Serving LanguageTool over stdio"
  | .tcp host port =>
      "Serving LanguageTool on " ++ host ++ ":" ++
        toString port

/- How the program ends when its server does. -/
def exitAfter : Except Failure Unit →
    Recorded ProgramEffect Exit
  | .ok () => pure (.code 0)
  | .error e =>
      if e.kind = .interrupt then
        ⟨.code 0,
          [.message .info "Interrupted; shutting down"]⟩
      else if e.kind.isSystem then
        ⟨.code 1,
          [.message .error
            ("Could not start server: " ++ e.message)]⟩
      else
        pure (.failed e)

end ProseCheck

------------------------------------------------------------
-- Runs
------------------------------------------------------------

namespace ProseCheck

variable {τ ω : Type} [Workspace ω]

/- Let a server serve, and give up its tool in the end. -/
def serveWith
    (setting : Setting τ)
    (serving : Serving)
    (endpoint : Endpoint)
    (s : Server τ ω) :
    Recorded ProgramEffect (Exit × Server τ ω) := do
  Recorded.add (.message .info endpoint.description)
  Recorded.add
    (.serve endpoint s.settings.language s.remoteServer
      s.tool.isSome)
  let s ← (s.performAll setting serving.steps).acted
  let exit ← exitAfter serving.outcome
  let s ← (s.closeTool setting.engine).acted
  return (exit, s)

/-
  Take over the language of the options.  An empty one counts
  as none.
-/
def startWith
    (setting : Setting τ)
    (language : Option String)
    (s : Server τ ω) :
    Recorded Effect (Except Failure Unit × Server τ ω) :=
  match language with
  | none => pure (.ok (), s)
  | some language =>
      if language.isEmpty then
        pure (.ok (), s)
      else
        s.configure setting.engine
          { language := Settings.languageOf (.str language) }

/- Run the program with options. -/
def runWith
    (setting : Setting τ)
    (serving : Serving)
    (o : Options) :
    Recorded ProgramEffect (Exit × Server τ ω) := do
  let level : LogLevel := if o.verbose then .debug else .info
  Recorded.add (.openLog level o.logFile)
  let s : Server τ ω := { remoteServer := o.remoteServer }
  let (started, s) ←
    (startWith setting o.language s).acted
  match started with
  | .ok () => serveWith setting serving o.endpoint s
  | .error e => return (.failed e, s)

/-
  Run the program in an environment, which a file may extend,
  and with arguments.
-/
def runProgram
    (setting : Setting τ)
    (serving : Serving)
    (environment : Environment)
    (file : Option Text)
    (texts : List String) :
    Recorded ProgramEffect (Exit × Server τ ω) :=
  match Options.read (environment.extend file) texts with
  | .ok o => runWith setting serving o
  | .error why => pure (.stopped why, {})

end ProseCheck
