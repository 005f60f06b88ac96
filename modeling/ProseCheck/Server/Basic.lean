import ProseCheck.Check.Report
import ProseCheck.Engine.Manager
import ProseCheck.Server.Workspace
import ProseCheck.Settings

/-
  This file defines the state of a server, and how it gets
  its tool, gives it up, and publishes what the tool finds.

  A document that is looked up and not open is read from a
  file.  There may be no such file, and this is an error.

  Key definitions include:
    * `Server`
    * `Server.configure`
    * `Server.closeTool`
    * `Server.snapshot`
    * `Server.publishAll`
-/

------------------------------------------------------------
-- Servers
------------------------------------------------------------

namespace ProseCheck

/- What comes of reading a file where there is none. -/
def noFile
    (_address : String) : Except Failure Text :=
  .error
    ⟨.ofName "FileNotFoundError",
      "[Errno 2] No such file or directory"⟩

/-
  What a server works with: an engine, pauses, and the files
  that are read where documents are not open.
-/
structure Setting
    (τ : Type) where
  engine : Engine τ
  backoff : Backoff Binary64
  readFile : String → Except Failure Text := noFile

/-
  The state of a server.  It counts the tools that it asked
  the engine for, and has at most one of them in use.
-/
structure Server
    (τ ω : Type)
    [Workspace ω] where
  settings : Settings := {}
  remoteServer : Option String := none
  tool : Option (Tool τ) := none
  requests : Nat := 0
  workspace : ω := Workspace.empty
  encodingName : Option String := none

/- Why a server cannot answer. -/
inductive SessionError where
  | check (e : CheckError)
  | tool (e : Failure)
  | file (e : Failure)
  | malformedEdit
deriving DecidableEq, Repr

namespace Server

variable {τ ω : Type} [Workspace ω]

/- The name of the encoding in which columns are counted. -/
def encodingText
    (s : Server τ ω) : String :=
  let named := s.encodingName.getD ""
  if named.isEmpty then "utf-16" else named

/- The encoding in which columns are counted. -/
def encoding
    (s : Server τ ω) : Encoding :=
  Encoding.ofName s.encodingText

end Server

end ProseCheck

------------------------------------------------------------
-- Tools
------------------------------------------------------------

namespace ProseCheck

/- The manager for settings, and for a server elsewhere. -/
def managerFor
    (settings : Settings)
    (remoteServer : Option String) : Manager :=
  Manager.make (settings.ignoredWords.map some)
    (Manager.defaultDisabledRules ++ settings.disabledRules)
    remoteServer

namespace Server

variable {τ ω : Type} [Workspace ω]

/- Give up the tool.  It is closed, if tools can be. -/
def closeTool
    (engine : Engine τ)
    (s : Server τ ω) : Recorded Effect (Server τ ω) :=
  match s.tool with
  | none => pure s
  | some t =>
      ⟨{ s with tool := none },
        if engine.closable then [.close t.serial] else []⟩

/- The manager for the settings of a server. -/
def manager
    (s : Server τ ω) : Manager :=
  managerFor s.settings s.remoteServer

/-
  What becomes of the failure to create a tool.  Checking is
  disabled, and a failure that has nothing to do with the
  language or the engine is passed on.
-/
def withoutTool
    (language : String)
    (e : Failure) : Recorded Effect (Except Failure Unit) :=
  if e.kind.isA .value then
    ⟨.ok (),
      [.message .error
        (language ++ " is not a recognized language. " ++
          "Checking disabled.")]⟩
  else if e.isTransient then
    ⟨.ok (),
      [.message .error
        ("Could not start LanguageTool for " ++ language ++
          ". Checking disabled.")]⟩
  else
    pure (.error e)

/- Create the tool for a language. -/
def openTool
    (engine : Engine τ)
    (language : String)
    (s : Server τ ω) :
    Recorded Effect (Except Failure Unit × Server τ ω) := do
  let (built, _) ←
    s.manager.buildTool engine s.requests language
  let s := { s with requests := s.requests + 1 }
  match built with
  | .ok tool => return (.ok (), { s with tool := some tool })
  | .error e => return (← withoutTool language e, s)

/-
  Take over new settings.  The tool of the old ones is given
  up before another is created.
-/
def configure
    (engine : Engine τ)
    (settings : Settings)
    (s : Server τ ω) :
    Recorded Effect (Except Failure Unit × Server τ ω) := do
  let s ← s.closeTool engine
  let s := { s with settings }
  match settings.language with
  | none =>
      Recorded.add
        (.message .info
          "No language configured; checking disabled")
      return (.ok (), s)
  | some language => s.openTool engine language

end Server

end ProseCheck

------------------------------------------------------------
-- Publishing
------------------------------------------------------------

namespace ProseCheck

namespace Server

variable {τ ω : Type} [Workspace ω]

/- The state of the tool after a check. -/
def withState
    (s : Server τ ω)
    (state : Option τ) : Server τ ω :=
  match s.tool, state with
  | some t, some state =>
      { s with tool := some { t with state } }
  | _, _ => s

/-
  The snapshot of the document with an address.  If it is not
  open, it is read from a file, and has no version.
-/
def snapshot
    (setting : Setting τ)
    (s : Server τ ω)
    (uri : String) : Except Failure Document :=
  match Workspace.get? s.workspace uri with
  | some d => .ok d
  | none =>
      let address := Workspace.key uri
      (setting.readFile address).map
        (fun text => .ofEditor address none text none)

/- Check a document and publish its diagnostics. -/
def publishDocument
    (setting : Setting τ)
    (uri : String)
    (document : Document)
    (s : Server τ ω) :
    Recorded Effect
      (Except SessionError Unit × Server τ ω) := do
  let (found, state) ←
    diagnose setting.engine setting.backoff
      (s.tool.map (·.state)) document
      s.settings.ignoredWords s.encoding
  let s := s.withState state
  match found with
  | .ok ds =>
      Recorded.add (.publish uri ds)
      return (.ok (), s)
  | .error e => return (.error (.check e), s)

/- Check and publish the document with an address. -/
def publishIssues
    (setting : Setting τ)
    (uri : String)
    (s : Server τ ω) :
    Recorded Effect
      (Except SessionError Unit × Server τ ω) :=
  match s.snapshot setting uri with
  | .ok d => s.publishDocument setting uri d
  | .error e => pure (.error (.file e), s)

/-
  Check and publish the documents with several addresses.  An
  error ends this, and the documents after it are left as they
  were.
-/
def publishEach
    (setting : Setting τ) : List String → Server τ ω →
    Recorded Effect (Except SessionError Unit × Server τ ω)
  | [], s => pure (.ok (), s)
  | uri :: uris, s => do
      let (done, s) ← s.publishIssues setting uri
      match done with
      | .ok () => publishEach setting uris s
      | .error e => return (.error e, s)

/-
  Check and publish every open document.  Each one is looked
  up again, under the address that it is kept under.
-/
def publishAll
    (setting : Setting τ)
    (s : Server τ ω) :
    Recorded Effect
      (Except SessionError Unit × Server τ ω) :=
  publishEach setting (Workspace.uris s.workspace) s

end Server

end ProseCheck
