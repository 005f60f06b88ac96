import ProseCheck.Edit.Command
import ProseCheck.Edit.Request
import ProseCheck.Server.Basic

/-
  This file defines what an editor tells a server or asks of
  it in a session, and how the server answers.

  Key definitions include:
    * `Message`
    * `Answer`
    * `Server.handle`
    * `Server.performAll`
-/

------------------------------------------------------------
-- Messages
------------------------------------------------------------

namespace ProseCheck

/- What the editor replied to a request to apply edits. -/
structure ApplyReply where
  applied : Bool := true
  reason : Option String := none
deriving DecidableEq, Repr

/- What an editor may tell a server or ask of it. -/
inductive Message where
  | opened (document : Document)
  | changed
      (uri : String)
      (version : Option Int)
      (changes : List TextChange)
  | closed (uri : String)
  | configured (payload : Json)
  | commands (request : CommandRequest)
  | accepted
      (arguments : List Json)
      (reply : ApplyReply)
  | shutdown
deriving Repr

/- What a server answers. -/
inductive Answer where
  | nothing
  | commands (commands : List Command)
  | applied (applied : Bool)
deriving DecidableEq, Repr

end ProseCheck

------------------------------------------------------------
-- Handlers
------------------------------------------------------------

namespace ProseCheck

namespace Server

variable {τ ω : Type} [Workspace ω]

/- The answer of a step that has no other answer. -/
def plainAnswer
    {ε : Type}
    (wrap : ε → SessionError)
    (r : Except ε Unit × Server τ ω) :
    Except SessionError Answer × Server τ ω :=
  match r.1 with
  | .ok () => (.ok .nothing, r.2)
  | .error e => (.error (wrap e), r.2)

/- An answer keeps the state of the server. -/
@[simp]
theorem plainAnswer_snd
    {ε : Type}
    (wrap : ε → SessionError)
    (r : Except ε Unit × Server τ ω) :
    (plainAnswer wrap r).2 = r.2 := by
  unfold plainAnswer
  split <;> rfl

/- Take over the settings of a payload and publish anew. -/
def reconfigure
    (setting : Setting τ)
    (payload : Json)
    (s : Server τ ω) :
    Recorded Effect
      (Except SessionError Answer × Server τ ω) := do
  match ← (Settings.parse payload).logged with
  | none => return (.ok .nothing, s)
  | some settings =>
      let (done, s) ← s.configure setting.engine settings
      match done with
      | .error e => return (.error (.tool e), s)
      | .ok () =>
          return plainAnswer id (← s.publishAll setting)

/- The commands for a selection in a document. -/
def commandsAt
    (setting : Setting τ)
    (s : Server τ ω)
    (request : CommandRequest) :
    Except SessionError Answer :=
  match s.snapshot setting request.uri with
  | .ok d =>
      .ok (.commands
        (codeActions d request.selection
          request.diagnostics))
  | .error e => .error (.file e)

/-
  Ask the editor to apply the edits that a command carries.
  It is not asked if there are none.
-/
def accept
    (arguments : List Json)
    (reply : ApplyReply) :
    Recorded Effect (Except SessionError Answer) :=
  match collectEdits? arguments with
  | none => pure (.error .malformedEdit)
  | some [] => pure (.ok (.applied false))
  | some edits =>
      ⟨.ok (.applied reply.applied),
        .applyEdits edits ::
          (if reply.applied then []
            else
              [.message .info
                ("Client rejected suggestion: " ++
                  reply.reason.getD "None")])⟩

/- Handle one message of the editor. -/
def handle
    (setting : Setting τ)
    (s : Server τ ω) : Message →
    Recorded Effect (Except SessionError Answer × Server τ ω)
  | .opened document => do
      let workspace := Workspace.put s.workspace document
      let s := { s with workspace }
      return plainAnswer id
        (← s.publishIssues setting document.uri)
  | .changed uri version changes => do
      let workspace :=
        Workspace.change s.workspace s.encoding uri version
          changes
      let s := { s with workspace }
      return plainAnswer id
        (← s.publishIssues setting uri)
  | .closed uri =>
      let workspace := Workspace.erase s.workspace uri
      ⟨(.ok .nothing, { s with workspace }),
        [.publish uri []]⟩
  | .configured payload => s.reconfigure setting payload
  | .commands request =>
      pure (s.commandsAt setting request, s)
  | .accepted arguments reply => do
      return (← accept arguments reply, s)
  | .shutdown => do
      return (.ok .nothing, ← s.closeTool setting.engine)

end Server

end ProseCheck

------------------------------------------------------------
-- Sessions
------------------------------------------------------------

namespace ProseCheck

namespace Server

variable {τ ω : Type} [Workspace ω]

/- Handle messages, one after the other. -/
def run
    (setting : Setting τ)
    (s : Server τ ω) : List Message →
    Recorded Effect (Server τ ω)
  | [] => pure s
  | m :: ms => do
      let (_, s) ← s.handle setting m
      run setting s ms

end Server

end ProseCheck

------------------------------------------------------------
-- Steps
------------------------------------------------------------

namespace ProseCheck

/-
  What may happen to a server: it is told to take over some
  settings, or it gets a message of the editor.
-/
inductive Step where
  | configure (settings : Settings)
  | message (message : Message)
deriving Repr

namespace Server

variable {τ ω : Type} [Workspace ω]

/- Let one step happen. -/
def perform
    (setting : Setting τ)
    (s : Server τ ω) : Step →
    Recorded Effect (Except SessionError Answer × Server τ ω)
  | .configure settings => do
      return plainAnswer .tool
        (← s.configure setting.engine settings)
  | .message m => s.handle setting m

/- Let steps happen, one after the other. -/
def performAll
    (setting : Setting τ)
    (s : Server τ ω) : List Step →
    Recorded Effect (Server τ ω)
  | [] => pure s
  | step :: steps => do
      let (_, s) ← s.perform setting step
      performAll setting s steps

/- Steps that are messages are a session of them. -/
theorem performAll_messages
    (setting : Setting τ)
    (s : Server τ ω)
    (ms : List Message) :
    s.performAll setting (ms.map .message) =
      s.run setting ms := by
  induction ms generalizing s with
  | nil => rfl
  | cons m ms ih =>
      rw [List.map_cons, performAll, run, perform]
      exact congrArg (Bind.bind _) (funext fun r => ih r.2)

end Server

end ProseCheck
