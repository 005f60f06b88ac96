import ProseCheck.Proofs.Server.Publication

/-
  This file says what becomes of the tool of a server when
  new settings are taken over.  The old tool is given up in
  any case.  The new one is the tool that the engine creates
  for the new settings, if they name a language and it can be
  created, and nothing is published on the way.

  Main declarations:
    * `toolFor`
    * `Server.configured`
    * `Server.configure_steady`
-/

------------------------------------------------------------
-- New Tools
------------------------------------------------------------

namespace ProseCheck

variable {τ : Type}

/-
  The tool that an engine creates for settings, after a
  number of other requests.  There is none without a language
  or where the engine fails.
-/
def toolFor
    (engine : Engine τ)
    (remoteServer : Option String)
    (serial : Nat)
    (settings : Settings) : Option (Tool τ) :=
  settings.language.bind (fun language =>
    let m := managerFor settings remoteServer
    (m.buildTool engine serial language).value.1.toOption)

/- The number of tools that settings make a server ask for. -/
def requestsFor
    (settings : Settings) : Nat :=
  if settings.language.isSome then 1 else 0

namespace Server

variable {ω : Type} [Workspace ω]

/- The state of a server that took over new settings. -/
def configured
    (engine : Engine τ)
    (settings : Settings)
    (s : Server τ ω) : Server τ ω :=
  { s with
    settings
    tool := toolFor engine s.remoteServer s.requests settings
    requests := s.requests + requestsFor settings }

end Server

end ProseCheck

------------------------------------------------------------
-- Quiet Changes of Tools
------------------------------------------------------------

namespace ProseCheck

variable
  {τ ω : Type}
  [Workspace ω]
  {setting : Setting τ}

/- A tool is built quietly if the engine creates it. -/
theorem Manager.buildTool_quietly
    (engine : Engine τ)
    (m : Manager)
    (serial : Nat)
    (language : String) :
    (m.buildTool engine serial language).Quietly
      ((engine.create serial (m.request language)).map
          (m.toolOf serial []),
        m.register language) := by
  unfold buildTool
  refine Recorded.Quietly.bind (a := ())
    ⟨rfl, publications_map_log _⟩ ?_
  refine Recorded.Quietly.bind (a := ()) ⟨rfl, rfl⟩ ?_
  cases engine.create serial (m.request language) with
  | error e => exact quietly_pure _
  | ok state =>
      refine Recorded.Quietly.bind (a := ()) ⟨rfl, rfl⟩ ?_
      exact quietly_pure _

namespace Server

/- Giving up a tool is quiet. -/
theorem closeTool_quietly
    (engine : Engine τ)
    (s : Server τ ω) :
    (s.closeTool engine).Quietly { s with tool := none } := by
  unfold closeTool
  split
  · rename_i hNone
    rw [← hNone]
    exact quietly_pure s
  · refine ⟨rfl, ?_⟩
    dsimp only
    split <;> rfl

/- A tool that cannot be created is quietly done without. -/
theorem withoutTool_quietly
    (language : String)
    {e : Failure}
    (hKind :
      e.kind.isA .value = true ∨ e.isTransient = true) :
    (withoutTool language e).Quietly (.ok ()) := by
  unfold withoutTool
  split
  · exact ⟨rfl, rfl⟩
  split
  · exact ⟨rfl, rfl⟩
  · rcases hKind with hValue | hTransient
    · contradiction
    · contradiction

/- A tool for a language is quietly created or done without. -/
theorem openTool_quietly
    (hSteady : setting.Steady)
    (language : String)
    {s : Server τ ω}
    (hTool : s.tool = none) :
    (s.openTool setting.engine language).Quietly
      (.ok (),
        { s with
          tool :=
            (s.manager.buildTool setting.engine s.requests
              language).value.1.toOption
          requests := s.requests + 1 }) := by
  have hBuild :=
    s.manager.buildTool_quietly setting.engine s.requests
      language
  rw [hBuild.1, openTool]
  apply hBuild.bind
  cases hCreate : setting.engine.create s.requests
      (s.manager.request language) with
  | ok state => exact quietly_pure _
  | error e =>
      have hKind := hSteady.create _ _ _ hCreate
      apply (withoutTool_quietly language hKind).bind
      have hSame :
          { s with requests := s.requests + 1 } =
            { s with
              tool := none
              requests := s.requests + 1 } := by
        rw [← hTool]
      rw [hSame]
      exact quietly_pure _

/-
  A server that takes over new settings has the tool for them,
  and publishes nothing.
-/
theorem configure_steady
    (hSteady : setting.Steady)
    (s : Server τ ω)
    (settings : Settings) :
    (s.configure setting.engine settings).Quietly
      (.ok (), s.configured setting.engine settings) := by
  unfold configure
  apply (closeTool_quietly setting.engine s).bind
  cases hLanguage : settings.language with
  | none =>
      apply (quietly_message .info _).bind
      rw [configured, toolFor, requestsFor, hLanguage]
      exact quietly_pure _
  | some language =>
      rw [configured, toolFor, requestsFor, hLanguage]
      exact openTool_quietly hSteady language rfl

end Server

end ProseCheck
