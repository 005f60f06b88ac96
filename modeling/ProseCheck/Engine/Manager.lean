import ProseCheck.Effect
import ProseCheck.Text.Blank
import ProseCheck.Text.WordSet

/-
  This file builds tools: it decides what an engine is told
  when it is to create one, and which rules the tool leaves
  out.

  Key definitions include:
    * `Manager`
    * `Manager.make`
    * `Manager.buildTool`
-/

------------------------------------------------------------
-- Managers
------------------------------------------------------------

namespace ProseCheck

/-
  What the tools of one configuration have in common, with
  the languages whose spellings were registered already.
-/
structure Manager where
  words : List String
  disabledRules : List String
  remoteServer : Option String
  config : List (String × Json)
  registered : List String := []
deriving Repr

namespace Manager

/- The options of an engine that runs on this machine. -/
def defaultConfig : List (String × Json) :=
  [("requestLimitPeriodInSeconds", .int 60),
    ("maxCheckTimeMillis", .int 60000)]

/- The rules that are always left out. -/
def defaultDisabledRules : List String :=
  ["WHITESPACE_RULE", "CONSECUTIVE_SPACES"]

/- The words that are spelled as they are meant to be. -/
def spellings
    (words : List (Option String)) : List String :=
  wordSet
    ((words.filterMap (fun w => w.map strip)).filter
      (fun w => !w.isEmpty))

/- An address that is not empty. -/
def address? : Option String → Option String
  | some s => if s.isEmpty then none else some s
  | none => none

/- The manager of a configuration. -/
def make
    (words : List (Option String))
    (disabledRules : List String)
    (remoteServer : Option String)
    (config : Option (List (String × Json)) := none) :
    Manager :=
  { words := spellings words
    disabledRules := wordSet disabledRules
    remoteServer := address? remoteServer
    config := config.getD defaultConfig }

end Manager

end ProseCheck

------------------------------------------------------------
-- Requests
------------------------------------------------------------

namespace ProseCheck

namespace Manager

/-
  Whether the spellings are still to be registered for a
  language.  An engine elsewhere does not take any.
-/
def registers
    (m : Manager)
    (language : String) : Bool :=
  !m.words.isEmpty && m.remoteServer.isNone &&
    !m.registered.contains language

/- The manager once the spellings of a language are known. -/
def register
    (m : Manager)
    (language : String) : Manager :=
  if m.registers language then
    { m with registered := m.registered ++ [language] }
  else
    m

/- What is reported when spellings are registered. -/
def registerRecords
    (m : Manager)
    (language : String) : List LogRecord :=
  if m.registers language then
    [⟨.info,
      "Registering " ++ toString m.words.length ++
        " custom spellings with LanguageTool (" ++
        language ++ ")"⟩]
  else
    []

/- What the engine is told about a tool for a language. -/
def request
    (m : Manager)
    (language : String) : ToolRequest :=
  { language
    remoteServer := m.remoteServer
    config :=
      if m.remoteServer.isSome || m.config.isEmpty then none
      else some m.config
    spellings :=
      if m.registers language then some m.words else none }

/- The rules that a tool leaves out, some beyond the usual. -/
def rules
    (m : Manager)
    (extra : List String) : List String :=
  wordSet (m.disabledRules ++ extra)

/- What is reported of a new tool. -/
def createdRecord
    (m : Manager)
    (language : String)
    (extra : List String) : LogRecord :=
  ⟨.info,
    "Created LanguageTool for language: " ++ language ++
      " (" ++ toString (m.rules extra).length ++
      " rule(s) disabled)"⟩

end Manager

end ProseCheck

------------------------------------------------------------
-- Tools
------------------------------------------------------------

namespace ProseCheck

namespace Manager

variable {τ : Type}

/- A new tool.  Its rules are set only where there are any. -/
def toolOf
    (m : Manager)
    (serial : Nat)
    (extra : List String)
    (state : τ) : Tool τ :=
  let rules := m.rules extra
  ⟨serial, state,
    if rules.isEmpty then none else some rules⟩

/-
  Build a tool for a language.  The spellings count as
  registered whether or not the engine creates the tool.
-/
def buildTool
    (engine : Engine τ)
    (m : Manager)
    (serial : Nat)
    (language : String)
    (extra : List String := []) :
    Recorded Effect (Except Failure (Tool τ) × Manager) := do
  Recorded.addAll
    ((m.registerRecords language).map Effect.log)
  let request := m.request language
  Recorded.add (.create serial request)
  let next := m.register language
  match engine.create serial request with
  | .error e => return (.error e, next)
  | .ok state =>
      Recorded.add (.log (m.createdRecord language extra))
      return (.ok (m.toolOf serial extra state), next)

end Manager

end ProseCheck
