import ProseCheck.Engine.Basic

/-
  This file defines tools that follow a script: they fail as
  often as it says, and then report the findings in it and
  every occurrence of some words.

  Key definitions include:
    * `Script`
    * `Script.check`
    * `ScriptedEngine`
-/

------------------------------------------------------------
-- Scripted Tools
------------------------------------------------------------

namespace ProseCheck

/- A word to look for, and what to report where it occurs. -/
structure ScriptedWord where
  word : Text
  attributes : List (String × Json)
deriving Repr

namespace ScriptedWord

/- The finding for an occurrence at an offset. -/
def findingAt
    (w : ScriptedWord)
    (offset : Nat) : Finding :=
  ⟨("offset", .int offset) ::
    ("errorLength", .int w.word.length) :: w.attributes⟩

/- The findings for all occurrences in a text. -/
def findings
    (w : ScriptedWord)
    (t : Text) : List Finding :=
  (Text.occurrences w.word t).map w.findingAt

end ScriptedWord

/-
  What a tool is to do: how its next checks fail, if they do,
  and what the others report.
-/
structure Script where
  failures : List (Option Failure) := []
  silent : Bool := false
  findings : List Finding := []
  words : List ScriptedWord := []
deriving Repr

namespace Script

/- What a script reports of a text when it does not fail. -/
def report
    (s : Script)
    (t : Text) : List Finding :=
  if s.silent then []
  else s.findings ++ s.words.flatMap (fun w => w.findings t)

/- Check a text as the script says, and go on in it. -/
def check
    (s : Script)
    (t : Text) : Except Failure (List Finding) × Script :=
  let rest := { s with failures := s.failures.drop 1 }
  match s.failures.head? with
  | some (some f) => (.error f, rest)
  | _ => (.ok (s.report t), rest)

/- The engine whose every tool starts with an empty script. -/
def engine : Engine Script :=
  { create := fun _ _ => .ok {}, check }

end Script

end ProseCheck

------------------------------------------------------------
-- Scripted Engines
------------------------------------------------------------

namespace ProseCheck

/-
  An engine whose tools follow a script for each language.
  Some languages it refuses, and for others it fails.
-/
structure ScriptedEngine where
  script : Script := {}
  scripts : List (String × Script) := []
  unsupported : List String := []
  broken : List (String × Failure) := []
  closable : Bool := true
deriving Repr

namespace ScriptedEngine

/- The value that a list of pairs gives a language. -/
def forLanguage?
    {α : Type}
    (pairs : List (String × α))
    (language : String) : Option α :=
  (pairs.find? (fun p => p.1 == language)).map (·.2)

/- Create a tool for the language of a request. -/
def create
    (e : ScriptedEngine)
    (r : ToolRequest) : Except Failure Script :=
  if e.unsupported.contains r.language then
    .error ⟨.value, r.language ++ " is not supported"⟩
  else
    match forLanguage? e.broken r.language with
    | some f => .error f
    | none =>
        .ok ((forLanguage? e.scripts r.language).getD e.script)

/- The engine that creates its tools from the scripts. -/
def engine
    (e : ScriptedEngine) : Engine Script :=
  { create := fun _ r => e.create r
    check := Script.check
    closable := e.closable }

end ScriptedEngine

end ProseCheck
