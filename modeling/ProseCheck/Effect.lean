import ProseCheck.Edit.Basic
import ProseCheck.Engine.Basic

/-
  This file lists what a run does to the world around it: to
  its log, to the engine, and to the editor.

  Key definitions include:
    * `Effect`
    * `Effect.ofRecords`
-/

------------------------------------------------------------
-- Effects
------------------------------------------------------------

namespace ProseCheck

/-
  One thing that is done to the world.  Tools are told apart
  by the number of the request that created them.
-/
inductive Effect where
  | log (record : LogRecord)
  | pause (delay : Binary64)
  | create
      (serial : Nat)
      (request : ToolRequest)
  | check (text : Text)
  | close (serial : Nat)
  | publish
      (uri : String)
      (diagnostics : List Diagnostic)
  | applyEdits (edits : List DocumentEdit)
deriving Repr

namespace Effect

/- The writing of a message to the log. -/
def message
    (level : LogLevel)
    (text : String) : Effect :=
  .log ⟨level, text⟩

end Effect

namespace Recorded

/- A value whose log records are effects. -/
def logged
    {α : Type}
    (x : Recorded LogRecord α) : Recorded Effect α :=
  x.mapEntries Effect.log

end Recorded

end ProseCheck
