import ProseCheck.Edit.Reader

/-
  This file reads the diagnostics that an editor sends along
  when it asks for commands.

  Key definitions include:
    * `Diagnostic.ofJson?`
    * `CommandRequest`
    * `CommandRequest.ofJson?`
-/

------------------------------------------------------------
-- Diagnostics
------------------------------------------------------------

namespace ProseCheck

/- A text in a field that may be missing or null. -/
def optionalText
    (v : Json)
    (name : String) : Option String :=
  match v.field? name with
  | none => none
  | some .null => none
  | some s => some s.shown

/- The diagnostic that an object describes. -/
def Diagnostic.ofJson?
    (v : Json) : Option Diagnostic := do
  let range ← rangeAt? v
  let message ← textAt? v "message"
  return { range, message
           code := optionalText v "code"
           source := optionalText v "source"
           data := (v.field? "data").getD .null }

end ProseCheck

------------------------------------------------------------
-- Requests
------------------------------------------------------------

namespace ProseCheck

/-
  The request for commands: a document, a selection in it,
  and the diagnostics that the editor knows there.
-/
structure CommandRequest where
  uri : String
  selection : Range
  diagnostics : List Diagnostic
deriving Repr

/- The request that an object describes. -/
def CommandRequest.ofJson?
    (v : Json) : Option CommandRequest := do
  let document ← v.field? "textDocument"
  let selection ← rangeAt? v
  let context ← v.field? "context"
  let items ← (← context.field? "diagnostics").toItems.toOption
  return ⟨← textAt? document "uri", selection,
    ← items.mapM Diagnostic.ofJson?⟩

end ProseCheck
