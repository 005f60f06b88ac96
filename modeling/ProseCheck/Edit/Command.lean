import ProseCheck.Diagnostic.Overlap
import ProseCheck.Edit.Basic

/-
  This file offers the replacements of diagnostics as
  commands that an editor can run.

  Key definitions include:
    * `Command`
    * `editFor`
    * `commandsFor`
    * `codeActions`
-/

------------------------------------------------------------
-- Commands
------------------------------------------------------------

namespace ProseCheck

/- A command with a title, which carries one edit. -/
structure Command where
  title : String
  edit : DocumentEdit
deriving DecidableEq, Repr

namespace Command

/- The name of the command that applies an edit. -/
def name : String :=
  "languageTool.acceptSuggestion"

/- The label under which an editor applies the edit. -/
def label : String :=
  "Apply LanguageTool suggestion"

/- A command as it is sent. -/
def toJson
    (c : Command) : Json :=
  .obj [("title", .str c.title), ("command", .str name),
    ("arguments", .arr [c.edit.toJson])]

end Command

end ProseCheck

------------------------------------------------------------
-- Commands of a Diagnostic
------------------------------------------------------------

namespace ProseCheck

/-
  The edit that puts a replacement in the range of a
  diagnostic.  It carries the version of the document, so
  that an editor can refuse it once the document changed.
-/
def editFor
    (d : Diagnostic)
    (replacement : String)
    (document : DocumentId) : DocumentEdit :=
  ⟨document, [.plain d.range replacement]⟩

/- The command for one replacement. -/
def commandFor
    (d : Diagnostic)
    (replacement : String)
    (document : DocumentId) : Command :=
  ⟨replacement, editFor d replacement document⟩

/- The commands of a diagnostic, one for each replacement. -/
def commandsFor
    (d : Diagnostic)
    (document : DocumentId) : List Command :=
  d.replacements.map (fun r => commandFor d r document)

end ProseCheck

------------------------------------------------------------
-- Commands under a Selection
------------------------------------------------------------

namespace ProseCheck

/-
  The commands of the diagnostics that a selection touches.
  The diagnostics are those that the editor sends along.
-/
def codeActions
    (document : Document)
    (query : Range)
    (context : List Diagnostic) : List Command :=
  (underSelection query context).flatMap
    (fun d => commandsFor d document.identifier)

end ProseCheck
