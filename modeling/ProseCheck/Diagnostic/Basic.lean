import ProseCheck.Json.Shown
import ProseCheck.Text.Position

/-
  This file defines diagnostics: remarks on a range of a
  document that an editor shows.

  Key definitions include:
    * `Diagnostic`
    * `Diagnostic.replacements`
    * `Diagnostic.toJson`
-/

------------------------------------------------------------
-- Diagnostics
------------------------------------------------------------

namespace ProseCheck

/-
  A remark on a range of a document.  An editor keeps the
  data of it and hands them back with a request.
-/
structure Diagnostic where
  range : Range
  message : String
  code : Option String := none
  source : Option String := none
  data : Json := .null
deriving Repr

namespace Diagnostic

/- The number that tells an editor that this is a warning. -/
def severity : Int :=
  2

/- The texts that may replace the range, as data. -/
def replacementData
    (texts : List String) : Json :=
  .obj [("replacements", .arr (texts.map .str))]

/-
  The texts that may replace the range, as the data of the
  diagnostic tell them.
-/
def replacements
    (d : Diagnostic) : List String :=
  match d.data with
  | .obj fields =>
      match ((Json.lookup fields "replacements").getD
          .null).orElse (.arr []) with
      | .arr items => items.map Json.shown
      | _ => []
  | _ => []

end Diagnostic

end ProseCheck

------------------------------------------------------------
-- Written Diagnostics
------------------------------------------------------------

namespace ProseCheck

/- A position as an editor writes it. -/
def Position.toJson
    (p : Position) : Json :=
  .obj [("line", .int p.line),
    ("character", .int p.character)]

/- A range as an editor writes it. -/
def Range.toJson
    (r : Range) : Json :=
  .obj [("start", r.start.toJson), ("end", r.stop.toJson)]

namespace Diagnostic

/- A field with a text, if there is one. -/
def textField
    (name : String) : Option String → List (String × Json)
  | some s => [(name, .str s)]
  | none => []

/- A diagnostic as it is sent to an editor. -/
def toJson
    (d : Diagnostic) : Json :=
  .obj
    ([("range", d.range.toJson),
        ("message", .str d.message),
        ("severity", .int severity)] ++
      textField "code" d.code ++
      textField "source" d.source ++
      [("data", d.data)])

end Diagnostic

end ProseCheck
