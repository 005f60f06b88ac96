import ProseCheck.Diagnostic.Basic
import ProseCheck.Document

/-
  This file defines edits: changes of a version of a
  document, and the objects in which they are sent.

  Key definitions include:
    * `Change`
    * `DocumentEdit`
    * `DocumentEdit.toJson`
-/

------------------------------------------------------------
-- Edits
------------------------------------------------------------

namespace ProseCheck

/-
  The change of a range: to a new text, to one with a note on
  it, or to a snippet with places to fill in.
-/
inductive Change where
  | plain
      (range : Range)
      (newText : String)
  | annotated
      (range : Range)
      (newText : String)
      (note : String)
  | snippet
      (range : Range)
      (value : String)
      (note : Option String)
deriving DecidableEq, Repr

/- Changes of one version of a document. -/
structure DocumentEdit where
  document : DocumentId
  changes : List Change
deriving DecidableEq, Repr

end ProseCheck

------------------------------------------------------------
-- Written Edits
------------------------------------------------------------

namespace ProseCheck

/- The word that marks the value of a snippet. -/
def snippetKind : String :=
  "snippet"

/- The field for a note, if there is one. -/
def noteField : Option String → List (String × Json)
  | some note => [("annotationId", .str note)]
  | none => []

/- A change as it is sent. -/
def Change.toJson : Change → Json
  | .plain range newText =>
      .obj [("range", range.toJson),
        ("newText", .str newText)]
  | .annotated range newText note =>
      .obj [("range", range.toJson),
        ("newText", .str newText),
        ("annotationId", .str note)]
  | .snippet range value note =>
      .obj
        ([("range", range.toJson),
            ("snippet",
              .obj [("kind", .str snippetKind),
                ("value", .str value)])] ++
          noteField note)

/- The version of a document, or null where it has none. -/
def versionJson : Option Int → Json
  | some n => .int n
  | none => .null

/- The name of a document as it is sent, version included. -/
def DocumentId.toJson
    (d : DocumentId) : Json :=
  .obj [("uri", .str d.uri),
    ("version", versionJson d.version)]

/- An edit as it is sent. -/
def DocumentEdit.toJson
    (e : DocumentEdit) : Json :=
  .obj [("textDocument", e.document.toJson),
    ("edits", .arr (e.changes.map Change.toJson))]

end ProseCheck
