import ProseCheck.Edit.Basic
import ProseCheck.Edit.Position
import ProseCheck.Json.Convert

/-
  This file reads edits from the objects in which they are
  sent.  Fields that are not asked for are passed over.  Any
  value is taken for a text, and what converts to an integer
  is taken for one.

  Key definitions include:
    * `Range.ofJson?`
    * `DocumentEdit.ofJson?`
    * `collectEdits?`
-/

------------------------------------------------------------
-- Ranges
------------------------------------------------------------

namespace ProseCheck

/- The integer in a field of an object. -/
def integerAt?
    (v : Json)
    (name : String) : Option Int := do
  let field ← v.field? name
  field.toInteger.toOption

/- The text in a field of an object. -/
def textAt?
    (v : Json)
    (name : String) : Option String :=
  (v.field? name).map Json.shown

/- The position that an object describes. -/
def Position.ofJson?
    (v : Json) : Option Position := do
  let line ← integerAt? v "line"
  let character ← integerAt? v "character"
  (Position.ofInts line character).toOption

/- The range that an object describes. -/
def Range.ofJson?
    (v : Json) : Option Range := do
  let start ← v.field? "start"
  let stop ← v.field? "end"
  return ⟨← Position.ofJson? start, ← Position.ofJson? stop⟩

/- The range in a field of an object. -/
def rangeAt?
    (v : Json) : Option Range := do
  Range.ofJson? (← v.field? "range")

end ProseCheck

------------------------------------------------------------
-- Edits
------------------------------------------------------------

namespace ProseCheck

/- The value of the snippet that an object describes. -/
def snippetValue?
    (v : Json) : Option String :=
  match textAt? v "kind" with
  | some kind =>
      if kind = snippetKind then textAt? v "value" else none
  | none => textAt? v "value"

/- The note of a snippet, where a null means none. -/
def noteAt
    (v : Json) : Option String :=
  match v.field? "annotationId" with
  | none => none
  | some .null => none
  | some note => some note.shown

/-
  The change that an object describes.  A snippet in it makes
  it the change to a snippet, and else a note in it makes it
  the change to a text with a note.
-/
def Change.ofJson?
    (v : Json) : Option Change :=
  match v.field? "snippet", v.field? "annotationId" with
  | some inner, _ => do
      let range ← rangeAt? v
      return .snippet range (← snippetValue? inner)
        (noteAt v)
  | none, some note => do
      let range ← rangeAt? v
      return .annotated range (← textAt? v "newText")
        note.shown
  | none, none => do
      let range ← rangeAt? v
      return .plain range (← textAt? v "newText")

/- The version of a document.  It may be missing or null. -/
def versionAt?
    (v : Json) : Option (Option Int) :=
  match v.field? "version" with
  | none => some none
  | some .null => some none
  | some n => n.toInteger.toOption.map some

/- The name of a document that an object describes. -/
def DocumentId.ofJson?
    (v : Json) : Option DocumentId := do
  let uri ← textAt? v "uri"
  return ⟨uri, ← versionAt? v⟩

/- The edit that an object describes. -/
def DocumentEdit.ofJson?
    (v : Json) : Option DocumentEdit := do
  let document ← DocumentId.ofJson? (← v.field? "textDocument")
  let items ← (← v.field? "edits").toItems.toOption
  return ⟨document, ← items.mapM Change.ofJson?⟩

end ProseCheck

------------------------------------------------------------
-- Arguments of a Command
------------------------------------------------------------

namespace ProseCheck

mutual

/-
  The edits of one argument: of an object, or of all that a
  list holds at any depth.
-/
def editsOf? : Json → Option (List DocumentEdit)
  | .arr items => collectEdits? items
  | v => (DocumentEdit.ofJson? v).map (fun e => [e])

/-
  The edits of several arguments, from left to right.  There
  are none of them unless every argument is an edit.
-/
def collectEdits? : List Json → Option (List DocumentEdit)
  | [] => some []
  | v :: vs =>
      match editsOf? v, collectEdits? vs with
      | some es, some rest => some (es ++ rest)
      | _, _ => none

end

end ProseCheck
