import ProseCheck.Json.Shown
import ProseCheck.Markdown.Parse
import ProseCheck.Text.CaseMap
import ProseCheck.Tree.Annotate
import ProseCheck.Tree.Locate

/-
  This file decides how the text of a document is read, by
  the language that an editor names for it.

  Key definitions include:
    * `ContentType`
    * `ContentType.ofLanguage?`
    * `annotateMarkdown`
    * `declaredContent`
    * `selectText`
-/

------------------------------------------------------------
-- Content Types
------------------------------------------------------------

namespace ProseCheck

/- The families of contents that can be reduced to plain text. -/
inductive ContentType where
  | plainText
  | markdown
  | tex
deriving DecidableEq, Repr

namespace ContentType

/- The name under which a family is written. -/
def name : ContentType → String
  | .plainText => "plaintext"
  | .markdown => "markdown"
  | .tex => "tex"

/- Every family, in the order of their definition. -/
def all : List ContentType :=
  [.plainText, .markdown, .tex]

/- The family of a name. -/
def ofName?
    (name : String) : Option ContentType :=
  all.find? (fun c => c.name == name)

/- The languages that editors name, with their families. -/
def languages : List (String × ContentType) :=
  [("plaintext", .plainText), ("text", .plainText),
    ("markdown", .markdown), ("tex", .tex), ("latex", .tex),
    ("plaintex", .tex)]

/-
  The family of a language.  Neither case nor blank ends of
  the name matter.
-/
def ofLanguage?
    (language : String) : Option ContentType :=
  let key := (Text.ofString language).strip.lower
  (languages.find? (fun l => l.1.toList == key)).map (·.2)

end ContentType

end ProseCheck

------------------------------------------------------------
-- Errors
------------------------------------------------------------

namespace ProseCheck

/- Why a text cannot be reduced to plain text. -/
inductive SelectError where
  | unsupported (language : String)
  | malformed (e : AnnotationError)
deriving DecidableEq, Repr

namespace SelectError

/- The wording of the error. -/
def message : SelectError → String
  | .unsupported language =>
      "Language, " ++ language ++ ", is not supported."
  | .malformed e => e.message

end SelectError

end ProseCheck

------------------------------------------------------------
-- Selection
------------------------------------------------------------

namespace ProseCheck

/- The annotated text of a Markdown source. -/
def annotateMarkdown
    (source : Text) : Except AnnotationError AnnotatedText :=
  annotate source (locate source (Markdown.parse source))

/- The annotated text of a source of some family. -/
def selectContent
    (source : Text) : ContentType →
    Except SelectError AnnotatedText
  | .markdown =>
      match annotateMarkdown source with
      | .ok a => .ok a
      | .error e => .error (.malformed e)
  | _ => .ok (AnnotatedText.identity source)

/-
  The family of a declared language.  It may be any value,
  and the text that is shown of it counts.
-/
def declaredContent
    (language : Json) : Except SelectError ContentType :=
  match ContentType.ofLanguage?
      (language.orElse (.str "")).shown with
  | some type => .ok type
  | none => .error (.unsupported language.shown)

/- The annotated text of a source in a declared language. -/
def selectDeclared
    (source : Text)
    (language : Json) : Except SelectError AnnotatedText :=
  match declaredContent language with
  | .ok type => selectContent source type
  | .error e => .error e

/- The annotated text of a source in some language. -/
def selectText
    (source : Text)
    (language : String) : Except SelectError AnnotatedText :=
  selectDeclared source (.str language)

end ProseCheck
