import ProseCheck.Annotated.Basic
import ProseCheck.Diagnostic.Basic
import ProseCheck.Issue.Basic

/-
  This file turns issues into diagnostics: the offsets of an
  issue are taken from the plain text to the source, and
  from there to positions.

  Key definitions include:
    * `Issue.sourceSpan`
    * `toDiagnostic`
    * `buildDiagnostics`
-/

------------------------------------------------------------
-- Descriptions
------------------------------------------------------------

namespace ProseCheck

namespace Issue

/- The name under which diagnostics are published. -/
def analyzer : String :=
  "LanguageTool"

/- The message of an issue, followed by its replacements. -/
def fullMessage
    (i : Issue) : String :=
  if i.replacements.isEmpty then
    i.message
  else
    i.message ++ "\nSuggested Replacements: " ++
      String.intercalate ", " i.replacements

/- The diagnostic of an issue at a known range. -/
def diagnosticAt
    (i : Issue)
    (range : Range) : Diagnostic :=
  { range
    message := i.fullMessage
    code := some i.ruleId
    source := some (analyzer ++ ": " ++ i.ruleDescription)
    data := Diagnostic.replacementData i.replacements }

end Issue

end ProseCheck

------------------------------------------------------------
-- Places
------------------------------------------------------------

namespace ProseCheck

namespace Issue

/-
  The source offsets between which an issue lies.  An empty
  issue after markup would end before it starts, and ends
  where it starts instead.
-/
def sourceSpan
    (i : Issue)
    (a : AnnotatedText) : Except Refusal (Int × Int) :=
  match a.originalOffset i.start with
  | .error e => .error e
  | .ok start =>
      match a.originalOffset i.stop true with
      | .error e => .error e
      | .ok stop => .ok (start, max start stop)

end Issue

/- The diagnostic of an issue. -/
def toDiagnostic
    (i : Issue)
    (a : AnnotatedText)
    (p : PositionTable) : Except Refusal Diagnostic :=
  match i.sourceSpan a with
  | .error e => .error e
  | .ok (start, stop) =>
      (p.rangeOf start stop).map i.diagnosticAt

/- What is reported while an issue is given its place. -/
def placeRecords
    (i : Issue)
    (a : AnnotatedText)
    (p : PositionTable) : List LogRecord :=
  match i.sourceSpan a with
  | .error _ => []
  | .ok (start, stop) => p.rangeRecords start stop

end ProseCheck

------------------------------------------------------------
-- All Issues of a Text
------------------------------------------------------------

namespace ProseCheck

/- What is reported of an issue that has no place. -/
def dropRecord
    (i : Issue)
    (e : OutOfRange) : LogRecord :=
  ⟨.warning,
    "Dropping issue " ++ i.ruleId ++ ": " ++ e.message⟩

/-
  The diagnostics of one issue: one, or none if it lies
  outside of the text.  An error of another kind is passed on.
-/
def diagnosticsOf
    (a : AnnotatedText)
    (p : PositionTable)
    (i : Issue) :
    Recorded LogRecord (Except Refusal (List Diagnostic)) :=
  match toDiagnostic i a p with
  | .ok d => ⟨.ok [d], placeRecords i a p⟩
  | .error (.outOfRange e) =>
      ⟨.ok [], placeRecords i a p ++ [dropRecord i e]⟩
  | .error .unwritable =>
      ⟨.error .unwritable, placeRecords i a p⟩

/-
  The diagnostics of issues, in their order.  An error ends
  this, and then there are none.
-/
def buildDiagnostics
    (a : AnnotatedText)
    (p : PositionTable) : List Issue →
    Recorded LogRecord (Except Refusal (List Diagnostic))
  | [] => pure (.ok [])
  | i :: is => do
      match ← diagnosticsOf a p i with
      | .error e => return .error e
      | .ok ds =>
          let rest ← buildDiagnostics a p is
          return rest.map (ds ++ ·)

end ProseCheck
