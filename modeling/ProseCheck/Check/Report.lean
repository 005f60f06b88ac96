import ProseCheck.Check.IgnoredWords
import ProseCheck.Check.Retry
import ProseCheck.Diagnostic.Mapping
import ProseCheck.Tree.Select

/-
  This file checks documents: the text of a document is
  reduced to plain text, a tool checks that, and what it
  finds is taken back to the document.

  Key definitions include:
    * `readFindings`
    * `Report`
    * `checkDocument`
    * `diagnose`
-/

------------------------------------------------------------
-- Errors
------------------------------------------------------------

namespace ProseCheck

/- Why a document cannot be checked. -/
inductive CheckError where
  | select (e : SelectError)
  | tool (e : Failure)
  | finding (e : FindingError)
  | place (e : Refusal)
deriving DecidableEq, Repr

end ProseCheck

------------------------------------------------------------
-- Findings
------------------------------------------------------------

namespace ProseCheck

/- What is reported of a finding that is no issue. -/
def skipRecord
    (f : Finding) : LogRecord :=
  ⟨.warning,
    "Skipping malformed LanguageTool match (rule=" ++
      f.rule.shown ++ ")"⟩

/-
  What is reported of an issue beyond the end of a text.  A
  record that cannot be written is lost.
-/
def beyondRecords
    (length : Nat)
    (i : Issue) : List LogRecord :=
  if i.stop ≤ length ∨
      ¬ (IsWritable i.start ∧ IsWritable i.stop) then []
  else
    [⟨.warning,
      "Issue " ++ i.ruleId ++ " at [" ++ toString i.start ++
        ", " ++ toString i.stop ++
        ") exceeds analyzed text of length " ++
        toString length⟩]

/-
  The issues of findings, in their order.  A malformed
  finding is passed over.
-/
def readFindings
    (length : Nat) : List Finding →
    Recorded LogRecord (Except FindingError (List Issue))
  | [] => pure (.ok [])
  | f :: fs =>
      match Issue.ofFinding f with
      | .ok i => do
          Recorded.addAll (beyondRecords length i)
          let rest ← readFindings length fs
          return rest.map (i :: ·)
      | .error e =>
          if e.isMalformed then do
            Recorded.add (skipRecord f)
            readFindings length fs
          else
            pure (.error e)

end ProseCheck

------------------------------------------------------------
-- Checks
------------------------------------------------------------

namespace ProseCheck

variable {τ : Type}

/- The issues of a document, with its annotated text. -/
structure Report where
  document : Document
  annotated : AnnotatedText
  issues : List Issue
deriving Repr

namespace Report

/- The diagnostics of a report. -/
def diagnostics
    (r : Report)
    (encoding : Encoding) :
    Recorded LogRecord (Except Refusal (List Diagnostic)) :=
  buildDiagnostics r.annotated
    ⟨r.document.text, false, encoding⟩ r.issues

end Report

/-
  The issues that a tool finds in a plain text, without those
  about words to ignore, and the state in which it is left.
-/
def checkPlain
    (engine : Engine τ)
    (backoff : Backoff Binary64)
    (tool : τ)
    (plain : Text)
    (extraWords : List String) :
    Recorded Effect (Except CheckError (List Issue) × τ) := do
  let run := retry backoff engine.check tool plain
  Recorded.addAll (run.effects [.check plain])
  match run.outcome with
  | .error e => return (.error (.tool e), run.state)
  | .ok findings =>
      let issues ← (readFindings plain.length findings).logged
      match issues with
      | .error e => return (.error (.finding e), run.state)
      | .ok issues =>
          let words := ignoredWords extraWords
          return (.ok (keepIssues words plain issues),
            run.state)

/-
  The report on a document.  A tool is not asked about a text
  that is blank.
-/
def checkDocument
    (engine : Engine τ)
    (backoff : Backoff Binary64)
    (tool : τ)
    (document : Document)
    (extraWords : List String) :
    Recorded Effect (Except CheckError Report × τ) :=
  match selectText document.text document.languageId with
  | .error e => pure (.error (.select e), tool)
  | .ok annotated =>
      let plain := annotated.plainText
      if plain.strip.isEmpty then
        pure (.ok ⟨document, annotated, []⟩, tool)
      else do
        let (issues, tool) ←
          checkPlain engine backoff tool plain extraWords
        return (issues.map (Report.mk document annotated),
          tool)

end ProseCheck

------------------------------------------------------------
-- Diagnoses
------------------------------------------------------------

namespace ProseCheck

variable {τ : Type}

/- What is reported of a document that cannot be annotated. -/
def annotateRecord
    (document : Document) : LogRecord :=
  ⟨.error, "Could not annotate " ++ document.uri⟩

/- What is reported of a document that no check succeeds on. -/
def attemptsRecord
    (document : Document) : LogRecord :=
  ⟨.error,
    "Language check failed for " ++ document.uri ++
      " after all retries"⟩

/-
  What becomes of a document that cannot be checked.  It has
  no diagnostics, and it may be reported why.  Only errors
  that are no fault of the document or of a connection are
  passed on.  A failure of a tool that is of the same class as
  a fault of the document is taken for one.
-/
def recover
    (document : Document)
    (e : CheckError) :
    Recorded Effect (Except CheckError (List Diagnostic)) :=
  match e with
  | .select (.unsupported _) => pure (.ok [])
  | .select (.malformed _) =>
      ⟨.ok [], [.log (annotateRecord document)]⟩
  | .tool f =>
      if f.kind.isA .content then
        pure (.ok [])
      else if f.kind.isA .markup then
        ⟨.ok [], [.log (annotateRecord document)]⟩
      else if f.isTransient then
        ⟨.ok [], [.log (attemptsRecord document)]⟩
      else
        pure (.error e)
  | .finding _ => pure (.error e)
  | .place _ => pure (.error e)

/- The diagnostics of a document that a tool may check. -/
def diagnoseWith
    (engine : Engine τ)
    (backoff : Backoff Binary64)
    (tool : τ)
    (document : Document)
    (extraWords : List String)
    (encoding : Encoding) :
    Recorded Effect
      (Except CheckError (List Diagnostic) × τ) := do
  let (report, tool) ←
    checkDocument engine backoff tool document extraWords
  match report with
  | .ok report =>
      let ds ← (report.diagnostics encoding).logged
      return (ds.mapError .place, tool)
  | .error e => return (← recover document e, tool)

/-
  The diagnostics of a document.  There are none without a
  tool, or where its address is not one that is checked.
-/
def diagnose
    (engine : Engine τ)
    (backoff : Backoff Binary64)
    (tool : Option τ)
    (document : Document)
    (extraWords : List String)
    (encoding : Encoding) :
    Recorded Effect
      (Except CheckError (List Diagnostic) × Option τ) :=
  match tool with
  | none => pure (.ok [], none)
  | some tool =>
      if document.hasSupportedScheme then do
        let (ds, tool) ←
          diagnoseWith engine backoff tool document
            extraWords encoding
        return (ds, some tool)
      else
        pure (.ok [], some tool)

end ProseCheck
