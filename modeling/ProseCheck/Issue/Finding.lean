import ProseCheck.Issue.Basic
import ProseCheck.Json.Convert

/-
  This file defines findings: what a checking tool reports,
  as an object with any attributes, and the issues that are
  read from them.

  Key definitions include:
    * `Finding`
    * `FindingError`
    * `Issue.ofFinding`
-/

------------------------------------------------------------
-- Findings
------------------------------------------------------------

namespace ProseCheck

/- What a tool reports of one place in a text. -/
structure Finding where
  attributes : List (String × Json)
deriving Repr

namespace Finding

/- The value of an attribute, or one that stands in for it. -/
def value
    (f : Finding)
    (name : String)
    (default : Json) : Json :=
  (Json.lookup f.attributes name).getD default

/- The name of the rule, as it is reported. -/
def rule
    (f : Finding) : Json :=
  f.value "ruleId" (.str "UNKNOWN")

end Finding

end ProseCheck

------------------------------------------------------------
-- Errors
------------------------------------------------------------

namespace ProseCheck

/- Why a finding is not an issue. -/
inductive FindingError where
  | invalid (errors : List FieldError)
  | conversion (e : ConversionError)
deriving DecidableEq, Repr

namespace FindingError

/-
  Whether the finding is malformed.  An infinite offset is
  not taken for a malformed finding: it is a number, but not
  one that an offset can be cut to.
-/
def isMalformed : FindingError → Bool
  | .conversion .infinite => false
  | _ => true

end FindingError

end ProseCheck

------------------------------------------------------------
-- Issues
------------------------------------------------------------

namespace ProseCheck

namespace Finding

/- The integer of an attribute.  Nothing counts as zero. -/
def integer
    (f : Finding)
    (name : String) : Except ConversionError Int :=
  ((f.value name (.int 0)).orElse (.int 0)).toInteger

/- The replacements that the finding offers. -/
def replacements
    (f : Finding) : Except ConversionError (List Json) :=
  ((f.value "replacements" (.arr [])).orElse
    (.arr [])).toItems

/-
  The fields of the issue that a finding describes.  What is
  missing or empty is replaced by a default, and a negative
  length by zero.
-/
def issueFields
    (f : Finding) :
    Except ConversionError (List (String × Json)) := do
  let start ← f.integer "offset"
  let length ← f.integer "errorLength"
  let rule := f.rule.orElse (.str "UNKNOWN")
  let replacements ← f.replacements
  return [("start", .int start),
    ("end", .int (start + max length 0)),
    ("message", f.value "message" (.str "")),
    ("replacements", .arr replacements),
    ("rule_id", rule),
    ("rule_description",
      (f.value "ruleDescription" .null).orElse rule),
    ("issue_type",
      (f.value "ruleIssueType" .null).orElse
        (.str "unknown"))]

end Finding

namespace Issue

/- The issue that a finding describes. -/
def ofFinding
    (f : Finding) : Except FindingError Issue :=
  match f.issueFields with
  | .error e => .error (.conversion e)
  | .ok fields => (ofFields fields).mapError .invalid

end Issue

end ProseCheck
