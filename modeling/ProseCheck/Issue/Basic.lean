import ProseCheck.Field
import ProseCheck.Number.Numeral

/-
  This file defines issues: what a check finds in a plain
  text, between two offsets into it.  An issue is made from
  the fields of an object, which are tidied up on the way.

  Key definitions include:
    * `Issue`
    * `Issue.ofFields`
    * `Issue.fields`
-/

------------------------------------------------------------
-- Issues
------------------------------------------------------------

namespace ProseCheck

/-
  A finding between two offsets of the plain text, with the
  texts that may replace it and the rule that it breaks.
-/
structure Issue where
  start : Nat
  stop : Nat
  message : String
  replacements : List String
  ruleId : String
  ruleDescription : String
  issueType : String
deriving DecidableEq, Repr

namespace Issue

/- The fields of an issue, by the names of the form. -/
def fields
    (i : Issue) : List (String × Json) :=
  [("start", .int i.start), ("end", .int i.stop),
    ("message", .str i.message),
    ("replacements", .arr (i.replacements.map .str)),
    ("rule_id", .str i.ruleId),
    ("rule_description", .str i.ruleDescription),
    ("issue_type", .str i.issueType)]

/- The names of the fields of the form. -/
def fieldNames : List String :=
  ["start", "end", "message", "replacements", "rule_id",
    "rule_description", "issue_type"]

end Issue

end ProseCheck

------------------------------------------------------------
-- Numbers and Texts
------------------------------------------------------------

namespace ProseCheck

namespace Json

/- The integer of a number with a binary point, if it has one. -/
def integerOfFloat
    (x : Binary64) : Except FieldFault Int :=
  match x, x.integer? with
  | .finite _ _ _, some n =>
      if n.natAbs < Nat.pow 2 63 then .ok n
      else .error .tooLarge
  | .finite _ _ _, none => .error .fractional
  | _, _ => .error .notFinite

/- The integer that a field holds in one of its spellings. -/
def integerField : Json → Except FieldFault Int
  | .int n => .ok n
  | .bool b => .ok (if b then 1 else 0)
  | .float x => integerOfFloat x
  | .str s =>
      match fieldNumeral? (Text.ofString s) with
      | some n => .ok n
      | none => .error .unreadableInteger
  | _ => .error .notInteger

/- The offset that a field holds in one of its spellings. -/
def offsetField
    (v : Json) : Except FieldFault Nat :=
  match integerField v with
  | .ok n =>
      if n < 0 then .error .negative else .ok n.toNat
  | .error f => .error f

/- What is shown of a field, without its blank ends. -/
def textField
    (v : Json) : String :=
  strip (v.orElse (.str "")).shown

/- What is shown of the items of a list, or of a single value. -/
def shownItems : Json → List String
  | .null => []
  | .arr items =>
      (items.map shown).filter (fun s => !s.isEmpty)
  | v => [v.shown]

end Json

end ProseCheck

------------------------------------------------------------
-- Reading a Form
------------------------------------------------------------

namespace ProseCheck

namespace Issue

/- Read a field that has to be there. -/
def required
    {α : Type}
    (fields : List (String × Json))
    (name : String)
    (read : Json → Except FieldFault α) :
    Except FieldError α :=
  match Json.lookup fields name with
  | none => .error ⟨some name, .missing⟩
  | some v =>
      match read v with
      | .ok a => .ok a
      | .error f => .error ⟨some name, f⟩

/-
  The description of the rule.  Where none is given, it is
  the name of the rule.
-/
def descriptionOf
    (fields : List (String × Json)) : String :=
  let given :=
    ((Json.lookup fields "rule_description").getD
      .null).textField
  if given.isEmpty then
    ((Json.lookup fields "rule_id").getD .null).textField
  else
    given

/- The error of a field, if it has one. -/
def errorOf
    {α : Type} : Except FieldError α → List FieldError
  | .ok _ => []
  | .error e => [e]

/- One error for each field that the form does not have. -/
def unknownFields
    (fields : List (String × Json)) : List FieldError :=
  (fields.filter (fun f => !fieldNames.contains f.1)).map
    (fun f => ⟨some f.1, .unknown⟩)

/-
  An issue, once its parts are known: it does not end before
  it starts, and it names its rule.
-/
def checked
    (i : Issue) : Except (List FieldError) Issue :=
  if i.stop < i.start then
    .error [⟨none, .endBeforeStart⟩]
  else if i.ruleId.isEmpty then
    .error [⟨none, .noRule⟩]
  else
    .ok i

/-
  The issue that the fields of an object describe, or every
  error in them.
-/
def ofFields
    (fields : List (String × Json)) :
    Except (List FieldError) Issue :=
  let text : Json → Except FieldFault String :=
    fun v => .ok v.textField
  let start := required fields "start" Json.offsetField
  let stop := required fields "end" Json.offsetField
  let message := required fields "message" text
  let rule := required fields "rule_id" text
  let unknown := unknownFields fields
  match start, stop, message, rule, unknown with
  | .ok start, .ok stop, .ok message, .ok rule, [] =>
      checked
        { start, stop, message
          replacements :=
            ((Json.lookup fields "replacements").getD
              .null).shownItems
          ruleId := rule
          ruleDescription := descriptionOf fields
          issueType :=
            match Json.lookup fields "issue_type" with
            | some v => v.textField
            | none => "unknown" }
  | start, stop, message, rule, unknown =>
      .error
        (errorOf start ++ errorOf stop ++
          errorOf message ++ errorOf rule ++ unknown)

end Issue

end ProseCheck
