import ProseCheck.Json.Shown

/-
  This file defines what may be wrong with the fields of an
  object that a form describes, and how it is reported.

  Key definitions include:
    * `FieldFault`
    * `FieldError`
    * `FieldError.summary`
-/

------------------------------------------------------------
-- Faults
------------------------------------------------------------

namespace ProseCheck

/- What may be wrong with a field, or with all of a form. -/
inductive FieldFault where
  | missing
  | unknown
  | notInteger
  | unreadableInteger
  | fractional
  | notFinite
  | tooLarge
  | negative
  | notList
  | endBeforeStart
  | noRule
deriving DecidableEq, Repr

namespace FieldFault

/- The kind under which a fault is reported. -/
def kind : FieldFault → String
  | .missing => "missing"
  | .unknown => "extra_forbidden"
  | .notInteger => "int_type"
  | .unreadableInteger => "int_parsing"
  | .fractional => "int_from_float"
  | .notFinite => "finite_number"
  | .tooLarge => "int_parsing_size"
  | .negative => "greater_than_equal"
  | .notList => "value_error"
  | .endBeforeStart => "value_error"
  | .noRule => "value_error"

/- The wording of a fault. -/
def message : FieldFault → String
  | .missing => "Field required"
  | .unknown => "Extra inputs are not permitted"
  | .notInteger => "Input should be a valid integer"
  | .unreadableInteger =>
      "Input should be a valid integer, " ++
        "unable to parse string as an integer"
  | .fractional =>
      "Input should be a valid integer, " ++
        "got a number with a fractional part"
  | .notFinite => "Input should be a finite number"
  | .tooLarge =>
      "Unable to parse input string as an integer, " ++
        "exceeded maximum size"
  | .negative =>
      "Input should be greater than or equal to 0"
  | .notList => "Value error, expected a list of strings"
  | .endBeforeStart =>
      "Value error, end must not precede start"
  | .noRule => "Value error, rule_id must not be empty"

end FieldFault

end ProseCheck

------------------------------------------------------------
-- Errors
------------------------------------------------------------

namespace ProseCheck

/-
  A fault with the name of the field that has it.  A fault
  of the form as a whole has no name.
-/
structure FieldError where
  field : Option String
  fault : FieldFault
deriving DecidableEq, Repr

namespace FieldError

/- Errors in one line, each by its field and its kind. -/
def summary
    (errors : List FieldError) : String :=
  String.intercalate "; "
    (errors.map
      (fun e => e.field.getD "" ++ ": " ++ e.fault.kind))

end FieldError

end ProseCheck
