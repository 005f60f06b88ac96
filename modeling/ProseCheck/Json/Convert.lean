import ProseCheck.Json.Shown
import ProseCheck.Number.Numeral

/-
  This file converts JSON values to integers and to lists.

  Key definitions include:
    * `ConversionError`
    * `Json.toInteger`
    * `Json.toItems`
-/

------------------------------------------------------------
-- Errors
------------------------------------------------------------

namespace ProseCheck

/- Why a value cannot be converted. -/
inductive ConversionError where
  | notNumber (typeName : String)
  | notList (typeName : String)
  | unreadable (text : String)
  | tooLong (digits : Nat)
  | notANumber
  | infinite
deriving DecidableEq, Repr

namespace ConversionError

/- The wording of the error. -/
def message : ConversionError → String
  | .notNumber typeName =>
      "int() argument must be a string, a bytes-like " ++
        "object or a real number, not '" ++ typeName ++ "'"
  | .notList typeName =>
      "'" ++ typeName ++ "' object is not iterable"
  | .unreadable text =>
      "invalid literal for int() with base 10: " ++
        String.ofList
          ((Text.ofString text).quoted.take 200)
  | .tooLong digits =>
      limitMessage
        (": value has " ++ toString digits ++ " digits")
  | .notANumber => "cannot convert float NaN to integer"
  | .infinite => "cannot convert float infinity to integer"

end ConversionError

end ProseCheck

------------------------------------------------------------
-- Conversions
------------------------------------------------------------

namespace ProseCheck

namespace Json

/- The name of the type of a value. -/
def typeName : Json → String
  | .null => "NoneType"
  | .bool _ => "bool"
  | .int _ => "int"
  | .float _ => "float"
  | .str _ => "str"
  | .arr _ => "list"
  | .obj _ => "dict"

/- Why a text does not stand for an integer. -/
def textFault
    (s : String) : ConversionError :=
  match excessDigits? (Text.ofString s) with
  | some digits => .tooLong digits
  | none => .unreadable s

/- The integer that a value stands for, cut toward zero. -/
def toInteger : Json → Except ConversionError Int
  | .int n => .ok n
  | .bool b => .ok (if b then 1 else 0)
  | .float .nan => .error .notANumber
  | .float x =>
      match x.truncate? with
      | some n => .ok n
      | none => .error .infinite
  | .str s =>
      match numeral? (Text.ofString s) with
      | some n => .ok n
      | none => .error (textFault s)
  | v => .error (.notNumber v.typeName)

/- The items of a value: of a list, a string or an object. -/
def toItems : Json → Except ConversionError (List Json)
  | .arr items => .ok items
  | .str s =>
      .ok (s.toList.map (fun c => .str (String.ofList [c])))
  | .obj fields => .ok (fields.map (fun f => .str f.1))
  | v => .error (.notList v.typeName)

end Json

end ProseCheck
