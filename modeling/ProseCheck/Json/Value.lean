import ProseCheck.Number.Binary64

/-
  This file defines JSON values.  Whole numbers are kept
  apart from other numbers, and the fields of an object stay
  in the order in which they were written.

  Key definitions include:
    * `Json`
    * `Json.field?`
    * `Json.isEmpty`
-/

------------------------------------------------------------
-- Values
------------------------------------------------------------

namespace ProseCheck

/- A JSON value. -/
inductive Json where
  | null
  | bool (b : Bool)
  | int (n : Int)
  | float (x : Binary64)
  | str (s : String)
  | arr (items : List Json)
  | obj (fields : List (String × Json))
deriving BEq, Repr, Inhabited

namespace Json

/- The value of the first field with a name. -/
def lookup
    (fields : List (String × Json))
    (name : String) : Option Json :=
  (fields.find? (fun f => f.1 == name)).map (·.2)

/- The value of a field of an object. -/
def field?
    (name : String) : Json → Option Json
  | .obj fields => lookup fields name
  | _ => none

/-
  Set a field.  One that is there already keeps its place
  and takes the new value.
-/
def setField
    (name : String)
    (value : Json) : List (String × Json) →
    List (String × Json)
  | [] => [(name, value)]
  | f :: fs =>
      if f.1 == name then (name, value) :: fs
      else f :: setField name value fs

/-
  Whether a value stands for nothing: null, false, a zero,
  or an empty string, list or object.
-/
def isEmpty : Json → Bool
  | .null => true
  | .bool b => !b
  | .int n => n == 0
  | .float x => x.isZero
  | .str s => s.isEmpty
  | .arr items => items.isEmpty
  | .obj fields => fields.isEmpty

/- The value itself, or another one where it is empty. -/
def orElse
    (v default : Json) : Json :=
  if v.isEmpty then default else v

end Json

end ProseCheck
