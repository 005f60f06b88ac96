import ProseCheck.Json.Value
import ProseCheck.Number.Decimal

/-
  This file writes JSON values in their compact form.

  Key definitions include:
    * `Json.escape`
    * `Json.compact`
-/

------------------------------------------------------------
-- Strings
------------------------------------------------------------

namespace ProseCheck

namespace Json

/- Four hexadecimal digits after the mark of an escape. -/
def escapeUnit
    (n : Nat) : List Char :=
  '\\' :: 'u' ::
    (padLeft 4 (String.ofList (Nat.toDigits 16 n))).toList

/- One character of a string. -/
def escapeChar
    (c : Char) : List Char :=
  if c = '"' ∨ c = '\\' then ['\\', c]
  else if c = '\n' then ['\\', 'n']
  else if c.toNat < 0x20 then escapeUnit c.toNat
  else [c]

/- A string between quotes. -/
def escape
    (s : String) : String :=
  "\"" ++ String.ofList (s.toList.flatMap escapeChar) ++ "\""

end Json

end ProseCheck

------------------------------------------------------------
-- Values
------------------------------------------------------------

namespace ProseCheck

namespace Json

/- A number of the binary64 format. -/
def compactFloat
    (x : Binary64) : String :=
  match x with
  | .nan => "NaN"
  | .infinite s => if s then "-Infinity" else "Infinity"
  | .finite _ _ _ => x.display

mutual

/- The compact form of a value. -/
def compact : Json → String
  | .null => "null"
  | .bool true => "true"
  | .bool false => "false"
  | .int n => toString n
  | .float x => compactFloat x
  | .str s => escape s
  | .arr items => "[" ++ compactItems items ++ "]"
  | .obj fields => "\x7b" ++ compactFields fields ++ "\x7d"

/- The items of a list, with commas between them. -/
def compactItems : List Json → String
  | [] => ""
  | v :: vs =>
      compact v ++
        (if vs.isEmpty then "" else ",") ++ compactItems vs

/- The fields of an object, with commas between them. -/
def compactFields : List (String × Json) → String
  | [] => ""
  | f :: fs =>
      compactField f ++
        (if fs.isEmpty then "" else ",") ++ compactFields fs

/- One field of an object. -/
def compactField : String × Json → String
  | (name, v) => escape name ++ ":" ++ compact v

end

end Json

end ProseCheck
