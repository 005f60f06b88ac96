import ProseCheck.Json.Value
import ProseCheck.Number.Decimal
import ProseCheck.Text.Printable

/-
  This file writes JSON values as text for people: strings
  as they are, and inside of lists and objects in quotes.

  Key definitions include:
    * `Text.quoted`
    * `Json.shown`
-/

------------------------------------------------------------
-- Quoted Strings
------------------------------------------------------------

namespace ProseCheck

namespace Text

/- The hexadecimal digits of a number, up to a width. -/
def hex
    (width n : Nat) : Text :=
  (padLeft width (String.ofList (Nat.toDigits 16 n))).toList

/- One character between quotes of the given kind. -/
def quotedChar
    (quote c : Char) : Text :=
  if c = quote ∨ c = '\\' then ['\\', c]
  else if c = '\t' then ['\\', 't']
  else if c = '\n' then ['\\', 'n']
  else if c = '\r' then ['\\', 'r']
  else if isPrintable c then [c]
  else if c.toNat ≤ 0xFF then '\\' :: 'x' :: hex 2 c.toNat
  else if c.toNat ≤ 0xFFFF then
    '\\' :: 'u' :: hex 4 c.toNat
  else '\\' :: 'U' :: hex 8 c.toNat

/-
  A text in single quotes, or in double ones where it holds
  single quotes only.
-/
def quoted
    (t : Text) : Text :=
  let quote :=
    if t.contains '\'' && !t.contains '"' then '"' else '\''
  quote :: t.flatMap (quotedChar quote) ++ [quote]

end Text

end ProseCheck

------------------------------------------------------------
-- Shown Values
------------------------------------------------------------

namespace ProseCheck

namespace Json

mutual

/- A value as it is shown inside of another one. -/
def inner : Json → String
  | .null => "None"
  | .bool true => "True"
  | .bool false => "False"
  | .int n => toString n
  | .float x => x.display
  | .str s => (Text.ofString s).quoted.asString
  | .arr items => "[" ++ innerItems items ++ "]"
  | .obj fields => "\x7b" ++ innerFields fields ++ "\x7d"

/- The items of a list, with commas between them. -/
def innerItems : List Json → String
  | [] => ""
  | v :: vs =>
      inner v ++
        (if vs.isEmpty then "" else ", ") ++ innerItems vs

/- The fields of an object, with commas between them. -/
def innerFields : List (String × Json) → String
  | [] => ""
  | f :: fs =>
      innerField f ++
        (if fs.isEmpty then "" else ", ") ++ innerFields fs

/- One field of an object: its quoted name and its value. -/
def innerField : String × Json → String
  | (name, v) =>
      (Text.ofString name).quoted.asString ++ ": " ++ inner v

end

/- A value as it is shown on its own. -/
def shown : Json → String
  | .str s => s
  | v => inner v

end Json

end ProseCheck
