import ProseCheck.Text.Basic

/-
  This file cuts a text into rows.  A row ends at any of the
  characters that end a line in Unicode, and not only at the
  ones that end a line of a document.

  Key definitions include:
    * `endsRow`
    * `Text.rows`
-/

------------------------------------------------------------
-- Rows
------------------------------------------------------------

namespace ProseCheck

/- The characters that end a row. -/
def endsRow
    (c : Char) : Bool :=
  let n := c.toNat
  (0x0A ≤ n && n ≤ 0x0D) || (0x1C ≤ n && n ≤ 0x1E) ||
    n == 0x85 || n == 0x2028 || n == 0x2029

/- Put a character in front of the first of some rows. -/
def consRow
    (c : Char) : List Text → List Text
  | [] => [[c]]
  | row :: rows => (c :: row) :: rows

/-
  The rows of a text, each with the characters that end it.
  A carriage return and a line feed end a row together.
-/
def Text.rows : Text → List Text
  | [] => []
  | '\r' :: '\n' :: cs => ['\r', '\n'] :: rows cs
  | c :: cs =>
      if endsRow c then [c] :: rows cs
      else consRow c (rows cs)

end ProseCheck
