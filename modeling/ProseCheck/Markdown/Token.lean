import ProseCheck.Text.Basic

/-
  This file defines the tokens of a Markdown document.  A
  block token carries the lines that it stands on; the
  tokens inside of a block carry no place at all.

  Key definitions include:
    * `Token`
-/

------------------------------------------------------------
-- Tokens
------------------------------------------------------------

namespace ProseCheck

/-
  A token of a document.  The nesting is 1 where a container
  opens, -1 where it closes, and 0 elsewhere.  The lines are
  the first one and the one after the last.
-/
structure Token where
  name : String
  nesting : Int := 0
  lines : Option (Int × Int) := none
  content : Text := []
  markup : Text := []
  info : String := ""
  children : List Token := []
deriving BEq, Repr, Inhabited

end ProseCheck
