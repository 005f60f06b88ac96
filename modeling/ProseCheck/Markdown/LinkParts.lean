import ProseCheck.Text.Basic

/-
  This file reads the two parts that stand behind the text
  of a Markdown link: a destination and a title.  Both are
  read from the start of a text, and the number of characters
  that they take is part of the answer.

  Key definitions include:
    * `LinkPart`
    * `linkDestination?`
    * `linkTitle?`
-/

------------------------------------------------------------
-- Parts
------------------------------------------------------------

namespace ProseCheck

/-
  What a part says, before its escapes are resolved, and the
  number of characters that it takes with its delimiters.
-/
structure LinkPart where
  content : Text
  length : Nat
deriving DecidableEq, Repr

end ProseCheck

------------------------------------------------------------
-- Destinations
------------------------------------------------------------

namespace ProseCheck

/- The deepest nesting of parentheses in a destination. -/
def maxParens : Nat :=
  32

/-
  The number of characters up to the closing angle bracket,
  itself included.
-/
def angleLength : Text → Option Nat
  | [] => none
  | '\\' :: _ :: cs => (angleLength cs).map (· + 2)
  | c :: cs =>
      if c = '>' then some 1
      else if c = '\n' ∨ c = '<' then none
      else (angleLength cs).map (· + 1)

/- Whether a character ends a destination without brackets. -/
def endsDestination
    (c : Char) : Bool :=
  c == ' ' || c.toNat < 0x20 || c.toNat == 0x7F

/-
  The number of characters of a destination without angle
  brackets, where `level` parentheses are open.
-/
def bareLength
    (level : Nat) : Text → Option Nat
  | [] => if level = 0 then some 0 else none
  | '\\' :: c :: cs =>
      if c = ' ' then
        if level = 0 then some 0 else none
      else
        (bareLength level cs).map (· + 2)
  | c :: cs =>
      if endsDestination c then
        if level = 0 then some 0 else none
      else if c = '(' then
        if level = maxParens then none
        else (bareLength (level + 1) cs).map (· + 1)
      else if c = ')' then
        if level = 0 then some 0
        else (bareLength (level - 1) cs).map (· + 1)
      else
        (bareLength level cs).map (· + 1)

/-
  The destination at the start of a text.  One in angle
  brackets may be empty, any other may not.
-/
def linkDestination? : Text → Option LinkPart
  | '<' :: cs =>
      (angleLength cs).map
        (fun n => ⟨cs.take (n - 1), n + 1⟩)
  | cs =>
      match bareLength 0 cs with
      | none => none
      | some 0 => none
      | some n => some ⟨cs.take n, n⟩

end ProseCheck

------------------------------------------------------------
-- Titles
------------------------------------------------------------

namespace ProseCheck

/-
  The number of characters up to the closing mark of a title,
  itself included.
-/
def titleLength
    (close : Char) : Text → Option Nat
  | [] => none
  | '\\' :: _ :: cs => (titleLength close cs).map (· + 2)
  | c :: cs =>
      if c = close then some 1
      else if c = '(' ∧ close = ')' then none
      else (titleLength close cs).map (· + 1)

/- The mark that closes a title of the given first character. -/
def titleClose?
    (c : Char) : Option Char :=
  if c = '"' ∨ c = '\'' then some c
  else if c = '(' then some ')'
  else none

/- The title at the start of a text. -/
def linkTitle? : Text → Option LinkPart
  | [] => none
  | c :: cs =>
      match titleClose? c with
      | none => none
      | some close =>
          (titleLength close cs).map
            (fun n => ⟨cs.take (n - 1), n + 1⟩)

end ProseCheck
