import ProseCheck.Markdown.Address
import ProseCheck.Markdown.Block.Starts
import ProseCheck.Markdown.LinkParts

/-
  This file reads definitions of link references: a label, a
  colon, a destination and, if there is one, a title.

  Key definitions include:
    * `labelKey`
    * `definition?`
    * `Block.definition?`
-/

------------------------------------------------------------
-- Labels
------------------------------------------------------------

namespace ProseCheck

namespace Markdown

/-
  What two labels have in common when they name the same
  reference: neither case nor the width of blanks matters.
-/
def labelKey
    (label : Text) : Text :=
  label.strip.collapse.caseKey

/- The number of characters before the end of a label. -/
def labelLength : Text → Option Nat
  | [] => none
  | '\\' :: _ :: cs => (labelLength cs).map (· + 2)
  | c :: cs =>
      if c = '[' then none
      else if c = ']' then some 0
      else (labelLength cs).map (· + 1)

end Markdown

end ProseCheck

------------------------------------------------------------
-- Definitions
------------------------------------------------------------

namespace ProseCheck

namespace Markdown

/-
  A label that is defined, and the number of line breaks
  inside of its definition.
-/
structure Definition where
  label : Text
  breaks : Nat
deriving DecidableEq, Repr

/- The number of line breaks in a text. -/
def breakCount
    (t : Text) : Nat :=
  t.count '\n'

/- A line of a text with the break at its end. -/
def firstLine
    (t : Text) : Text :=
  t.take ((t.takeWhile (· != '\n')).length + 1)

/- Whether nothing but white space follows on the line. -/
def isLineEnd
    (t : Text) : Bool :=
  ((t.dropWhile isIndent).head?).all (· == '\n')

/- Whether a character is white space or a line break. -/
def isGap
    (c : Char) : Bool :=
  isIndent c || c == '\n'

/-
  The title behind a destination, with the white space before
  it.  A title that stands on one line has to be set off.
-/
def titleAfter?
    (rest : Text) : Option (Nat × LinkPart) :=
  let gap := (rest.takeWhile isGap).length
  match linkTitle? (rest.drop gap) with
  | none => none
  | some part =>
      if gap = 0 ∧
          breakCount ((rest.drop gap).take part.length) = 0 then
        none
      else
        some (gap, part)

/-
  The number of line breaks before the end of a definition,
  counted from the end of its destination.
-/
def definitionEnd?
    (rest : Text) : Option Nat :=
  match titleAfter? rest with
  | some (gap, part) =>
      if isLineEnd (rest.drop (gap + part.length)) then
        some (breakCount (rest.take (gap + part.length)))
      else if part.content ≠ [] ∧ isLineEnd rest = true then
        some 0
      else
        none
  | none => if isLineEnd rest then some 0 else none

/- The definition that is all there is at the start of a text. -/
def definition?
    (t : Text) : Option Definition := do
  if t.head? ≠ some '[' then none
  let length ← labelLength t.tail
  let key := labelKey (t.tail.take length)
  if key.isEmpty ∨ t[length + 2]? ≠ some ':' then none
  let before := t.drop (length + 3)
  let gap := (before.takeWhile isGap).length
  let rest := before.drop gap
  let line := firstLine rest
  let part ← linkDestination? line
  if !isSafeAddress (unescape part.content) then none
  let after :=
    if part.length = line.length then []
    else rest.drop part.length
  let breaks ← definitionEnd? after
  return ⟨key, breakCount (t.take (length + 3 + gap)) + breaks⟩

end Markdown

end ProseCheck

------------------------------------------------------------
-- Definitions in a Document
------------------------------------------------------------

namespace ProseCheck

namespace Markdown

namespace Block

/- The content of a line, with the break at its end. -/
def textWithBreak
    (b : Block)
    (n : Nat) : Text :=
  b.slice (b.line n).first ((b.line n).stop + 1)

/- The lines from `n` on that can continue a definition. -/
def continuation
    (b : Block)
    (n : Nat) : Nat → List Text
  | 0 => []
  | steps + 1 =>
      if b.limit ≤ n ∨ b.isEmpty n = true then
        []
      else if b.isCode n ∨ (b.line n).column < 0 ∨
          b.endsQuote n = false then
        b.textWithBreak n :: b.continuation (n + 1) steps
      else
        []

/-
  The label that is defined on a line, and the line after the
  definition.
-/
def definition?
    (b : Block)
    (n : Nat) : Option (Text × Nat) :=
  if b.isCode n ∨ b.head? n ≠ some '[' then
    none
  else
    let more := b.continuation (n + 1) (b.limit - n)
    let t := b.textWithBreak n ++ more.flatten
    (Markdown.definition? t).map
      (fun d => (d.label, n + 1 + min d.breaks more.length))

end Block

end Markdown

end ProseCheck
