import ProseCheck.Markdown.Block.Html

/-
  This file recognises the blocks that show on their first
  line, and the lines that end a block of another kind.

  Key definitions include:
    * `Block.fence?`
    * `Block.isRule`
    * `Block.headingLevel?`
    * `ListMarker`
    * `Block.startsList`
    * `Block.endsParagraph`
-/

------------------------------------------------------------
-- Fences
------------------------------------------------------------

namespace ProseCheck

namespace Markdown

namespace Block

/- The length of the run of one character at the start. -/
def runLength
    (c : Char)
    (t : Text) : Nat :=
  (t.takeWhile (· == c)).length

/- The mark of the code fence on a line, and its length. -/
def fence?
    (b : Block)
    (n : Nat) : Option (Char × Nat) :=
  if b.isCode n then
    none
  else
    match b.text n with
    | [] => none
    | c :: cs =>
        let length := runLength c (c :: cs)
        let info := (c :: cs).drop length
        if (c = '~' ∨ c = tick) ∧ 3 ≤ length ∧
            ¬ (c = tick ∧ info.contains tick = true) then
          some (c, length)
        else
          none

/-
  The first line from `n` on that does not belong to the
  content of a fence, and whether it closes the fence.  Where
  the source ends in an empty line, the fence ends before it.
-/
def fenceEndFrom
    (b : Block)
    (mark : Char)
    (length stop n : Nat) : Nat → Nat × Bool
  | 0 => (n, false)
  | steps + 1 =>
      let l := b.line n
      if stop ≤ n then
        (n, false)
      else if l.isEmpty = false ∧ l.column < b.indent then
        (n, false)
      else
        let t := b.text n
        if b.head? n = none then
          (n, false)
        else if t.head? = some mark ∧ b.isCode n = false ∧
            length ≤ runLength mark t ∧
            (t.drop (runLength mark t)).all isIndent = true then
          (n, true)
        else
          fenceEndFrom b mark length stop (n + 1) steps

end Block

end Markdown

end ProseCheck

------------------------------------------------------------
-- Rules, Quotes and Headings
------------------------------------------------------------

namespace ProseCheck

namespace Markdown

namespace Block

/- Whether a line is a thematic break. -/
def isRule
    (b : Block)
    (n : Nat) : Bool :=
  !b.isCode n &&
    match b.text n with
    | [] => false
    | c :: cs =>
        (c == '*' || c == '-' || c == '_') &&
          cs.all (fun d => d == c || isIndent d) &&
          3 ≤ (c :: cs).count c

/- Whether a line begins a quote. -/
def startsQuote
    (b : Block)
    (n : Nat) : Bool :=
  !b.isCode n && b.head? n == some '>'

/- The number of signs before the heading on a line. -/
def headingLevel?
    (b : Block)
    (n : Nat) : Option Nat :=
  if b.isCode n then
    none
  else
    let t := b.text n
    let level := runLength '#' t
    let rest := t.drop level
    if 1 ≤ level ∧ level ≤ 6 ∧
        (rest.head?.all isIndent) = true then
      some level
    else
      none

/- The text of a heading, without the signs that close it. -/
def headingText
    (t : Text) : Text :=
  let whole := t.trimEnd isIndent
  let open_ := whole.trimEnd (· == '#')
  Text.trim isTrimmed
    (if open_.getLast?.any isIndent then open_ else whole)

/- Whether a line begins a block of HTML that interrupts. -/
def startsHtml
    (b : Block)
    (n : Nat) : Bool :=
  !b.isCode n &&
    ((HtmlBlock.start? (b.text n)).any HtmlBlock.interrupts)

end Block

end Markdown

end ProseCheck

------------------------------------------------------------
-- List Markers
------------------------------------------------------------

namespace ProseCheck

namespace Markdown

/-
  The marker of a list item: the number of its characters,
  the last of them, and the number that it states, if any.
-/
structure ListMarker where
  length : Nat
  mark : Char
  number : Option Nat
deriving DecidableEq, Repr

namespace ListMarker

/- Whether a marker may end before a text. -/
def isFree
    (rest : Text) : Bool :=
  rest.head?.all isIndent

/- The marker of a numbered item at the start of a text. -/
def ordered?
    (t : Text) : Option ListMarker :=
  let ds := t.takeWhile Char.isDigit
  match t.drop ds.length with
  | c :: rest =>
      if (c = ')' ∨ c = '.') ∧ 1 ≤ ds.length ∧
          ds.length ≤ 9 ∧ isFree rest = true then
        some
          ⟨ds.length + 1, c,
            some (ds.foldl
              (fun n d => n * 10 + (d.toNat - 48)) 0)⟩
      else
        none
  | [] => none

/- The marker of an item without a number. -/
def bullet?
    (t : Text) : Option ListMarker :=
  match t with
  | c :: rest =>
      if (c = '*' ∨ c = '-' ∨ c = '+') ∧
          isFree rest = true then
        some ⟨1, c, none⟩
      else
        none
  | [] => none

/- The marker at the start of a text. -/
def start?
    (t : Text) : Option ListMarker :=
  (ordered? t).orElse fun _ => bullet? t

/- Whether two markers belong to one list. -/
def continues
    (m next : ListMarker) : Bool :=
  m.mark == next.mark &&
    m.number.isSome == next.number.isSome

end ListMarker

namespace Block

/-
  Whether a line that is indented below a list, but not far
  enough for its item, continues a paragraph.
-/
def isBetweenLists
    (b : Block)
    (n : Nat) : Bool :=
  let column := (b.line n).column
  0 ≤ b.listIndent && 4 ≤ column - b.listIndent &&
    column < b.indent

/- The marker of the list that a line begins. -/
def listMarker?
    (b : Block)
    (n : Nat) : Option ListMarker :=
  if b.isCode n || b.isBetweenLists n then none
  else ListMarker.start? (b.text n)

/-
  Whether a line begins a list.  Only a list that counts from
  one, and has a first item that is not empty, interrupts a
  paragraph.
-/
def startsList
    (b : Block)
    (inParagraph : Bool)
    (n : Nat) : Bool :=
  match b.listMarker? n with
  | none => false
  | some m =>
      if inParagraph && b.indent ≤ (b.line n).column then
        m.number.all (· == 1) &&
          !((b.text n).drop m.length).all isIndent
      else
        true

end Block

end Markdown

end ProseCheck

------------------------------------------------------------
-- Interruptions
------------------------------------------------------------

namespace ProseCheck

namespace Markdown

namespace Block

/- Whether a line ends the list item before it. -/
def endsItem
    (b : Block)
    (n : Nat) : Bool :=
  (b.fence? n).isSome || b.startsQuote n || b.isRule n

/- Whether a line ends the quote before it. -/
def endsQuote
    (b : Block)
    (n : Nat) : Bool :=
  b.endsItem n || b.startsList false n || b.startsHtml n ||
    (b.headingLevel? n).isSome

/- Whether a line ends the paragraph before it. -/
def endsParagraph
    (b : Block)
    (n : Nat) : Bool :=
  b.endsItem n || b.startsList true n || b.startsHtml n ||
    (b.headingLevel? n).isSome

/-
  The first line from `n` on that does not continue the
  paragraph before it.  An indented line, and one that a
  quote took in, always continue it.
-/
def paragraphEndFrom
    (b : Block)
    (n : Nat) : Nat → Nat
  | 0 => n
  | steps + 1 =>
      let column := (b.line n).column
      if b.limit ≤ n ∨ b.isEmpty n = true then
        n
      else if 3 < column - b.indent ∨ column < 0 then
        paragraphEndFrom b (n + 1) steps
      else if b.endsParagraph n then
        n
      else
        paragraphEndFrom b (n + 1) steps

end Block

end Markdown

end ProseCheck
