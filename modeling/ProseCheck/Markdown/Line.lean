import ProseCheck.Text.Blank

/-
  This file cuts a Markdown source into lines.  A line keeps
  where its content begins and at which column, as containers
  move both while they look for the blocks inside of them.

  Key definitions include:
    * `normalize`
    * `Line`
    * `scanLines`
    * `Block`
    * `Block.content`
-/

------------------------------------------------------------
-- Normal Form
------------------------------------------------------------

namespace ProseCheck

namespace Markdown

/-
  The source with one kind of line break, and with no null
  character.
-/
def normalize : Text → Text
  | [] => []
  | '\r' :: '\n' :: cs => '\n' :: normalize cs
  | c :: cs =>
      (if c = '\r' then '\n'
        else if c.toNat = 0 then Char.ofNat 0xFFFD
        else c) :: normalize cs

/- Whether a character indents. -/
def isIndent
    (c : Char) : Bool :=
  c == ' ' || c == '\t'

/-
  Whether a character is removed from the ends of a block's
  content.  Separators of fields and lines that are not line
  breaks stay.
-/
def isTrimmed
    (c : Char) : Bool :=
  isBlank c && !(0x1C ≤ c.toNat && c.toNat ≤ 0x1F) &&
    c.toNat != 0x85

/- The mark of code. -/
def tick : Char :=
  Char.ofNat 0x60

end Markdown

end ProseCheck

------------------------------------------------------------
-- Lines
------------------------------------------------------------

namespace ProseCheck

namespace Markdown

/-
  A line of the source, between the offsets `start` and
  `stop`.  The first `indent` characters of it are spaces
  and tabs, and they reach to the column `column`.  A column
  below zero marks a line that continues a paragraph.  The
  start lies at the column `base`, which decides how wide a
  tab is.
-/
structure Line where
  start : Nat
  stop : Nat
  indent : Nat := 0
  column : Int := 0
  base : Int := 0
deriving DecidableEq, Repr, Inhabited

namespace Line

/- The offset of the first character of the content. -/
def first
    (l : Line) : Nat :=
  l.start + l.indent

/- Whether a line has no content. -/
def isEmpty
    (l : Line) : Bool :=
  l.stop ≤ l.first

end Line

/- The column after a tab at a column. -/
def afterTab
    (column : Int) : Int :=
  column + (4 - column % 4)

/-
  The lines of a text that begins at `offset`.  The current
  line begins at `start`, and while `leading` holds nothing
  of its content was seen.  A last line without content is
  no line.
-/
def scanLines
    (offset start indent : Nat)
    (column : Int)
    (leading : Bool) : Text → List Line
  | [] =>
      if leading then []
      else [⟨start, offset, indent, column, 0⟩]
  | c :: cs =>
      if leading && isIndent c then
        scanLines (offset + 1) start (indent + 1)
          (if c = '\t' then afterTab column else column + 1)
          true cs
      else if c = '\n' then
        ⟨start, offset, indent, column, 0⟩ ::
          scanLines (offset + 1) (offset + 1) 0 0 true cs
      else
        scanLines (offset + 1) start indent column false cs

end Markdown

end ProseCheck

------------------------------------------------------------
-- Blocks
------------------------------------------------------------

namespace ProseCheck

namespace Markdown

/-
  What the search for blocks sees of a document.  Content
  that belongs to the current container stands at the column
  `indent` or to the right of it, and no paragraph goes on
  at the line `limit` or below.  Inside of a list,
  `listIndent` is the column of the list.
-/
structure Block where
  source : Array Char
  lines : Array Line
  limit : Nat
  indent : Int := 0
  listIndent : Int := -1

namespace Block

/- A line, or the empty line at the end of the source. -/
def line
    (b : Block)
    (n : Nat) : Line :=
  b.lines.getD n ⟨b.source.size, b.source.size, 0, 0, 0⟩

/- The character at an offset. -/
def char?
    (b : Block)
    (offset : Nat) : Option Char :=
  b.source[offset]?

/- The characters between two offsets. -/
def slice
    (b : Block)
    (start stop : Nat) : Text :=
  (b.source.extract start stop).toList

/- Whether a line has no content. -/
def isEmpty
    (b : Block)
    (n : Nat) : Bool :=
  (b.line n).isEmpty

/- Whether a line is indented as far as code is. -/
def isCode
    (b : Block)
    (n : Nat) : Bool :=
  4 ≤ (b.line n).column - b.indent

/- The content of a line. -/
def text
    (b : Block)
    (n : Nat) : Text :=
  b.slice (b.line n).first (b.line n).stop

/- The first character at the content of a line. -/
def head?
    (b : Block)
    (n : Nat) : Option Char :=
  b.char? (b.line n).first

/- The first line from a line on that has content. -/
def skipEmptyFrom
    (b : Block)
    (n : Nat) : Nat → Nat
  | 0 => n
  | steps + 1 =>
      if n < b.limit ∧ b.isEmpty n = true then
        skipEmptyFrom b (n + 1) steps
      else
        n

/- The first line from a line on that has content. -/
def skipEmpty
    (b : Block)
    (n : Nat) : Nat :=
  b.skipEmptyFrom n (b.limit - n)

/-
  What is left of a line after `indent` columns, where
  `before` characters and `done` columns are gone already.
-/
def dropIndent
    (l : Line)
    (indent : Int)
    (before : Nat)
    (done : Int) : Text → Text
  | [] =>
      List.replicate (done - indent).toNat ' '
  | c :: cs =>
      if indent ≤ done then
        List.replicate (done - indent).toNat ' ' ++ c :: cs
      else if c = '\t' then
        dropIndent l indent (before + 1)
          (done + (4 - (done + l.base) % 4)) cs
      else if c = ' ' then
        dropIndent l indent (before + 1) (done + 1) cs
      else if before < l.indent then
        dropIndent l indent (before + 1) (done + 1) cs
      else
        c :: cs

/- The content of a line inside of the current container. -/
def contentLine
    (b : Block)
    (n : Nat) : Text :=
  let l := b.line n
  dropIndent l b.indent 0 0 (b.slice l.start l.stop)

/- The content of the lines from `first` up to `past`. -/
def content
    (b : Block)
    (first past : Nat) : Text :=
  Text.trim isTrimmed
    (List.intercalate ['\n']
      ((List.range' first (past - first)).map b.contentLine))

end Block

end Markdown

end ProseCheck
