import ProseCheck.Markdown.Block.Definition
import ProseCheck.Markdown.Token

/-
  This file finds the blocks of a document.  Containers are
  searched with the rest of their lines, to a fixed depth;
  the lines of a container below that depth give nothing.

  Key definitions include:
    * `Blocks`
    * `Block.quote?`
    * `Block.list?`
    * `Block.parse`
-/

------------------------------------------------------------
-- Results
------------------------------------------------------------

namespace ProseCheck

namespace Markdown

/-
  The tokens of some blocks, the labels that are defined in
  them, and the line after the last of them.
-/
structure Blocks where
  tokens : List Token
  labels : List Text
  line : Nat

/- A search for the blocks between two lines. -/
abbrev Search :=
  Block → Nat → Nat → Blocks

namespace Blocks

/- One token that stands on some lines. -/
def leaf
    (name : String)
    (first past : Nat) : Blocks :=
  ⟨[{ name := name, lines := some (first, past) }], [], past⟩

/- A token that closes a container. -/
def closing
    (name : String) : Token :=
  { name := name, nesting := -1 }

/- A token that opens a container on some lines. -/
def opening
    (name : String)
    (first past : Nat) : Token :=
  { name := name, nesting := 1, lines := some (first, past) }

/- A block whose content is text with inline markup. -/
def prose
    (name : String)
    (content : Text)
    (first past : Nat) : Blocks :=
  ⟨[opening (name ++ "_open") first past,
    { name := "inline", content := content },
    closing (name ++ "_close")], [], past⟩

end Blocks

end Markdown

end ProseCheck

------------------------------------------------------------
-- Blocks without Blocks Inside
------------------------------------------------------------

namespace ProseCheck

namespace Markdown

namespace Block

/-
  The line after the last line of code from `n` on, where
  `last` is the line after the last one found so far.
-/
def codeEndFrom
    (b : Block)
    (stop last n : Nat) : Nat → Nat
  | 0 => last
  | steps + 1 =>
      if stop ≤ n then last
      else if b.isEmpty n then
        codeEndFrom b stop last (n + 1) steps
      else if b.isCode n then
        codeEndFrom b stop (n + 1) (n + 1) steps
      else
        last

/- Code that is indented. -/
def code?
    (b : Block)
    (n stop : Nat) : Option Blocks :=
  if b.isCode n then
    some
      (Blocks.leaf "code_block" n
        (b.codeEndFrom stop (n + 1) (n + 1) (stop - n)))
  else
    none

/- Code between fences. -/
def fenced?
    (b : Block)
    (n stop : Nat) : Option Blocks :=
  (b.fence? n).map fun (mark, length) =>
    let (past, closed) :=
      b.fenceEndFrom mark length stop (n + 1) (stop - n)
    Blocks.leaf "fence" n (if closed then past + 1 else past)

/- A thematic break. -/
def rule?
    (b : Block)
    (n : Nat) : Option Blocks :=
  if b.isRule n then some (Blocks.leaf "hr" n (n + 1))
  else none

/- A heading behind signs. -/
def heading?
    (b : Block)
    (n : Nat) : Option Blocks :=
  (b.headingLevel? n).map fun level =>
    Blocks.prose "heading"
      (headingText ((b.text n).drop level)) n (n + 1)

/- The line after the last one of a block of HTML. -/
def htmlEndFrom
    (b : Block)
    (kind : HtmlBlock)
    (stop n : Nat) : Nat → Nat
  | 0 => n
  | steps + 1 =>
      if stop ≤ n ∨ (b.line n).column < b.indent then n
      else
        let t := b.text n
        if kind.endsAt t then
          if t.isEmpty then n else n + 1
        else
          htmlEndFrom b kind stop (n + 1) steps

/- A block of HTML. -/
def html?
    (b : Block)
    (n stop : Nat) : Option Blocks :=
  if b.isCode n then
    none
  else
    (HtmlBlock.start? (b.text n)).map fun kind =>
      Blocks.leaf "html_block" n
        (if kind.endsAt (b.text n) then n + 1
          else b.htmlEndFrom kind stop (n + 1) (stop - n))

/- Whether a line underlines a heading. -/
def isUnderline
    (b : Block)
    (n : Nat) : Bool :=
  match b.text n with
  | c :: cs =>
      (c == '-' || c == '=') &&
        (cs.dropWhile (· == c)).all isIndent
  | [] => false

/-
  The line from `n` on that underlines the paragraph before
  it, if there is one.
-/
def underlineFrom?
    (b : Block)
    (stop n : Nat) : Nat → Option Nat
  | 0 => none
  | steps + 1 =>
      let column := (b.line n).column
      if stop ≤ n ∨ b.isEmpty n = true then none
      else if 3 < column - b.indent then
        underlineFrom? b stop (n + 1) steps
      else if b.indent ≤ column ∧ b.isUnderline n = true then
        some n
      else if column < 0 then
        underlineFrom? b stop (n + 1) steps
      else if b.endsParagraph n then none
      else underlineFrom? b stop (n + 1) steps

/- A heading above a line. -/
def underlined?
    (b : Block)
    (n stop : Nat) : Option Blocks :=
  if b.isCode n then
    none
  else
    (b.underlineFrom? stop (n + 1) (stop - n)).map fun m =>
      Blocks.prose "heading" (b.content n m) n (m + 1)

/- A paragraph. -/
def paragraph
    (b : Block)
    (n : Nat) : Blocks :=
  let past := b.paragraphEndFrom (n + 1) (b.limit - n)
  Blocks.prose "paragraph" (b.content n past) n past

end Block

end Markdown

end ProseCheck

------------------------------------------------------------
-- Quotes
------------------------------------------------------------

namespace ProseCheck

namespace Markdown

namespace Block

/-
  The offset and the column after the white space from an
  offset on.  The extra column `extra` is the part of a tab
  that belongs to a marker before it.
-/
def skipIndent
    (b : Block)
    (stop : Nat)
    (extra : Int)
    (offset : Nat)
    (column : Int) : Nat → Nat × Int
  | 0 => (offset, column)
  | steps + 1 =>
      if stop ≤ offset then
        (offset, column)
      else
        match b.char? offset with
        | some '\t' =>
            skipIndent b stop extra (offset + 1)
              (column + (4 - (column + extra) % 4)) steps
        | some ' ' =>
            skipIndent b stop extra (offset + 1)
              (column + 1) steps
        | _ => (offset, column)

/-
  A line without the quote mark at its start, and without one
  column of white space after the mark.
-/
def unquote
    (b : Block)
    (n : Nat) : Line :=
  let l := b.line n
  let after := l.first + 1
  let column := l.column + 1
  let next := b.char? after
  let narrowTab := (l.base + column) % 4 = 3
  let spaced := next = some ' ' ∨ next = some '\t'
  let taken :=
    next = some ' ' ∨ (next = some '\t' ∧ narrowTab)
  let start := if taken then after + 1 else after
  let initial := if taken then column + 1 else column
  let extra : Int :=
    if next = some '\t' ∧ ¬ narrowTab then 1 else 0
  let (first, reached) :=
    b.skipIndent l.stop (l.base + extra) start initial
      (l.stop - start)
  { start := start, stop := l.stop, indent := first - start,
    column := reached - initial,
    base := column + (if spaced then 1 else 0) }

/-
  Take the lines of a quote from `n` on, where `empty` says
  that the last of them has no content.  The answer is the
  document as the quote sees it, with the line after it.
-/
def quoteLines
    (b : Block)
    (stop n : Nat)
    (empty : Bool) : Nat → Block × Nat
  | 0 => (b, n)
  | steps + 1 =>
      let l := b.line n
      if stop ≤ n ∨ l.isEmpty = true then
        (b, n)
      else if b.head? n = some '>' ∧ b.indent ≤ l.column then
        let quoted := b.unquote n
        quoteLines
          { b with lines := b.lines.setIfInBounds n quoted }
          stop (n + 1) quoted.isEmpty steps
      else if empty then
        (b, n)
      else if b.endsQuote n then
        ({ b with limit := n }, n)
      else
        quoteLines
          { b with
            lines :=
              b.lines.setIfInBounds n { l with column := -1 } }
          stop (n + 1) false steps

/- A quote. -/
def quote?
    (inner : Search)
    (b : Block)
    (n stop : Nat) : Option Blocks :=
  if !b.startsQuote n then
    none
  else
    let quoted := b.unquote n
    let (inside, past) :=
      quoteLines
        { b with lines := b.lines.setIfInBounds n quoted }
        stop (n + 1) quoted.isEmpty (stop - n)
    let found := inner { inside with indent := 0 } n past
    some
      ⟨Blocks.opening "blockquote_open" n found.line ::
        found.tokens ++ [Blocks.closing "blockquote_close"],
        found.labels, found.line⟩

end Block

end Markdown

end ProseCheck

------------------------------------------------------------
-- Lists
------------------------------------------------------------

namespace ProseCheck

namespace Markdown

namespace Block

/-
  The document as a list item sees it.  The content of the
  item begins at least one column after the marker, and at
  most four.
-/
def itemView
    (b : Block)
    (m : ListMarker)
    (n : Nat) : Block :=
  let l := b.line n
  let after := l.first + m.length
  let initial := l.column + m.length
  let (first, column) :=
    b.skipIndent l.stop l.base after initial (l.stop - after)
  let wide := column - initial
  let indent :=
    if l.stop ≤ first ∨ 4 < wide then initial + 1
    else initial + wide
  { b with
    lines :=
      b.lines.setIfInBounds n
        { l with indent := first - l.start, column := column },
    indent := indent,
    listIndent := b.indent }

/- The blocks of a list item.  An empty one may have none. -/
def item
    (inner : Search)
    (b : Block)
    (m : ListMarker)
    (n stop : Nat) : Blocks :=
  let view := b.itemView m n
  let found :=
    if view.isEmpty n && b.isEmpty (n + 1) then
      ⟨[], [], min (n + 2) stop⟩
    else
      inner view n stop
  ⟨Blocks.opening "list_item_open" n found.line ::
    found.tokens ++ [Blocks.closing "list_item_close"],
    found.labels, found.line⟩

/- The marker of a further item of a list. -/
def nextMarker?
    (b : Block)
    (m : ListMarker)
    (n stop : Nat) : Option ListMarker :=
  if stop ≤ n ∨ (b.line n).column < b.indent ∨
      b.isCode n = true ∨ b.endsItem n = true then
    none
  else
    (ListMarker.start? (b.text n)).filter m.continues

/- The items of a list from a line on. -/
def items
    (inner : Search)
    (b : Block)
    (stop : Nat)
    (m : ListMarker)
    (n : Nat) : Nat → Blocks
  | 0 => ⟨[], [], n⟩
  | steps + 1 =>
      let found := item inner b m n stop
      match b.nextMarker? m found.line stop with
      | none => found
      | some m =>
          let more := items inner b stop m found.line steps
          ⟨found.tokens ++ more.tokens,
            found.labels ++ more.labels, more.line⟩

/- A list. -/
def list?
    (inner : Search)
    (b : Block)
    (n stop : Nat) : Option Blocks :=
  (b.listMarker? n).map fun m =>
    let name :=
      if m.number.isSome then "ordered_list"
      else "bullet_list"
    let found := items inner b stop m n (stop - n)
    ⟨Blocks.opening (name ++ "_open") n found.line ::
      found.tokens ++ [Blocks.closing (name ++ "_close")],
      found.labels, found.line⟩

end Block

end Markdown

end ProseCheck

------------------------------------------------------------
-- The Search
------------------------------------------------------------

namespace ProseCheck

namespace Markdown

namespace Block

/- A definition of a link reference, which gives no token. -/
def defined?
    (b : Block)
    (n : Nat) : Option Blocks :=
  (b.definition? n).map fun (label, past) =>
    ⟨[], [label], past⟩

/- The block that begins on a line. -/
def blockAt
    (inQuote inItem : Search)
    (b : Block)
    (n stop : Nat) : Blocks :=
  let found :=
    (b.code? n stop).orElse fun _ =>
    (b.fenced? n stop).orElse fun _ =>
    (b.quote? inQuote n stop).orElse fun _ =>
    (b.rule? n).orElse fun _ =>
    (b.list? inItem n stop).orElse fun _ =>
    (b.defined? n).orElse fun _ =>
    (b.html? n stop).orElse fun _ =>
    (b.heading? n).orElse fun _ =>
    b.underlined? n stop
  found.getD (b.paragraph n)

/- The blocks from a line on, one after the other. -/
def blocksFrom
    (inQuote inItem : Search)
    (b : Block)
    (stop n : Nat) : Nat → Blocks
  | 0 => ⟨[], [], n⟩
  | steps + 1 =>
      let n := b.skipEmpty n
      if stop ≤ n ∨ (b.line n).column < b.indent then
        ⟨[], [], n⟩
      else
        let found := blockAt inQuote inItem b n stop
        let next :=
          if found.line < stop ∧ b.isEmpty found.line = true
          then found.line + 1
          else found.line
        if stop ≤ next then
          ⟨found.tokens, found.labels, next⟩
        else
          let more := blocksFrom inQuote inItem b stop next steps
          ⟨found.tokens ++ more.tokens,
            found.labels ++ more.labels, more.line⟩

/-
  The end of a search at the greatest depth.  It stands where
  it is if nothing of the current container is left.
-/
def exhausted
    (b : Block)
    (n stop : Nat) : Blocks :=
  let n := b.skipEmpty n
  if stop ≤ n ∨ (b.line n).column < b.indent then ⟨[], [], n⟩
  else ⟨[], [], stop⟩

/-
  Search for blocks with some depth left.  A quote takes one
  level of it, and an item of a list takes two.
-/
def search : Nat → Search
  | 0 => exhausted
  | 1 => fun b n stop =>
      blocksFrom exhausted exhausted b stop n (stop - n)
  | depth + 2 => fun b n stop =>
      blocksFrom (search (depth + 1)) (search depth) b stop n
        (stop - n)

/- The deepest nesting of containers. -/
def maxDepth : Nat :=
  20

/- The blocks of a source in normal form. -/
def parse
    (source : Text) : Blocks :=
  let lines := (scanLines 0 0 0 0 true source).toArray
  search maxDepth
    { source := source.toArray, lines := lines,
      limit := lines.size }
    0 lines.size

end Block

end Markdown

end ProseCheck
