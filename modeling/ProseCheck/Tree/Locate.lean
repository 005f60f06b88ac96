import ProseCheck.Markdown.LinkParts
import ProseCheck.Markdown.Token
import ProseCheck.Text.Position
import ProseCheck.Tree.Node

/-
  This file finds the place of each token in the source and
  builds the document tree from the tokens.

  Block tokens stand on known lines.  All that stands inside
  of a block is searched for, from a cursor onwards, and no
  further than the end of the innermost block.  What is not
  found there is left out, and nothing else is lost.

  Key definitions include:
    * `Frame`
    * `Locator`
    * `Locator.consume`
    * `locate`
-/

------------------------------------------------------------
-- Kinds of Tokens
------------------------------------------------------------

namespace ProseCheck

/- The containers, by the names of their tokens. -/
def containerNames : List (String × NodeKind) :=
  [("paragraph", .paragraph), ("heading", .heading),
    ("blockquote", .blockQuote), ("bullet_list", .list),
    ("ordered_list", .list), ("list_item", .listItem),
    ("link", .link), ("em", .emphasis), ("strong", .strong)]

/- The kind of container that a token opens. -/
def containerKind
    (name : String) : NodeKind :=
  match containerNames.find? (fun (n, _) =>
      name == n || name == n ++ "_open") with
  | some (_, kind) => kind
  | none => .other

/- The kind of a block that has no tokens inside of it. -/
def leafBlockKind?
    (name : String) : Option NodeKind :=
  if name = "fence" ∨ name = "code_block" then
    some .codeBlock
  else if name = "html_block" then some .html
  else if name = "hr" then some .thematicBreak
  else none

end ProseCheck

------------------------------------------------------------
-- Frames
------------------------------------------------------------

namespace ProseCheck

/-
  A container that is still open.  Its children are those
  found so far, the last one first.  A container inside of a
  block knows neither its start nor its stop.
-/
structure Frame where
  kind : NodeKind
  start : Option Nat := none
  stop : Option Nat := none
  markup : Text := []
  recent : List Node := []
deriving BEq, Repr

namespace Frame

/- The frame with one more child. -/
def add
    (f : Frame)
    (n : Node) : Frame :=
  { f with recent := n :: f.recent }

/-
  The node of a container that is complete.  Where it does
  not know its place, its children tell, and where it has
  none, the offset `fallback` does.
-/
def close
    (f : Frame)
    (fallback : Nat) : Node :=
  let children := f.recent.reverse
  let start : Int :=
    match f.start, children.head? with
    | some n, _ => n
    | none, some c => c.start
    | none, none => fallback
  let stop : Int :=
    match f.stop, f.recent.head? with
    | some n, _ => n
    | none, some c => c.stop
    | none, none => start
  ⟨f.kind, start, max start stop, [], children⟩

end Frame

end ProseCheck

------------------------------------------------------------
-- Locators
------------------------------------------------------------

namespace ProseCheck

/-
  The state of the search: the offset from which the next
  token is looked for, the offset at which the innermost
  block ends, and the containers that are open.
-/
structure Locator where
  cursor : Nat
  limit : Nat
  top : Frame
  outer : List Frame := []
deriving BEq, Repr

namespace Locator

/- The first and the last offset of the lines of a token. -/
def blockSpan
    (source : Text)
    (lines : Option (Int × Int)) : Option (Nat × Nat) :=
  let table : PositionTable := ⟨source, false, .utf32⟩
  lines.map (fun (first, past) =>
    (table.startOf (table.nearestLine first),
      table.endOf
        (table.nearestLine (max first (past - 1)))))

/- The end of the innermost block among open containers. -/
def blockLimit
    (source : Text)
    (frames : List Frame) : Nat :=
  (frames.findSome? (·.stop)).getD source.length

/- Where a needle stands next, within the innermost block. -/
def find?
    (source : Text)
    (l : Locator)
    (needle : Text) : Option Nat :=
  if needle.isEmpty then none
  else source.findIn? needle l.cursor l.limit

/- Add a node to the innermost open container. -/
def addNode
    (l : Locator)
    (n : Node) : Locator :=
  { l with top := l.top.add n }

end Locator

end ProseCheck

------------------------------------------------------------
-- Leaves
------------------------------------------------------------

namespace ProseCheck

namespace Locator

/- A block that has no tokens inside of it. -/
def leafBlock
    (source : Text)
    (kind : NodeKind)
    (lines : Option (Int × Int))
    (l : Locator) : Locator :=
  match blockSpan source lines with
  | none => l
  | some (start, stop) =>
      { l with cursor := max l.cursor stop }.addNode
        { kind := kind, start := start, stop := stop }

/-
  Something written as `needle`.  The first `skip` characters
  of it do not belong to the node.
-/
def written
    (source : Text)
    (kind : NodeKind)
    (needle content : Text)
    (skip : Nat)
    (l : Locator) : Locator :=
  match l.find? source needle with
  | none => l
  | some index =>
      let stop := index + needle.length
      { l with cursor := stop }.addNode
        { kind := kind, start := index + skip, stop := stop,
          content := content }

/-
  A character that is not written as itself.  An escaped one
  stands behind a backslash, which stays markup.
-/
def special
    (source : Text)
    (content markup : Text)
    (info : String)
    (l : Locator) : Locator :=
  if info = "escape" ∧ markup.head? = some '\\' then
    l.written source .text markup content 1
  else
    l.written source .text
      (if markup.isEmpty then content else markup) content 0

/- The mark of code inside of a line. -/
def codeMark : Char :=
  Char.ofNat 0x60

/-
  The offset of the leftmost occurrence of a run of marks
  that is not part of a longer run.  The text begins at
  `offset`, and `before` is the character before it.
-/
def runFrom
    (run : Text)
    (offset : Nat)
    (before : Option Char) : Text → Option Nat
  | [] => none
  | c :: cs =>
      if before ≠ some codeMark ∧
          run.isPrefixOf (c :: cs) = true ∧
          ((c :: cs).drop run.length).head? ≠
            some codeMark then
        some offset
      else
        runFrom run (offset + 1) (some c) cs

/-
  The offset at or after `start` of the leftmost such
  occurrence that ends at or before `limit`.
-/
def findRun?
    (source run : Text)
    (start limit : Nat) : Option Nat :=
  let before := if start = 0 then none else source[start - 1]?
  runFrom run start before (source.slice start limit)

/- Code inside of a line, from its first mark to its last. -/
def codeSpan
    (source markup : Text)
    (l : Locator) : Locator :=
  let run := if markup.isEmpty then [codeMark] else markup
  match findRun? source run l.cursor l.limit with
  | none => l
  | some start =>
      let inside := start + run.length
      match findRun? source run inside l.limit with
      | none => l
      | some closing =>
          let stop := closing + run.length
          { l with cursor := stop }.addNode
            { kind := .code, start := start, stop := stop }

end Locator

end ProseCheck

------------------------------------------------------------
-- Links
------------------------------------------------------------

namespace ProseCheck

namespace Locator

/- The white space between the parts of a link. -/
def isLinkSpace
    (c : Char) : Bool :=
  c == ' ' || c == '\t' || c == '\r' || c == '\n'

/- The first offset from `position` on that is not a space. -/
def skipSpace
    (source : Text)
    (limit position : Nat) : Nat :=
  position +
    ((source.slice position limit).takeWhile
      isLinkSpace).length

/- The offset past the title that begins at an offset. -/
def skipTitle
    (source : Text)
    (limit position : Nat) : Nat :=
  match linkTitle? (source.slice position limit) with
  | none => position
  | some part =>
      skipSpace source limit (position + part.length)

/- The offset past a destination and a title, if any. -/
def skipParts
    (source : Text)
    (limit position : Nat) : Nat :=
  let position := skipSpace source limit position
  match linkDestination? (source.slice position limit) with
  | none => position
  | some part =>
      skipTitle source limit
        (skipSpace source limit (position + part.length))

/-
  The cursor past the parentheses behind the text of a link,
  where `position` is the offset after the opening one.
-/
def skipDestination
    (source : Text)
    (limit cursor position : Nat) : Nat :=
  let position := skipParts source limit position
  match source.findIn? [')'] position limit with
  | none => cursor
  | some closing => closing + 1

/-
  The cursor past the characters that close a link: the angle
  bracket of a link written as its address, or the square
  bracket and what follows it.
-/
def skipLinkTail
    (source : Text)
    (limit cursor : Nat)
    (autolink : Bool) : Nat :=
  let closer := if autolink then '>' else ']'
  match source.findIn? [closer] cursor limit with
  | none => cursor
  | some index =>
      let cursor := index + 1
      if autolink ∨ limit ≤ cursor then
        cursor
      else if source[cursor]? = some '(' then
        skipDestination source limit cursor (cursor + 1)
      else if source[cursor]? = some '[' then
        match source.findIn? [']'] cursor limit with
        | none => cursor
        | some labelEnd => labelEnd + 1
      else
        cursor

end Locator

end ProseCheck

------------------------------------------------------------
-- Containers
------------------------------------------------------------

namespace ProseCheck

namespace Locator

/- Open a container. -/
def openFrame
    (source : Text)
    (name : String)
    (lines : Option (Int × Int))
    (markup : Text)
    (l : Locator) : Locator :=
  let kind := containerKind name
  match blockSpan source lines with
  | none =>
      { l with
        top := { kind := kind, markup := markup },
        outer := l.top :: l.outer }
  | some (start, stop) =>
      { cursor := max l.cursor start,
        limit := stop,
        top :=
          { kind := kind, start := start, stop := stop,
            markup := markup },
        outer := l.top :: l.outer }

/-
  The innermost container as it is when it closes.  A link
  closes behind the characters that belong to it.
-/
def finish
    (source : Text)
    (l : Locator) : Locator :=
  if l.top.kind = .link then
    let cursor :=
      skipLinkTail source l.limit l.cursor
        (l.top.markup == "autolink".toList)
    { l with
      cursor := cursor,
      top := { l.top with stop := some cursor } }
  else
    l

/- Close the innermost container, unless it is the only one. -/
def closeFrame
    (source : Text)
    (l : Locator) : Locator :=
  match l.outer with
  | [] => l
  | parent :: outer =>
      let l := l.finish source
      let frame := l.top
      { cursor := max l.cursor (frame.stop.getD 0),
        limit :=
          if frame.start.isSome then
            blockLimit source (parent :: outer)
          else
            l.limit,
        top := parent.add (frame.close l.cursor),
        outer := outer }

/- Close an image behind the characters that belong to it. -/
def closeImage
    (source : Text)
    (frame : Frame)
    (l : Locator) : Locator :=
  let cursor :=
    skipLinkTail source l.limit l.cursor false
  { l with cursor := cursor }.addNode
    ({ frame with stop := some cursor }.close cursor)

end Locator

end ProseCheck

------------------------------------------------------------
-- Token Streams
------------------------------------------------------------

namespace ProseCheck

namespace Locator

/- A token that neither opens nor closes a container. -/
def leaf
    (source : Text)
    (name : String)
    (lines : Option (Int × Int))
    (content markup : Text)
    (info : String)
    (l : Locator) : Locator :=
  match leafBlockKind? name with
  | some kind => l.leafBlock source kind lines
  | none =>
      if name = "text" then
        l.written source .text content content 0
      else if name = "text_special" then
        l.special source content markup info
      else if name = "code_inline" then
        l.codeSpan source markup
      else if name = "html_inline" then
        l.written source .html content [] 0
      else
        l

mutual

/-
  Take one token.  What stands inside of an image is searched
  with a stack of its own, so nothing in there can close a
  container outside of the image.
-/
def step
    (source : Text) : Token → Locator → Locator
  | ⟨name, nesting, lines, content, markup, info, children⟩,
      l =>
      if nesting = 1 then
        l.openFrame source name lines markup
      else if nesting = -1 then
        l.closeFrame source
      else if name = "inline" then
        consume source children l
      else if name = "image" then
        let inside :=
          consume source children
            { l with top := { kind := .image }, outer := [] }
        let frame := (inside.top :: inside.outer).getLast?
        closeImage source (frame.getD inside.top)
          { inside with top := l.top, outer := l.outer }
      else
        l.leaf source name lines content markup info

/- Take tokens in their order. -/
def consume
    (source : Text) : List Token → Locator → Locator
  | [], l => l
  | t :: ts, l => consume source ts (step source t l)

end

end Locator

end ProseCheck

------------------------------------------------------------
-- Trees
------------------------------------------------------------

namespace ProseCheck

namespace Locator

/- The state before the first token of a source. -/
def start
    (source : Text) : Locator :=
  { cursor := 0,
    limit := source.length,
    top :=
      { kind := .document, start := some 0,
        stop := some source.length } }

/-
  Close the containers that the tokens left open.  Each one
  becomes a child of the one around it.
-/
def closeAll
    (cursor : Nat)
    (top : Frame) : List Frame → Frame
  | [] => top
  | parent :: outer =>
      closeAll cursor (parent.add (top.close cursor)) outer

end Locator

/- The tree of a source, located from the tokens of it. -/
def locate
    (source : Text)
    (tokens : List Token) : Node :=
  let l := Locator.consume source tokens (Locator.start source)
  (Locator.closeAll l.cursor l.top l.outer).close 0

end ProseCheck
