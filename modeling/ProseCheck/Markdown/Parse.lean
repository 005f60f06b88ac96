import ProseCheck.Markdown.Block.Parse
import ProseCheck.Markdown.Inline.Parse

/-
  This file reads a Markdown document as tokens.  The blocks
  come first, as a reference may be defined after its use;
  then the content of each block is read.

  Key definitions include:
    * `Markdown.fill`
    * `Markdown.parse`
-/

------------------------------------------------------------
-- Documents
------------------------------------------------------------

namespace ProseCheck

namespace Markdown

/- Read the content of a token, if it has content to read. -/
def fill
    (labels : List Text)
    (t : Token) : Token :=
  if t.name == "inline" then
    { t with children := inlineTokens labels t.content }
  else
    t

/- The tokens of a document. -/
def parse
    (source : Text) : List Token :=
  let blocks := Block.parse (normalize source)
  blocks.tokens.map (fill blocks.labels)

end Markdown

end ProseCheck
