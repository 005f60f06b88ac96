import ProseCheck.Markdown.Inline.Emphasis
import ProseCheck.Markdown.Inline.Skip

/-
  This file cuts the content of a block into tokens.  Plain
  characters are gathered into one token as far as nothing
  stands between them; escaped characters and character
  references always stand alone.

  Key definitions include:
    * `Piece`
    * `finish`
    * `Inline.read`
    * `inlineTokens`
-/

------------------------------------------------------------
-- Pieces
------------------------------------------------------------

namespace ProseCheck

namespace Markdown

/-
  A piece of a content: plain text, tokens that are complete,
  or one mark of a run of marks of emphasis.
-/
inductive Piece where
  | text (t : Text)
  | tokens (ts : List Token)
  | mark (c : Char) (length : Nat) (f : Flanking)

/- A token of plain text. -/
def textToken
    (t : Text) : Token :=
  { name := "text", content := t }

/- The marks among pieces, the first piece being number `n`. -/
def marksFrom
    (n : Nat) : List Piece → List Mark
  | [] => []
  | .mark c length f :: ps =>
      { mark := c, length := length, place := n,
        opens := f.opens, closes := f.closes } ::
        marksFrom (n + 1) ps
  | _ :: ps => marksFrom (n + 1) ps

/- The tokens of a piece, where some marks are tokens. -/
def pieceTokens
    (emphasis : List (Nat × Option Token))
    (n : Nat) : Piece → List Token
  | .text t => [textToken t]
  | .tokens ts => ts
  | .mark c _ _ =>
      match emphasis.find? (fun e => e.1 == n) with
      | some (_, some t) => [t]
      | some (_, none) => []
      | none => [textToken [c]]

/- The tokens of pieces, the first piece being number `n`. -/
def piecesTokens
    (emphasis : List (Nat × Option Token))
    (n : Nat) : List Piece → List Token
  | [] => []
  | p :: ps =>
      pieceTokens emphasis n p ++
        piecesTokens emphasis (n + 1) ps

/- Join the neighbours among the tokens of plain text. -/
def joinTexts : List Token → List Token
  | [] => []
  | t :: ts =>
      match joinTexts ts with
      | [] => [t]
      | u :: us =>
          if t.name == "text" && u.name == "text" then
            textToken (t.content ++ u.content) :: us
          else
            t :: u :: us

/- The tokens of a content that was cut into pieces. -/
def finish
    (pieces : List Piece) : List Token :=
  let marks := pairMarks (marksFrom 0 pieces).toArray
  joinTexts
    (piecesTokens (emphasisTokens marks marks.size []) 0 pieces)

end Markdown

end ProseCheck

------------------------------------------------------------
-- Tokens of Constructs
------------------------------------------------------------

namespace ProseCheck

namespace Markdown

/- A character behind a backslash. -/
def escapeToken
    (c : Char) : Token :=
  { name := "text_special",
    content := if isAsciiPunctuation c then [c] else ['\\', c],
    markup := ['\\', c],
    info := "escape" }

/- A character reference, with the text that it is written as. -/
def referenceToken
    (content markup : Text) : Token :=
  { name := "text_special", content := content,
    markup := markup, info := "entity" }

/- A link around some tokens. -/
def linkTokens
    (markup : Text)
    (inside : List Token) : List Token :=
  { name := "link_open", nesting := 1, markup := markup } ::
    inside ++
    [{ name := "link_close", nesting := -1, markup := markup }]

/- An address that is a link to itself. -/
def autolinkTokens
    (address : Text) : List Token :=
  linkTokens "autolink".toList
    [textToken (displayAddress address)]

/-
  The plain text before a line break and the break.  Two
  spaces or more before it make it a hard one.  All of them
  are dropped.
-/
def breakPieces
    (before : Text) : List Piece :=
  let spaces := before.reverse.takeWhile (· == ' ')
  let kept := before.take (before.length - spaces.length)
  let name :=
    if 2 ≤ spaces.length then "hardbreak" else "softbreak"
  (if kept.isEmpty then [] else [.text kept]) ++
    [.tokens [{ name := name }]]

end Markdown

end ProseCheck

------------------------------------------------------------
-- Reading
------------------------------------------------------------

namespace ProseCheck

namespace Markdown

/- A function that reads the tokens between two offsets. -/
abbrev Read :=
  (start stop : Nat) → StateM Memo (List Token)

/- The pieces of a construct, and the offset after it. -/
abbrev Found :=
  List Piece × Nat

namespace Inline

/- The run of marks of emphasis at an offset. -/
def markPieces
    (t : Inline)
    (stop offset : Nat)
    (c : Char) : Found :=
  let past := t.skipWhile (· == c) stop offset
  let before :=
    if offset = 0 then ' '
    else (t.char? (offset - 1)).getD ' '
  let after :=
    if past < stop then (t.char? past).getD ' ' else ' '
  let length := past - offset
  (List.replicate length
    (.mark c length (flanking c before after)), past)

/- The construct at an offset that begins with a bracket. -/
def linkPieces?
    (t : Inline)
    (skip : Skip)
    (inside : Read)
    (stop offset : Nat) : StateM Memo (Option Found) := do
  match ← t.linkEnd? skip stop offset with
  | none => return none
  | some (textEnd, past) =>
      let ts ← inside (offset + 1) textEnd
      return some ([.tokens (linkTokens [] ts)], past)

/- The construct at an offset that begins with a sign. -/
def imagePieces?
    (t : Inline)
    (skip : Skip)
    (alone : Text → List Token)
    (stop offset : Nat) : StateM Memo (Option Found) := do
  match ← t.imageEnd? skip stop offset with
  | none => return none
  | some (textEnd, past) =>
      let inside := alone (t.slice (offset + 2) textEnd)
      let image : Token := { name := "image", children := inside }
      return some ([.tokens [image]], past)

/- The construct at an offset that begins with a backslash. -/
def escapePieces?
    (t : Inline)
    (stop offset : Nat) : Option Found :=
  if stop ≤ offset + 1 then none
  else
    match t.char? (offset + 1) with
    | none => none
    | some c =>
        if c = '\n' then
          some
            ([.tokens [{ name := "hardbreak" }]],
              t.afterBreak stop (offset + 1))
        else
          some ([.tokens [escapeToken c]], offset + 2)

/- The construct at an offset that begins with a mark of code. -/
def codePieces
    (t : Inline)
    (stop offset : Nat) : StateM Memo Found := do
  let (past, codeEnd) ← t.codeEnd? stop offset
  let marks := t.slice offset past
  let code : Token := { name := "code_inline", markup := marks }
  match codeEnd with
  | some codeEnd => return ([.tokens [code]], codeEnd)
  | none => return ([.text marks], past)

/- The construct at an offset that begins with a bracket `<`. -/
def anglePieces?
    (t : Inline)
    (stop offset : Nat) : Option Found :=
  match t.autolink? stop offset with
  | some address =>
      some
        ([.tokens (autolinkTokens address)],
          offset + address.length + 2)
  | none =>
      (t.htmlEnd? stop offset).map fun past =>
        ([.tokens
          [{ name := "html_inline",
             content := t.slice offset past }]], past)

/- The construct at an offset that begins with an ampersand. -/
def referencePieces?
    (t : Inline)
    (offset : Nat) : Option Found :=
  (t.reference? offset).map fun r =>
    let past := offset + r.length
    ([.tokens [referenceToken r.content (t.slice offset past)]],
      past)

/- The construct that a character at an offset begins. -/
def pieces?
    (t : Inline)
    (skip : Skip)
    (inside : Read)
    (alone : Text → List Token)
    (stop offset : Nat)
    (c : Char) : StateM Memo (Option Found) := do
  if c = '\\' then return t.escapePieces? stop offset
  else if c = tick then
    return some (← t.codePieces stop offset)
  else if c = '*' ∨ c = '_' then
    return some (t.markPieces stop offset c)
  else if c = '[' then t.linkPieces? skip inside stop offset
  else if c = '!' then t.imagePieces? skip alone stop offset
  else if c = '<' then return t.anglePieces? stop offset
  else if c = '&' then return t.referencePieces? offset
  else return none

/- The pieces for plain characters, the last one first. -/
def plainPieces
    (plain : Text) : List Piece :=
  if plain.isEmpty then [] else [.text plain.reverse]

/-
  The pieces between two offsets.  The plain characters since
  the last piece are in `plain`, the last one first.  Code
  marks without a partner are plain characters too.
-/
def piecesFrom
    (t : Inline)
    (skip : Skip)
    (inside : Read)
    (alone : Text → List Token)
    (stop offset : Nat)
    (plain : Text) : Nat → StateM Memo (List Piece)
  | 0 => return plainPieces plain
  | steps + 1 => do
      if stop ≤ offset then
        return plainPieces plain
      match t.char? offset with
      | none => return plainPieces plain
      | some '\n' =>
          let past := t.afterBreak stop offset
          let more ←
            piecesFrom t skip inside alone stop past [] steps
          return breakPieces plain.reverse ++ more
      | some c =>
          match ← t.pieces? skip inside alone stop offset c with
          | some ([.text marks], past) =>
              piecesFrom t skip inside alone stop past
                (marks.reverse ++ plain) steps
          | some (found, past) =>
              let more ←
                piecesFrom t skip inside alone stop past [] steps
              return plainPieces plain ++ found ++ more
          | none =>
              piecesFrom t skip inside alone stop (offset + 1)
                (c :: plain) steps

/-
  Read tokens with some depth left.  The text of a link takes
  one level of it, and an image is read on its own.
-/
def read
    (t : Inline)
    (alone : Text → List Token) : Nat → Read
  | 0, start, stop =>
      let plain := t.slice start stop
      return if plain.isEmpty then [] else [textToken plain]
  | depth + 1, start, stop => do
      let pieces ←
        t.piecesFrom (t.skip (depth + 1)) (read t alone depth)
          alone stop start [] (stop - start)
      return finish pieces

end Inline

end Markdown

end ProseCheck

------------------------------------------------------------
-- Contents of Blocks
------------------------------------------------------------

namespace ProseCheck

namespace Markdown

/- The deepest nesting of constructs inside of a block. -/
def maxInlineDepth : Nat :=
  20

/-
  The tokens of a content, where no more than so many images
  stand inside of each other.
-/
def inlineTokensWithin
    (labels : List Text) : Nat → Text → List Token
  | 0, _ => []
  | images + 1, content =>
      let t : Inline := ⟨content.toArray, labels⟩
      let read :=
        t.read (inlineTokensWithin labels images)
          maxInlineDepth 0 content.length
      (read.run (Memo.empty content.length)).1

/-
  The tokens of a content.  An image is longer than its text,
  so the length bounds the number of images.
-/
def inlineTokens
    (labels : List Text)
    (content : Text) : List Token :=
  inlineTokensWithin labels (content.length + 1) content

end Markdown

end ProseCheck
