import ProseCheck.Text.Basic

/-
  This file defines the tree of a structured document.  Each
  node covers a stretch of the source.

  Key definitions include:
    * `NodeKind`
    * `Node`
-/

------------------------------------------------------------
-- Kinds
------------------------------------------------------------

namespace ProseCheck

/-
  The kinds of nodes.  Only paragraphs and texts decide how
  the source is read; of any other node the children count.
-/
inductive NodeKind where
  | document
  | paragraph
  | text
  | heading
  | blockQuote
  | list
  | listItem
  | link
  | image
  | emphasis
  | strong
  | code
  | codeBlock
  | html
  | thematicBreak
  | other
deriving DecidableEq, Repr, Inhabited

namespace NodeKind

/- The name under which a kind is written. -/
def name : NodeKind → String
  | .document => "document"
  | .paragraph => "paragraph"
  | .text => "text"
  | .heading => "heading"
  | .blockQuote => "block_quote"
  | .list => "list"
  | .listItem => "list_item"
  | .link => "link"
  | .image => "image"
  | .emphasis => "emphasis"
  | .strong => "strong"
  | .code => "code"
  | .codeBlock => "code_block"
  | .html => "html"
  | .thematicBreak => "thematic_break"
  | .other => "other"

/- Every kind, in the order of their definition. -/
def all : List NodeKind :=
  [.document, .paragraph, .text, .heading, .blockQuote,
    .list, .listItem, .link, .image, .emphasis, .strong,
    .code, .codeBlock, .html, .thematicBreak, .other]

/- The kind of a name. -/
def ofName?
    (name : String) : Option NodeKind :=
  all.find? (fun k => k.name == name)

end NodeKind

end ProseCheck

------------------------------------------------------------
-- Nodes
------------------------------------------------------------

namespace ProseCheck

/-
  A node of a document.  It covers the source from the offset
  `start` up to the offset `stop`.  The content of a text
  node is what is read for that stretch.
-/
structure Node where
  kind : NodeKind
  start : Int
  stop : Int
  content : Text := []
  children : List Node := []
deriving BEq, Repr, Inhabited

end ProseCheck
