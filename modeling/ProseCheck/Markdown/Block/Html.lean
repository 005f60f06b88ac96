import ProseCheck.Markdown.Line
import ProseCheck.Markdown.Tag

/-
  This file recognises blocks of raw HTML by their first
  line, and the line that ends each kind of them.

  Key definitions include:
    * `HtmlBlock`
    * `HtmlBlock.start?`
    * `HtmlBlock.endsAt`
-/

------------------------------------------------------------
-- Names
------------------------------------------------------------

namespace ProseCheck

namespace Markdown

/- The elements whose content is not Markdown at all. -/
def rawElements : List String :=
  ["script", "pre", "style", "textarea"]

/- The elements that begin a block of HTML. -/
def blockElements : List String :=
  ["address", "article", "aside", "base", "basefont",
    "blockquote", "body", "caption", "center", "col",
    "colgroup", "dd", "details", "dialog", "dir", "div", "dl",
    "dt", "fieldset", "figcaption", "figure", "footer",
    "form", "frame", "frameset", "h1", "h2", "h3", "h4", "h5",
    "h6", "head", "header", "hr", "html", "iframe", "legend",
    "li", "link", "main", "menu", "menuitem", "nav",
    "noframes", "ol", "optgroup", "option", "p", "param",
    "search", "section", "summary", "table", "tbody", "td",
    "tfoot", "th", "thead", "title", "tr", "track", "ul"]

/-
  The small ASCII letter that a character is matched as when
  case does not matter.  The dotted and the dotless i, the
  long s and the Kelvin sign are matched as letters too.
-/
def foldLetter
    (c : Char) : Char :=
  match c.toNat with
  | 0x130 => 'i'
  | 0x131 => 'i'
  | 0x17F => 's'
  | 0x212A => 'k'
  | _ => c.toLower

/- What follows a name at the start of a text. -/
def afterName?
    (name : String)
    (t : Text) : Option Text :=
  if name.toList = (t.take name.length).map foldLetter then
    some (t.drop name.length)
  else
    none

end Markdown

end ProseCheck

------------------------------------------------------------
-- Kinds
------------------------------------------------------------

namespace ProseCheck

namespace Markdown

/- The kinds of HTML blocks, by what their first line holds. -/
inductive HtmlBlock where
  | raw
  | comment
  | instruction
  | declaration
  | data
  | element
  | tag
deriving DecidableEq, Repr

namespace HtmlBlock

/- Whether the name of a raw element ends here. -/
def endsRawName : Text → Bool
  | [] => true
  | c :: _ => isBlank c || c == '>'

/- Whether the name of a block element ends here. -/
def endsBlockName : Text → Bool
  | [] => true
  | '/' :: '>' :: _ => true
  | c :: _ => isBlank c || c == '>'

/- Whether a text begins with one of some names. -/
def beginsWithName
    (names : List String)
    (ends : Text → Bool)
    (t : Text) : Bool :=
  names.any fun name =>
    match afterName? name t with
    | some rest => ends rest
    | none => false

/- Whether a line holds a whole tag and nothing else. -/
def isTagLine
    (t : Text) : Bool :=
  match (Html.openTag? t).orElse fun _ => Html.closeTag? t with
  | some rest => rest.all isBlank
  | none => false

/- The kind of the block that a line begins. -/
def start?
    (t : Text) : Option HtmlBlock :=
  match t with
  | '<' :: cs =>
      let closing := if cs.head? = some '/' then cs.tail else cs
      if beginsWithName rawElements endsRawName cs then
        some .raw
      else if "!--".toList.isPrefixOf cs then some .comment
      else if cs.head? = some '?' then some .instruction
      else if cs.head? = some '!' ∧
          cs.tail.head?.any Char.isUpper = true then
        some .declaration
      else if Html.dataMark.isPrefixOf t then some .data
      else if beginsWithName blockElements endsBlockName
          closing then
        some .element
      else if isTagLine t then some .tag
      else none
  | _ => none

/- Whether a block of a kind can end a paragraph. -/
def interrupts
    (k : HtmlBlock) : Bool :=
  k != .tag

/- Whether a text holds a mark. -/
def holds
    (mark : String)
    (t : Text) : Bool :=
  (Text.find? mark.toList t).isSome

/- Whether a text holds the end of a raw element. -/
def holdsRawEnd
    (t : Text) : Bool :=
  rawElements.any fun name =>
    holds ("</" ++ name ++ ">") (t.map foldLetter)

/- Whether a line is the last one of a block. -/
def endsAt
    (k : HtmlBlock)
    (t : Text) : Bool :=
  match k with
  | .raw => holdsRawEnd t
  | .comment => holds "-->" t
  | .instruction => holds "?>" t
  | .declaration => holds ">" t
  | .data => holds "]]>" t
  | .element => t.isEmpty
  | .tag => t.isEmpty

end HtmlBlock

end Markdown

end ProseCheck
