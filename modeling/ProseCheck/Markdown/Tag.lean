import ProseCheck.Text.Blank

/-
  This file recognises raw HTML: tags, comments, processing
  instructions, declarations and character data.  Each
  reader takes a text that begins with the construct and
  gives back what follows it.

  Key definitions include:
    * `openTag?`
    * `closeTag?`
    * `commentEnd?`
    * `htmlConstruct?`
-/

------------------------------------------------------------
-- Names
------------------------------------------------------------

namespace ProseCheck

namespace Html

/- The characters of a tag name after the first. -/
def isTagChar
    (c : Char) : Bool :=
  c.isAlphanum || c == '-'

/- The text after a tag name. -/
def afterTagName? : Text → Option Text
  | c :: cs =>
      if c.isAlpha then some (cs.dropWhile isTagChar) else none
  | [] => none

/- The first character of an attribute name. -/
def isAttributeStart
    (c : Char) : Bool :=
  c.isAlpha || c == '_' || c == ':'

/- The characters of an attribute name after the first. -/
def isAttributeChar
    (c : Char) : Bool :=
  c.isAlphanum || c == '_' || c == ':' || c == '.' || c == '-'

/- The characters of a value without quotes. -/
def isBareChar
    (c : Char) : Bool :=
  !(c == '"' || c == '\'' || c == '=' || c == '<' ||
    c == '>' || c.toNat == 0x60 || c.toNat ≤ 0x20)

end Html

end ProseCheck

------------------------------------------------------------
-- Attributes
------------------------------------------------------------

namespace ProseCheck

namespace Html

/-
  The texts after some leading characters of a class, the
  one after most of them first.
-/
def afterSome
    (p : Char → Bool) : Text → List Text
  | [] => [[]]
  | c :: cs =>
      if p c then afterSome p cs ++ [c :: cs] else [c :: cs]

/- The text after a quote, its content and its end. -/
def afterQuoted?
    (quote : Char) : Text → Option Text
  | [] => none
  | c :: cs =>
      if c = quote then some cs else afterQuoted? quote cs

/- The texts after each way to read an attribute value. -/
def afterValue
    (t : Text) : List Text :=
  match t with
  | '"' :: cs => (afterQuoted? '"' cs).toList
  | '\'' :: cs => (afterQuoted? '\'' cs).toList
  | _ =>
      (afterSome isBareChar t).filter
        (fun rest => rest.length < t.length)

/- The texts after each way to read `= value`. -/
def afterAssignment
    (t : Text) : List Text :=
  match t.dropWhile isBlank with
  | '=' :: cs => (afterSome isBlank cs).flatMap afterValue
  | _ => []

/-
  The texts after each way to read an attribute, with the
  blank characters before it.
-/
def afterAttribute
    (t : Text) : List Text :=
  match t with
  | [] => []
  | c :: cs =>
      if isBlank c then
        match cs.dropWhile isBlank with
        | d :: ds =>
            if isAttributeStart d then
              let rest := ds.dropWhile isAttributeChar
              afterAssignment rest ++ [rest]
            else
              []
        | [] => []
      else
        []

/- The text after the end of an opening tag. -/
def afterTagEnd?
    (t : Text) : Option Text :=
  match t.dropWhile isBlank with
  | '>' :: cs => some cs
  | '/' :: '>' :: cs => some cs
  | _ => none

/-
  The text after the attributes and the end of an opening
  tag.  As many attributes are read as can be.
-/
def afterAttributes?
    (t : Text) : Nat → Option Text
  | 0 => afterTagEnd? t
  | fuel + 1 =>
      match (afterAttribute t).findSome?
          (fun rest => afterAttributes? rest fuel) with
      | some rest => some rest
      | none => afterTagEnd? t

end Html

end ProseCheck

------------------------------------------------------------
-- Tags
------------------------------------------------------------

namespace ProseCheck

namespace Html

/- The text after an opening tag. -/
def openTag? : Text → Option Text
  | '<' :: cs =>
      (afterTagName? cs).bind
        (fun rest => afterAttributes? rest rest.length)
  | _ => none

/- The text after a closing tag. -/
def closeTag? : Text → Option Text
  | '<' :: '/' :: cs =>
      match (afterTagName? cs).map (·.dropWhile isBlank) with
      | some ('>' :: rest) => some rest
      | _ => none
  | _ => none

end Html

end ProseCheck

------------------------------------------------------------
-- Other Constructs
------------------------------------------------------------

namespace ProseCheck

namespace Html

/- The text after the body of a comment and its end. -/
def commentEnd? : Text → Option Text
  | [] => none
  | '-' :: '-' :: '>' :: cs => some cs
  | '-' :: '-' :: _ :: cs => commentEnd? cs
  | '-' :: c :: cs =>
      if c = '-' then none else commentEnd? cs
  | c :: cs => if c = '-' then none else commentEnd? cs

/- The text after a comment. -/
def comment? : Text → Option Text
  | '<' :: '!' :: '-' :: '-' :: cs =>
      match cs with
      | '>' :: rest => some rest
      | '-' :: '>' :: rest => some rest
      | _ => commentEnd? cs
  | _ => none

/- The text after the first occurrence of a mark. -/
def afterMark?
    (mark t : Text) : Option Text :=
  (Text.find? mark t).map (fun n => t.drop (n + mark.length))

/- The text after a processing instruction. -/
def instruction? : Text → Option Text
  | '<' :: '?' :: cs => afterMark? ['?', '>'] cs
  | _ => none

/- The text after a declaration. -/
def declaration? : Text → Option Text
  | '<' :: '!' :: c :: cs =>
      if c.isAlpha then afterMark? ['>'] cs else none
  | _ => none

/- The mark that opens character data. -/
def dataMark : Text :=
  "<![CDATA[".toList

/- The text after character data. -/
def characterData?
    (t : Text) : Option Text :=
  if dataMark.isPrefixOf t then
    afterMark? [']', ']', '>'] (t.drop dataMark.length)
  else
    none

/- The text after a construct of any kind. -/
def htmlConstruct?
    (t : Text) : Option Text :=
  (openTag? t).orElse fun _ =>
    (closeTag? t).orElse fun _ =>
      (comment? t).orElse fun _ =>
        (instruction? t).orElse fun _ =>
          (declaration? t).orElse fun _ =>
            characterData? t

end Html

end ProseCheck
