import ProseCheck.Markdown.Block.Definition

/-
  This file recognises the constructs inside of a block: code
  spans, links, images, autolinks, raw HTML and character
  references.  Each reader tells where a construct ends.

  To find the end of a link's text, the constructs inside of
  it are passed over.  Where each of them ends is remembered,
  so that no part of a text is passed over twice.

  Key definitions include:
    * `Memo`
    * `Inline.codeEnd?`
    * `Inline.labelEnd?`
    * `Inline.linkEnd?`
    * `Inline.skip`
-/

------------------------------------------------------------
-- Contents
------------------------------------------------------------

namespace ProseCheck

namespace Markdown

/- The content of a block, and the labels that are defined. -/
structure Inline where
  source : Array Char
  labels : List Text

/-
  What is remembered of a content: where the construct at an
  offset ends; the last offset at which a run of so many
  marks of code stands; and whether all such runs are known.
-/
structure Memo where
  ends : Array (Option Nat)
  runs : List (Nat × Nat) := []
  scanned : Bool := false

namespace Memo

/- Nothing is remembered of a content of some length. -/
def empty
    (length : Nat) : Memo :=
  { ends := Array.replicate (length + 1) none }

/- The last offset of a run, or the first offset of all. -/
def run
    (m : Memo)
    (length : Nat) : Nat :=
  ((m.runs.find? (fun r => r.1 == length)).map (·.2)).getD 0

end Memo

namespace Inline

/- The character at an offset. -/
def char?
    (t : Inline)
    (offset : Nat) : Option Char :=
  t.source[offset]?

/- The characters between two offsets. -/
def slice
    (t : Inline)
    (start stop : Nat) : Text :=
  (t.source.extract start stop).toList

/- All characters from an offset on. -/
def rest
    (t : Inline)
    (offset : Nat) : Text :=
  t.slice offset t.source.size

/- The offset after the characters of a class, up to `stop`. -/
def skipWhile
    (t : Inline)
    (p : Char → Bool)
    (stop offset : Nat) : Nat :=
  offset + ((t.slice offset stop).takeWhile p).length

end Inline

end Markdown

end ProseCheck

------------------------------------------------------------
-- Code Spans
------------------------------------------------------------

namespace ProseCheck

namespace Markdown

namespace Inline

/-
  The offset of the run of marks that closes code which was
  opened with `length` marks, searched from `offset` on.
  Runs of another length are remembered on the way.
-/
def closingRun?
    (t : Inline)
    (stop length offset : Nat) :
    Nat → StateM Memo (Option Nat)
  | 0 => return none
  | steps + 1 => do
      let start :=
        t.skipWhile (· != tick) t.source.size offset
      if t.source.size ≤ start then
        return none
      let past := t.skipWhile (· == tick) stop (start + 1)
      if past - start = length then
        return some start
      modify fun m =>
        { m with runs := (past - start, start) :: m.runs }
      closingRun? t stop length past steps

/-
  The end of the marks at an offset, and the end of the code
  that they open, if there is such code.
-/
def codeEnd?
    (t : Inline)
    (stop start : Nat) : StateM Memo (Nat × Option Nat) := do
  let past := t.skipWhile (· == tick) stop (start + 1)
  let length := past - start
  let m ← get
  if m.scanned ∧ m.run length ≤ start then
    return (past, none)
  match ← t.closingRun? stop length past t.source.size with
  | some closing => return (past, some (closing + length))
  | none =>
      modify ({ · with scanned := true })
      return (past, none)

end Inline

end Markdown

end ProseCheck

------------------------------------------------------------
-- Autolinks, HTML and References
------------------------------------------------------------

namespace ProseCheck

namespace Markdown

/- Whether a character may follow the scheme of an autolink. -/
def isAutolinkChar
    (c : Char) : Bool :=
  !(c == '<' || c == '>' || c.toNat ≤ 0x20)

/- Whether a text is an address with a scheme. -/
def isAddress
    (t : Text) : Bool :=
  let scheme := t.takeWhile Address.isSchemeChar
  match t.drop scheme.length with
  | ':' :: rest =>
      scheme.head?.any Char.isAlpha &&
        2 ≤ scheme.length && scheme.length ≤ 32 &&
        rest.all isAutolinkChar
  | _ => false

/- Whether a character may stand before the sign of a mailbox. -/
def isMailboxChar
    (c : Char) : Bool :=
  c.isAlphanum ||
    ".!#$%&'*+/=?^_\x7b|\x7d~-".toList.contains c ||
    c == tick

/- Whether a text is a label of a host name. -/
def isHostLabel
    (t : Text) : Bool :=
  t.length ≤ 63 && t.head?.any Char.isAlphanum &&
    t.getLast?.any Char.isAlphanum &&
    t.all (fun c => c.isAlphanum || c == '-')

/- Whether a text is the address of a mailbox. -/
def isMailbox
    (t : Text) : Bool :=
  let name := t.takeWhile isMailboxChar
  match t.drop name.length with
  | '@' :: rest =>
      !name.isEmpty &&
        (Address.splitAt (· == '.') rest).all isHostLabel
  | _ => false

namespace Inline

/- The address of the autolink at an offset. -/
def autolink?
    (t : Inline)
    (stop start : Nat) : Option Text :=
  let past :=
    t.skipWhile (fun c => c != '<' && c != '>') stop (start + 1)
  if past < stop ∧ t.char? past = some '>' then
    let address := t.slice (start + 1) past
    if isAddress address ∧ isSafeAddress address = true then
      some address
    else if isMailbox address then
      some address
    else
      none
  else
    none

/- The end of the raw HTML at an offset. -/
def htmlEnd?
    (t : Inline)
    (stop start : Nat) : Option Nat :=
  if stop ≤ start + 2 then
    none
  else
    (Html.htmlConstruct? (t.rest start)).map
      (fun left => t.source.size - left.length)

/- The character reference at an offset. -/
def reference?
    (t : Inline)
    (start : Nat) : Option CharacterReference :=
  characterReference? (t.slice start (start + 64))

/- The offset after a line break and the white space after it. -/
def afterBreak
    (t : Inline)
    (stop start : Nat) : Nat :=
  t.skipWhile isIndent stop (start + 1)

end Inline

end Markdown

end ProseCheck

------------------------------------------------------------
-- Links
------------------------------------------------------------

namespace ProseCheck

namespace Markdown

/- A function that passes over the construct at an offset. -/
abbrev Skip :=
  (stop offset : Nat) → StateM Memo Nat

/- How the part of a link in parentheses was read. -/
inductive Target where
  | unfinished
  | closed (past : Nat)
  | broken (past : Nat)
deriving DecidableEq, Repr

namespace Inline

/-
  The offset of the bracket that closes a label, where
  `level` brackets are open.  In the text of a link, no other
  link may begin.
-/
def labelEndFrom
    (t : Inline)
    (skip : Skip)
    (inLink : Bool)
    (stop offset level : Nat) :
    Nat → StateM Memo (Option Nat)
  | 0 => return none
  | steps + 1 => do
      if stop ≤ offset then
        return none
      let c := t.char? offset
      let level := if c = some ']' then level - 1 else level
      if c = some ']' ∧ level = 0 then
        return some offset
      let past ← skip stop offset
      if c = some '[' ∧ past = offset + 1 then
        labelEndFrom t skip inLink stop past (level + 1) steps
      else if c = some '[' ∧ inLink = true then
        return none
      else
        labelEndFrom t skip inLink stop past level steps

/- The offset of the bracket that closes the label at `start`. -/
def labelEnd?
    (t : Inline)
    (skip : Skip)
    (inLink : Bool)
    (stop start : Nat) : StateM Memo (Option Nat) :=
  t.labelEndFrom skip inLink stop (start + 1) 1 (stop - start)

/- The offset after the title at an offset, if there is one. -/
def afterTitle
    (t : Inline)
    (stop start offset : Nat) : Nat :=
  match linkTitle? (t.slice offset stop) with
  | some part =>
      if start = offset then offset
      else t.skipWhile isGap stop (offset + part.length)
  | none => offset

/-
  Read the destination and the title of a link, where `start`
  is the offset after the opening parenthesis.
-/
def target
    (t : Inline)
    (stop start : Nat) : Target :=
  let offset := t.skipWhile isGap stop start
  if stop ≤ offset then
    .unfinished
  else
    let offset :=
      match linkDestination? (t.slice offset stop) with
      | none => offset
      | some part =>
          let past :=
            if isSafeAddress (unescape part.content) then
              offset + part.length
            else
              offset
          t.afterTitle stop past (t.skipWhile isGap stop past)
    if offset < stop ∧ t.char? offset = some ')' then
      .closed (offset + 1)
    else
      .broken (offset + 1)

/- Whether a label is defined. -/
def isDefined
    (t : Inline)
    (start stop : Nat) : Bool :=
  t.labels.contains (labelKey (t.slice start stop))

/-
  The end of a link by reference.  Its text stands between
  the offsets `start` and `textEnd`, and a label of its own
  may stand at `offset`.
-/
def referenceEnd?
    (t : Inline)
    (skip : Skip)
    (stop start textEnd offset : Nat) :
    StateM Memo (Option Nat) := do
  if t.labels.isEmpty then
    return none
  let own ←
    if offset < stop ∧ t.char? offset = some '[' then
      t.labelEnd? skip false stop offset
    else
      pure none
  let past := (own.map (· + 1)).getD (textEnd + 1)
  let isOwn := own.any (offset + 1 < ·)
  let defined :=
    if isOwn then t.isDefined (offset + 1) (own.getD 0)
    else t.isDefined start textEnd
  return if defined then some past else none

/- The end of the text of the link at an offset, and its own. -/
def linkEnd?
    (t : Inline)
    (skip : Skip)
    (stop start : Nat) : StateM Memo (Option (Nat × Nat)) := do
  match ← t.labelEnd? skip true stop start with
  | none => return none
  | some textEnd =>
      let byReference (offset : Nat) := do
        let past ←
          t.referenceEnd? skip stop (start + 1) textEnd offset
        return past.map fun past => (textEnd, past)
      let offset := textEnd + 1
      if offset < stop ∧ t.char? offset = some '(' then
        match t.target stop (offset + 1) with
        | .unfinished => return none
        | .closed past => return some (textEnd, past)
        | .broken past => byReference past
      else
        byReference offset

/- The end of the text of the image at an offset, and its own. -/
def imageEnd?
    (t : Inline)
    (skip : Skip)
    (stop start : Nat) : StateM Memo (Option (Nat × Nat)) := do
  if t.char? (start + 1) ≠ some '[' then
    return none
  match ← t.labelEnd? skip false stop (start + 1) with
  | none => return none
  | some textEnd =>
      let offset := textEnd + 1
      if offset < stop ∧ t.char? offset = some '(' then
        match t.target stop (offset + 1) with
        | .closed past => return some (textEnd, past)
        | _ => return none
      else
        let past ←
          t.referenceEnd? skip stop (start + 2) textEnd offset
        return past.map fun past => (textEnd, past)

end Inline

end Markdown

end ProseCheck

------------------------------------------------------------
-- Passing Over
------------------------------------------------------------

namespace ProseCheck

namespace Markdown

namespace Inline

/- Whether a character can begin a construct. -/
def isSpecial
    (c : Char) : Bool :=
  c == '\n' || c == '\\' || c == tick || c == '*' ||
    c == '_' || c == '[' || c == ']' || c == '!' || c == '<' ||
    c == '&'

/- The end of the construct at an offset, if there is one. -/
def constructEnd?
    (t : Inline)
    (skip : Skip)
    (stop offset : Nat) : StateM Memo (Option Nat) := do
  match t.char? offset with
  | some '\n' => return some (t.afterBreak stop offset)
  | some '\\' =>
      if stop ≤ offset + 1 then return none
      else if t.char? (offset + 1) = some '\n' then
        return some (t.afterBreak stop (offset + 1))
      else return some (offset + 2)
  | some '[' =>
      return (← t.linkEnd? skip stop offset).map (·.2)
  | some '!' =>
      return (← t.imageEnd? skip stop offset).map (·.2)
  | some '<' =>
      match t.autolink? stop offset with
      | some address => return some (offset + address.length + 2)
      | none => return t.htmlEnd? stop offset
  | some '&' =>
      return (t.reference? offset).map (offset + ·.length)
  | some c =>
      if c = tick then
        let (past, codeEnd) ← t.codeEnd? stop offset
        return some (codeEnd.getD past)
      else if isSpecial c then
        return none
      else
        return some
          (t.skipWhile (fun d => !isSpecial d) stop offset)
  | none => return none

/-
  Pass over the construct at an offset, or over one character
  where there is none, with some depth left.  Where none is
  left, all of the text is passed over.
-/
def skip
    (t : Inline) : Nat → Skip
  | depth, stop, offset => do
      match (← get).ends.getD offset none with
      | some past => return past
      | none =>
          let past ←
            match depth with
            | 0 => pure (stop + 1)
            | depth + 1 => do
                let found ←
                  t.constructEnd? (skip t depth) stop offset
                pure (found.getD (offset + 1))
          modify fun m =>
            { m with
              ends := m.ends.setIfInBounds offset (some past) }
          return past

end Inline

end Markdown

end ProseCheck
