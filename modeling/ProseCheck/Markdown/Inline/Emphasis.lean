import ProseCheck.Markdown.Line
import ProseCheck.Markdown.Token
import ProseCheck.Text.Punctuation

/-
  This file pairs the marks of emphasis.  A run of marks may
  open emphasis, close it, or both, as the characters around
  it say.  Each mark that may close is paired with the last
  mark before it that may open and is not taken.

  Key definitions include:
    * `Flanking`
    * `flanking`
    * `Mark`
    * `pairMarks`
    * `emphasisTokens`
-/

------------------------------------------------------------
-- Runs of Marks
------------------------------------------------------------

namespace ProseCheck

namespace Markdown

/- Whether a run of marks may open and may close emphasis. -/
structure Flanking where
  opens : Bool
  closes : Bool
deriving DecidableEq, Repr

/- The white space that matters beside a run of marks. -/
def isOpenSpace
    (c : Char) : Bool :=
  let n := c.toNat
  (0x09 ≤ n && n ≤ 0x0D) || n == 0x20 || n == 0xA0 ||
    n == 0x1680 || (0x2000 ≤ n && n ≤ 0x200A) ||
    n == 0x202F || n == 0x205F || n == 0x3000

/-
  What a run may do between two characters.  Only a run of
  stars can stand inside of a word.
-/
def flanking
    (mark before after : Char) : Flanking :=
  let left :=
    !(isOpenSpace after ||
      (isPunctuation after &&
        !(isOpenSpace before || isPunctuation before)))
  let right :=
    !(isOpenSpace before ||
      (isPunctuation before &&
        !(isOpenSpace after || isPunctuation after)))
  let splits := mark == '*'
  { opens := left && (splits || !right || isPunctuation before)
    closes := right && (splits || !left || isPunctuation after) }

end Markdown

end ProseCheck

------------------------------------------------------------
-- Pairs
------------------------------------------------------------

namespace ProseCheck

namespace Markdown

/-
  One mark of a run of `length` marks.  Its place among the
  pieces of the text is `place`, and its partner is the
  number of the mark that closes what it opens.
-/
structure Mark where
  mark : Char
  length : Nat
  place : Nat
  opens : Bool
  closes : Bool
  partner : Option Nat := none
deriving DecidableEq, Repr, Inhabited

/-
  Marks in pairs.  For each mark, `jumps` tells how many of
  the marks before it need not be looked at.  A search that
  fails is noted in `bottoms`, and no later search of its
  kind goes further.
-/
structure Pairing where
  marks : Array Mark
  jumps : Array Nat
  bottoms : List ((Char × Bool × Nat) × Int)
  header : Nat
  lastPlace : Int
deriving Repr

namespace Pairing

/- The mark of a number. -/
def mark
    (p : Pairing)
    (n : Nat) : Mark :=
  p.marks.getD n default

/- The number of marks before a mark that can be passed over. -/
def jump
    (p : Pairing)
    (n : Nat) : Nat :=
  p.jumps.getD n 0

/- The kind of search that a mark makes when it closes. -/
def key
    (m : Mark) : Char × Bool × Nat :=
  (m.mark, m.opens, m.length % 3)

/- The number of the mark at which a kind of search ends. -/
def bottom
    (p : Pairing)
    (k : Char × Bool × Nat) : Int :=
  ((p.bottoms.find? (fun b => b.1 == k)).map (·.2)).getD (-1)

/-
  Whether two marks may not be paired, as the lengths of
  their runs sum up to a multiple of three.
-/
def isOdd
    (first second : Mark) : Bool :=
  (first.closes || second.opens) &&
    (first.length + second.length) % 3 == 0 &&
    (first.length % 3 != 0 || second.length % 3 != 0)

/-
  The number of the mark that a closing mark is paired with,
  searched from the number `n` down.
-/
def findOpener
    (p : Pairing)
    (closer : Mark)
    (bottom : Int)
    (n : Int) : Nat → Option Nat
  | 0 => none
  | steps + 1 =>
      if n ≤ bottom then
        none
      else
        let opener := p.mark n.toNat
        if opener.mark = closer.mark ∧ opener.opens = true ∧
            opener.partner = none ∧
            isOdd opener closer = false then
          some n.toNat
        else
          findOpener p closer bottom
            (n - (p.jump n.toNat + 1)) steps

/- Pair the mark `n` with the mark `m` before it. -/
def join
    (p : Pairing)
    (m n : Nat) : Pairing :=
  let skip :=
    if 0 < m ∧ (p.mark (m - 1)).opens = false then
      p.jump (m - 1) + 1
    else
      0
  { p with
    marks :=
      (p.marks.modify n ({ · with opens := false })).modify m
        ({ · with partner := some n, closes := false }),
    jumps :=
      (p.jumps.setIfInBounds n (n - m + skip)).setIfInBounds m
        skip,
    lastPlace := -2 }

/- Try to pair the mark `n` with one of the marks before it. -/
def close
    (p : Pairing)
    (n : Nat) : Pairing :=
  let closer := p.mark n
  let start : Int := p.header - p.jump p.header - 1
  let k := key closer
  match p.findOpener closer (p.bottom k) start
      (p.marks.size + 1) with
  | some m => p.join m n
  | none => { p with bottoms := (k, start) :: p.bottoms }

/- Take the mark `n`, which comes after those taken so far. -/
def step
    (p : Pairing)
    (n : Nat) : Pairing :=
  let m := p.mark n
  let apart :=
    (p.mark p.header).mark ≠ m.mark ∨
      p.lastPlace ≠ (m.place : Int) - 1
  let p :=
    { p with
      jumps := p.jumps.push 0,
      header := if apart then n else p.header,
      lastPlace := m.place }
  if m.closes then p.close n else p

end Pairing

/- The marks with their partners. -/
def pairMarks
    (marks : Array Mark) : Array Mark :=
  ((List.range marks.size).foldl Pairing.step
    ⟨marks, #[], [], 0, -2⟩).marks

end Markdown

end ProseCheck

------------------------------------------------------------
-- Tokens of Emphasis
------------------------------------------------------------

namespace ProseCheck

namespace Markdown

/- A token that opens or closes emphasis. -/
def emphasisToken
    (strong opening : Bool)
    (mark : Char) : Token :=
  { name :=
      (if strong then "strong" else "em") ++
        (if opening then "_open" else "_close"),
    nesting := if opening then 1 else -1,
    markup := if strong then [mark, mark] else [mark] }

/-
  Whether the pair of the mark `n` and the pair around it are
  one pair of double marks.
-/
def isStrong
    (marks : Array Mark)
    (n partner : Nat) : Bool :=
  match n with
  | 0 => false
  | before + 1 =>
      let outer := marks.getD before default
      let mark := marks.getD n default
      let past := marks.getD (partner + 1) default
      outer.partner == some (partner + 1) &&
        outer.mark == mark.mark &&
        outer.place + 1 == mark.place &&
        past.place == (marks.getD partner default).place + 1

/-
  The tokens in the place of the marks, from the mark `n - 1`
  down.  A mark without a token is text, and the outer marks
  of a double pair are nothing.
-/
def emphasisTokens
    (marks : Array Mark) :
    Nat → List (Nat × Option Token) → List (Nat × Option Token)
  | 0, found => found
  | n + 1, found =>
      let m := marks.getD n default
      match m.partner with
      | none => emphasisTokens marks n found
      | some partner =>
          let strong := isStrong marks n partner
          let closer := marks.getD partner default
          let found :=
            (m.place, some (emphasisToken strong true m.mark)) ::
              (closer.place,
                some (emphasisToken strong false m.mark)) ::
              found
          if strong then
            emphasisTokens marks (n - 1)
              ((m.place - 1, none) ::
                (closer.place + 1, none) :: found)
          else
            emphasisTokens marks n found
termination_by n => n

end Markdown

end ProseCheck
