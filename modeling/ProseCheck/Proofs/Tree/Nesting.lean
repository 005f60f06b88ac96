import Mathlib.Tactic.Common
import ProseCheck.Tree.Node

/-
  This file says when paragraphs of a tree are nested, and
  how this is seen from the children of a node.

  Main declarations:
    * `Node.Below`
    * `Node.NestsParagraphs`
    * `Node.Clashes`
    * `Node.clashes_paragraph_iff`
    * `Node.clashes_iff_of_ne`
-/

------------------------------------------------------------
-- Descendants
------------------------------------------------------------

namespace ProseCheck

namespace Node

/- A node that stands somewhere inside of another one. -/
inductive Below : Node → Node → Prop where
  | child
      {inner outer : Node}
      (hMem : inner ∈ outer.children) : Below inner outer
  | deeper
      {inner middle outer : Node}
      (hBelow : Below inner middle)
      (hMem : middle ∈ outer.children) : Below inner outer

/- What stands in a node is a child of it or stands in one. -/
theorem below_iff
    (inner outer : Node) :
    Below inner outer ↔
      ∃ c ∈ outer.children, inner = c ∨ Below inner c := by
  constructor
  · intro hBelow
    cases hBelow with
    | child hMem => exact ⟨inner, hMem, Or.inl rfl⟩
    | deeper hInner hMem =>
        exact ⟨_, hMem, Or.inr hInner⟩
  · rintro ⟨c, hMem, hSame | hInner⟩
    · subst hSame
      exact Below.child hMem
    · exact Below.deeper hInner hMem

end Node

end ProseCheck

------------------------------------------------------------
-- Nested Paragraphs
------------------------------------------------------------

namespace ProseCheck

namespace Node

/- The node is a paragraph, or one stands inside of it. -/
def HasParagraph
    (n : Node) : Prop :=
  n.kind = .paragraph ∨
    ∃ p : Node, p.Below n ∧ p.kind = .paragraph

/-
  Some paragraph of the tree, at its root or inside of it,
  has another paragraph inside.
-/
def NestsParagraphs
    (root : Node) : Prop :=
  ∃ outer inner : Node,
    (outer = root ∨ outer.Below root) ∧
      outer.kind = .paragraph ∧
      inner.Below outer ∧ inner.kind = .paragraph

/-
  Two paragraphs of which one holds the other meet in the
  tree, where the tree itself may stand in a paragraph.
-/
def Clashes
    (inProse : Bool)
    (n : Node) : Prop :=
  n.NestsParagraphs ∨ (inProse = true ∧ n.HasParagraph)

/- A tree on its own clashes where it nests paragraphs. -/
theorem clashes_false_iff
    (n : Node) :
    n.Clashes false ↔ n.NestsParagraphs := by
  simp [Clashes]

/- A paragraph of a tree is its root or stands in a child. -/
theorem hasParagraph_iff
    (n : Node) :
    n.HasParagraph ↔
      n.kind = .paragraph ∨
        ∃ c ∈ n.children, c.HasParagraph := by
  constructor
  · rintro (hHere | ⟨p, hBelow, hKind⟩)
    · exact Or.inl hHere
    · rcases (below_iff p n).mp hBelow with
        ⟨c, hMem, hSame | hInner⟩
      · subst hSame
        exact Or.inr ⟨p, hMem, Or.inl hKind⟩
      · exact Or.inr ⟨c, hMem, Or.inr ⟨p, hInner, hKind⟩⟩
  · rintro (hHere | ⟨c, hMem, hKind | ⟨p, hBelow, hKind⟩⟩)
    · exact Or.inl hHere
    · exact Or.inr ⟨c, Below.child hMem, hKind⟩
    · exact Or.inr ⟨p, Below.deeper hBelow hMem, hKind⟩

/-
  Paragraphs are nested where the root is one and a child
  holds another, or where they are nested in a child.
-/
theorem nestsParagraphs_iff
    (n : Node) :
    n.NestsParagraphs ↔
      (n.kind = .paragraph ∧
        ∃ c ∈ n.children, c.HasParagraph) ∨
      ∃ c ∈ n.children, c.NestsParagraphs := by
  constructor
  · rintro ⟨outer, inner, hOuter, hKind, hBelow, hInner⟩
    rcases hOuter with hRoot | hOuter
    · subst hRoot
      rcases (below_iff inner outer).mp hBelow with
        ⟨c, hMem, hSame | hDeep⟩
      · subst hSame
        exact Or.inl ⟨hKind, inner, hMem, Or.inl hInner⟩
      · exact Or.inl ⟨hKind, c, hMem,
          Or.inr ⟨inner, hDeep, hInner⟩⟩
    · rcases (below_iff outer n).mp hOuter with
        ⟨c, hMem, hPlace⟩
      exact Or.inr ⟨c, hMem, outer, inner, hPlace, hKind,
        hBelow, hInner⟩
  · rintro (⟨hKind, c, hMem, hHas⟩ | ⟨c, hMem, hNests⟩)
    · rcases hHas with hHere | ⟨p, hBelow, hInner⟩
      · exact ⟨n, c, Or.inl rfl, hKind, Below.child hMem,
          hHere⟩
      · exact ⟨n, p, Or.inl rfl, hKind,
          Below.deeper hBelow hMem, hInner⟩
    · rcases hNests with
        ⟨outer, inner, hOuter, hKind, hBelow, hInner⟩
      refine ⟨outer, inner, Or.inr ?_, hKind, hBelow, hInner⟩
      rcases hOuter with hSame | hDeep
      · subst hSame
        exact Below.child hMem
      · exact Below.deeper hDeep hMem

/-
  A paragraph clashes where it stands in another one, or
  where a child clashes inside of it.
-/
theorem clashes_paragraph_iff
    {n : Node}
    (hKind : n.kind = .paragraph)
    (inProse : Bool) :
    n.Clashes inProse ↔
      inProse = true ∨ ∃ c ∈ n.children, c.Clashes true := by
  have hHas : n.HasParagraph := Or.inl hKind
  rw [Clashes, nestsParagraphs_iff]
  constructor
  · rintro ((⟨_, c, hMem, hChild⟩ | ⟨c, hMem, hChild⟩) |
      ⟨hProse, _⟩)
    · exact Or.inr ⟨c, hMem, Or.inr ⟨rfl, hChild⟩⟩
    · exact Or.inr ⟨c, hMem, Or.inl hChild⟩
    · exact Or.inl hProse
  · rintro (hProse | ⟨c, hMem, hChild | ⟨_, hChild⟩⟩)
    · exact Or.inr ⟨hProse, hHas⟩
    · exact Or.inl (Or.inr ⟨c, hMem, hChild⟩)
    · exact Or.inl (Or.inl ⟨hKind, c, hMem, hChild⟩)

/- Any other node clashes where one of its children does. -/
theorem clashes_iff_of_ne
    {n : Node}
    (hKind : n.kind ≠ .paragraph)
    (inProse : Bool) :
    n.Clashes inProse ↔
      ∃ c ∈ n.children, c.Clashes inProse := by
  rw [Clashes, nestsParagraphs_iff, hasParagraph_iff]
  constructor
  · rintro ((⟨hHere, _⟩ | ⟨c, hMem, hChild⟩) |
      ⟨hProse, hHere | ⟨c, hMem, hChild⟩⟩)
    · exact absurd hHere hKind
    · exact ⟨c, hMem, Or.inl hChild⟩
    · exact absurd hHere hKind
    · exact ⟨c, hMem, Or.inr ⟨hProse, hChild⟩⟩
  · rintro ⟨c, hMem, hChild | ⟨hProse, hChild⟩⟩
    · exact Or.inl (Or.inr ⟨c, hMem, hChild⟩)
    · exact Or.inr ⟨hProse, Or.inr ⟨c, hMem, hChild⟩⟩

end Node

end ProseCheck
