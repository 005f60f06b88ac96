import Mathlib.Tactic.Common
import ProseCheck.Tree.Node

/-
  This file says when the nodes of a tree are placed in the
  source one behind the other, so that a reader of the source
  who goes from node to node never has to turn back.

  A text stands where nothing before it is still to be read.
  A container may begin earlier, as what it covers may be
  read in part, but what is in it must not.

  Main declarations:
    * `Node.Between`
    * `Node.AllBetween`
    * `Node.Between.mono`
    * `Node.AllBetween.append_singleton`
    * `Node.AllBetween.from_start`
    * `Node.AllBetween.bounds_of_mem`
-/

------------------------------------------------------------
-- Placed Nodes
------------------------------------------------------------

namespace ProseCheck

namespace Node

mutual

/-
  The node ends at or before the offset `stop`, and no text
  in it begins before the offset `start`, or before the node
  or a text that stands ahead of it.
-/
def Between
    (start stop : Int) : Node → Prop
  | ⟨kind, first, last, _, children⟩ =>
      first ≤ stop ∧ last ≤ stop ∧
        (kind = .text →
          start ≤ first ∧ first ≤ last ∧ children = []) ∧
        AllBetween (max start first) stop children

/- The nodes stand one behind the other, between two offsets. -/
def AllBetween
    (start stop : Int) : List Node → Prop
  | [] => start ≤ stop
  | n :: ns =>
      ∃ middle, Between start middle n ∧
        AllBetween middle stop ns

end

/- What it is for a node to stand between two offsets. -/
theorem between_iff
    (start stop : Int)
    (n : Node) :
    n.Between start stop ↔
      n.start ≤ stop ∧ n.stop ≤ stop ∧
        (n.kind = .text →
          start ≤ n.start ∧ n.start ≤ n.stop ∧
            n.children = []) ∧
        AllBetween (max start n.start) stop n.children := by
  cases n
  rw [Between]

/- A node without children stands where its ends allow. -/
theorem between_leaf
    {start stop first last : Int}
    {kind : NodeKind}
    {content : Text}
    (hStretch : start ≤ stop)
    (hFirst : first ≤ stop)
    (hLast : last ≤ stop)
    (hText :
      kind = .text → start ≤ first ∧ first ≤ last) :
    Between start stop ⟨kind, first, last, content, []⟩ := by
  rw [Between, AllBetween]
  refine ⟨hFirst, hLast, ?_, ?_⟩
  · intro hKind
    exact ⟨(hText hKind).1, (hText hKind).2, rfl⟩
  · omega

end Node

end ProseCheck

------------------------------------------------------------
-- Bounds
------------------------------------------------------------

namespace ProseCheck

namespace Node

mutual

/- The offsets between which a node stands go forward. -/
theorem Between.le
    {start stop : Int}
    {n : Node}
    (hNode : n.Between start stop) :
    start ≤ stop := by
  match n with
  | ⟨_, first, _, _, children⟩ =>
      unfold Between at hNode
      have hInside := hNode.2.2.2.le
      omega

/- Nodes one behind the other do not go back. -/
theorem AllBetween.le
    {start stop : Int}
    {ns : List Node}
    (hAll : AllBetween start stop ns) :
    start ≤ stop := by
  match ns with
  | [] =>
      unfold AllBetween at hAll
      exact hAll
  | n :: ns =>
      unfold AllBetween at hAll
      rcases hAll with ⟨middle, hNode, hRest⟩
      exact Int.le_trans hNode.le hRest.le

end

mutual

/- A node stays placed when its stretch gets wider. -/
theorem Between.mono
    {start stop before beyond : Int}
    {n : Node}
    (hNode : n.Between start stop)
    (hBefore : before ≤ start)
    (hBeyond : stop ≤ beyond) :
    n.Between before beyond := by
  match n with
  | ⟨kind, first, last, _, children⟩ =>
      rw [Between] at hNode ⊢
      rcases hNode with ⟨hFirst, hLast, hText, hChildren⟩
      refine ⟨Int.le_trans hFirst hBeyond,
        Int.le_trans hLast hBeyond, ?_, ?_⟩
      · intro hKind
        have hPlace := hText hKind
        exact ⟨Int.le_trans hBefore hPlace.1, hPlace.2⟩
      · exact hChildren.mono (by omega) hBeyond

/- Nodes stay placed when their stretch gets wider. -/
theorem AllBetween.mono
    {start stop before beyond : Int}
    {ns : List Node}
    (hAll : AllBetween start stop ns)
    (hBefore : before ≤ start)
    (hBeyond : stop ≤ beyond) :
    AllBetween before beyond ns := by
  match ns with
  | [] =>
      rw [AllBetween] at hAll ⊢
      omega
  | n :: ns =>
      rw [AllBetween] at hAll ⊢
      rcases hAll with ⟨middle, hNode, hRest⟩
      exact ⟨middle,
        hNode.mono hBefore (Int.le_refl middle),
        hRest.mono (Int.le_refl middle) hBeyond⟩

end

end Node

end ProseCheck

------------------------------------------------------------
-- Rows of Nodes
------------------------------------------------------------

namespace ProseCheck

namespace Node

/- A node may be put behind nodes that end before it. -/
theorem AllBetween.append_singleton
    {start middle stop : Int}
    {ns : List Node}
    (hAll : AllBetween start middle ns)
    {n : Node}
    (hNode : n.Between middle stop) :
    AllBetween start stop (ns ++ [n]) := by
  induction ns generalizing start with
  | nil =>
      unfold AllBetween at hAll
      rw [List.nil_append, AllBetween]
      refine ⟨stop, hNode.mono hAll (Int.le_refl stop), ?_⟩
      unfold AllBetween
      exact Int.le_refl stop
  | cons m ns ih =>
      unfold AllBetween at hAll
      rw [List.cons_append, AllBetween]
      rcases hAll with ⟨reached, hFirst, hRest⟩
      exact ⟨reached, hFirst, ih hRest⟩

/-
  The stretch of nodes may as well begin where the first of
  them does.
-/
theorem AllBetween.from_start
    {start stop : Int}
    {n : Node}
    {ns : List Node}
    (hAll : AllBetween start stop (n :: ns)) :
    AllBetween (max start n.start) stop (n :: ns) := by
  rw [AllBetween] at hAll ⊢
  rcases hAll with ⟨middle, hNode, hRest⟩
  refine ⟨middle, ?_, hRest⟩
  rw [between_iff] at hNode ⊢
  rcases hNode with ⟨hFirst, hLast, hText, hChildren⟩
  refine ⟨hFirst, hLast, ?_, ?_⟩
  · intro hKind
    have hPlace := hText hKind
    exact ⟨by omega, hPlace.2⟩
  · exact hChildren.mono (by omega) (Int.le_refl middle)

/- A node in a row begins and ends before the row does. -/
theorem AllBetween.bounds_of_mem
    {start stop : Int}
    {ns : List Node}
    (hAll : AllBetween start stop ns)
    {n : Node}
    (hMem : n ∈ ns) :
    n.start ≤ stop ∧ n.stop ≤ stop := by
  induction ns generalizing start with
  | nil => simp at hMem
  | cons m ns ih =>
      unfold AllBetween at hAll
      rcases hAll with ⟨middle, hNode, hRest⟩
      rcases List.mem_cons.mp hMem with hSame | hLater
      · have hPlace := (between_iff start middle m).mp hNode
        have hBehind := hRest.le
        subst hSame
        omega
      · exact ih hRest hLater

end Node

end ProseCheck
