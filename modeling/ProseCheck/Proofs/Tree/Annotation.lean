import ProseCheck.Proofs.Annotated.Cover
import ProseCheck.Proofs.Text.Slices
import ProseCheck.Proofs.Tree.Location
import ProseCheck.Proofs.Tree.Nesting
import ProseCheck.Tree.Annotate

/-
  This file shows what becomes of a tree that is read as an
  annotated text.  Where the nodes stand one behind the other
  in the source, nothing but a paragraph in a paragraph makes
  the reading fail, and otherwise the segments cover the
  source.  The trees of located tokens are of this kind.

  Main declarations:
    * `chain_gapSegments`
    * `Walk.Sound`
    * `Walk.Settles`
    * `Walk.Sound.visit_text`
    * `Walk.Sound.visit_paragraph`
    * `Walk.visit_settles`
    * `annotate_settles`
    * `annotate_locate`
-/

------------------------------------------------------------
-- Gaps
------------------------------------------------------------

namespace ProseCheck

/- The markup before a break is a chain up to the break. -/
theorem chain_markupBefore
    {start stop : Int}
    (hOrder : start ≤ stop)
    (run : Text) :
    Segment.Chain start stop
      (markupBefore start stop run) := by
  unfold markupBefore
  split
  · exact ⟨rfl, hOrder, rfl⟩
  · change start = stop
    omega

/-
  The segments of a gap are a chain from the current run of
  markup to the end of the gap.
-/
theorem chain_gapSegments
    (inProse : Bool)
    {stop start position : Int}
    (run : Text)
    {characters : Text}
    (hRun : start ≤ position)
    (hFit : position + characters.length ≤ stop) :
    Segment.Chain start stop
      (gapSegments inProse stop start position run
        characters) := by
  fun_induction gapSegments inProse stop start position run
    characters with
  | case1 start position run =>
      refine chain_markupBefore ?_ run.reverse
      simp only [List.length_nil] at hFit
      omega
  | case2 start position run cs ih =>
      rw [Segment.chain_append_iff]
      refine ⟨position, chain_markupBefore hRun _, rfl, ?_,
        ih (Int.le_refl _) ?_⟩
      · dsimp only
        omega
      · simp only [List.length_cons] at hFit
        omega
  | case3 start position run c cs _ hBreak ih =>
      rw [Segment.chain_append_iff]
      refine ⟨position, chain_markupBefore hRun _, rfl, ?_,
        ih (Int.le_refl _) ?_⟩
      · dsimp only
        omega
      · simp only [List.length_cons] at hFit
        omega
  | case4 start position run c cs _ hBreak ih =>
      simp only [List.length_cons] at hFit
      exact ih (by omega) (by omega)

end ProseCheck

------------------------------------------------------------
-- The Walk
------------------------------------------------------------

namespace ProseCheck

namespace Walk

/-
  The segments of a walk follow each other, up to where the
  source is taken.
-/
structure Sound
    (w : Walk) : Prop where
  builder : w.builder.Sound
  reached_eq : w.builder.reached = w.reached

/- A walk is sound before the first character. -/
theorem sound_start : start.Sound :=
  ⟨Builder.sound_empty, rfl⟩

/- A walk has not reached less than nothing. -/
theorem Sound.reached_nonneg
    {w : Walk}
    (hSound : w.Sound) :
    0 ≤ w.reached := by
  rw [← hSound.reached_eq]
  exact hSound.builder.reached_nonneg

/- What a walk takes is accepted by its builder. -/
theorem addAll_of_take
    {w next : Walk}
    {stop : Int}
    {segments : List Segment}
    (hTake : w.take stop segments = .ok next) :
    w.builder.addAll segments = .ok next.builder := by
  unfold Walk.take at hTake
  split at hTake
  · rename_i b hAdd
    cases hTake
    exact hAdd
  · cases hTake

/- A walk takes every chain that goes on from its end. -/
theorem Sound.take
    {w : Walk}
    (hSound : w.Sound)
    {stop : Int}
    {segments : List Segment}
    (hChain : Segment.Chain w.reached stop segments) :
    ∃ next, w.take stop segments = .ok next ∧ next.Sound ∧
      next.reached = stop := by
  rw [← hSound.reached_eq] at hChain
  rcases Builder.addAll_of_chain hSound.builder hChain with
    ⟨b, hAdd, hBuilder, hReached⟩
  refine ⟨⟨stop, b⟩, ?_, ⟨hBuilder, hReached⟩, rfl⟩
  rw [Walk.take, hAdd]

/- A walk takes the characters before any offset. -/
theorem Sound.gap
    {w : Walk}
    (hSound : w.Sound)
    (source : Text)
    (inProse : Bool)
    (stop : Int) :
    ∃ next, w.gap source inProse stop = .ok next ∧
      next.Sound ∧ next.reached = max w.reached stop := by
  unfold Walk.gap
  split
  · exact ⟨w, rfl, hSound, by omega⟩
  · rename_i hAhead
    have hNonneg := hSound.reached_nonneg
    have hFit :
        w.reached + (source.slice w.reached.toNat
          stop.toNat).length ≤ stop := by
      rw [Text.length_slice]
      omega
    have hChain :=
      chain_gapSegments inProse [] (Int.le_refl _) hFit
    rcases hSound.take hChain with
      ⟨next, hTake, hNext, hReached⟩
    exact ⟨next, hTake, hNext, by omega⟩

end Walk

end ProseCheck

------------------------------------------------------------
-- Visits
------------------------------------------------------------

namespace ProseCheck

namespace Walk

/-
  A visit fails for nested paragraphs exactly where there are
  some, and comes to a sound walk otherwise, which has not
  gone beyond the offset `stop`.
-/
def Settles
    (clashes : Prop)
    (stop : Int)
    (result : Except AnnotationError Walk) : Prop :=
  (clashes ∧ result = .error .nestedParagraph) ∨
    (¬ clashes ∧ ∃ next, result = .ok next ∧ next.Sound ∧
      next.reached ≤ stop)

/- A text is visited where nothing is taken beyond its start. -/
theorem Sound.visit_text
    {w : Walk}
    (hSound : w.Sound)
    (source : Text)
    (inProse : Bool)
    {first last : Int}
    (content : Text)
    (children : List Node)
    (hFirst : w.reached ≤ first)
    (hOrder : first ≤ last) :
    ∃ next,
      visit source inProse
          ⟨.text, first, last, content, children⟩ w =
        .ok next ∧ next.Sound ∧ next.reached = last := by
  rcases hSound.gap source inProse first with
    ⟨before, hGap, hBefore, hReached⟩
  have hChain :
      Segment.Chain before.reached last
        [⟨.text, first, last, content⟩] := by
    rw [Segment.chain_singleton_iff]
    exact ⟨by dsimp only; omega, hOrder, rfl⟩
  rcases hBefore.take hChain with
    ⟨next, hTake, hNext, hLast⟩
  refine ⟨next, ?_, hNext, hLast⟩
  rw [visit, if_neg (Int.not_lt.mpr hFirst), hGap]
  exact hTake

/- Of a node that is neither, the children are visited. -/
theorem visit_container
    (source : Text)
    (inProse : Bool)
    {kind : NodeKind}
    (hParagraph : kind ≠ .paragraph)
    (hText : kind ≠ .text)
    (first last : Int)
    (content : Text)
    (children : List Node)
    (w : Walk) :
    visit source inProse
        ⟨kind, first, last, content, children⟩ w =
      visitAll source inProse children w := by
  rw [visit]
  · exact hParagraph
  · exact hText

/-
  A paragraph is visited where its children are, once the
  characters before it are taken.
-/
theorem Sound.visit_paragraph
    {w : Walk}
    (hSound : w.Sound)
    (source : Text)
    (inProse : Bool)
    {first last stop : Int}
    (content : Text)
    {children : List Node}
    (hLast : last ≤ stop)
    (hChildren :
      ∀ before : Walk, before.Sound →
        before.reached = max w.reached first →
        Settles (∃ c ∈ children, c.Clashes true) stop
          (visitAll source true children before)) :
    Settles
      (Node.Clashes inProse
        ⟨.paragraph, first, last, content, children⟩)
      stop
      (visit source inProse
        ⟨.paragraph, first, last, content, children⟩ w) := by
  rw [Settles, Node.clashes_paragraph_iff rfl, visit]
  cases inProse with
  | true => exact Or.inl ⟨Or.inl rfl, rfl⟩
  | false =>
      rcases hSound.gap source false first with
        ⟨before, hGap, hBefore, hReached⟩
      rw [if_neg Bool.false_ne_true, hGap]
      rcases hChildren before hBefore hReached with
        ⟨hClash, hFail⟩ | ⟨hClear, inner, hOk, hInner, hTo⟩
      · refine Or.inl ⟨Or.inr hClash, ?_⟩
        change (visitAll source true children before >>=
          fun v => v.gap source true last) = _
        rw [hFail]
        rfl
      · rcases hInner.gap source true last with
          ⟨next, hRest, hNext, hEnd⟩
        refine Or.inr ⟨by simpa using hClear, next, ?_, hNext,
          by omega⟩
        change (visitAll source true children before >>=
          fun v => v.gap source true last) = _
        rw [hOk]
        exact hRest

mutual

/- A visit of a node comes to what the node lets it come to. -/
theorem visit_settles
    (source : Text)
    (inProse : Bool)
    {start stop : Int}
    (n : Node)
    (hNode : n.Between start stop)
    {w : Walk}
    (hSound : w.Sound)
    (hReached : w.reached ≤ start) :
    Settles (n.Clashes inProse) stop
      (visit source inProse n w) := by
  match n with
  | ⟨kind, first, last, content, children⟩ =>
      unfold Node.Between at hNode
      rcases hNode with ⟨hFirst, hLast, hText, hChildren⟩
      have hInside : w.reached ≤ max start first := by omega
      by_cases hParagraph : kind = .paragraph
      · subst hParagraph
        exact hSound.visit_paragraph source inProse content
          hLast
          (fun before hBefore hTo =>
            visitAll_settles source true children hChildren
              hBefore (by omega))
      rw [Settles, Node.clashes_iff_of_ne hParagraph]
      by_cases hKind : kind = .text
      · subst hKind
        rcases hText rfl with ⟨hStart, hOrder, hLeaf⟩
        rcases hSound.visit_text source inProse content
          children (Int.le_trans hReached hStart) hOrder with
          ⟨next, hOk, hNext, hTo⟩
        refine Or.inr ⟨by simp [hLeaf], next, hOk, hNext, ?_⟩
        omega
      · rw [visit_container source inProse hParagraph hKind]
        exact visitAll_settles source inProse children
          hChildren hSound hInside

/- A visit of nodes comes to what all of them let it. -/
theorem visitAll_settles
    (source : Text)
    (inProse : Bool)
    {start stop : Int}
    (ns : List Node)
    (hNodes : Node.AllBetween start stop ns)
    {w : Walk}
    (hSound : w.Sound)
    (hReached : w.reached ≤ start) :
    Settles (∃ n ∈ ns, n.Clashes inProse) stop
      (visitAll source inProse ns w) := by
  match ns with
  | [] =>
      unfold Node.AllBetween at hNodes
      unfold visitAll
      exact Or.inr ⟨by simp, w, rfl, hSound, by omega⟩
  | n :: ns =>
      unfold Node.AllBetween at hNodes
      rcases hNodes with ⟨middle, hNode, hRest⟩
      unfold visitAll
      rcases visit_settles source inProse n hNode hSound
        hReached with
        ⟨hClash, hFail⟩ | ⟨hClear, next, hOk, hNext, hTo⟩
      · rw [hFail]
        exact Or.inl ⟨⟨n, by simp, hClash⟩, rfl⟩
      · rw [hOk]
        have hIff :
            (∃ m ∈ n :: ns, m.Clashes inProse) ↔
              ∃ m ∈ ns, m.Clashes inProse := by
          simp [hClear]
        rw [Settles, hIff]
        exact visitAll_settles source inProse ns hRest hNext
          hTo

end

end Walk

end ProseCheck

------------------------------------------------------------
-- Annotated Trees
------------------------------------------------------------

namespace ProseCheck

/-
  A tree whose nodes stand one behind the other in the source
  is read in full, unless a paragraph of it holds another.
-/
theorem annotate_settles
    (source : Text)
    {root : Node}
    (hRoot : root.Between 0 source.length) :
    (root.NestsParagraphs ∧
        annotate source root = .error .nestedParagraph) ∨
      (¬ root.NestsParagraphs ∧
        ∃ a, annotate source root = .ok a ∧
          a.Covers source.length) := by
  rw [annotate, ← Node.clashes_false_iff]
  rcases Walk.visit_settles source false root hRoot
    Walk.sound_start (Int.le_refl 0) with
    ⟨hClash, hFail⟩ | ⟨hClear, inner, hOk, hInner, hTo⟩
  · rw [hFail]
    exact Or.inl ⟨hClash, rfl⟩
  · rcases hInner.gap source false source.length with
      ⟨last, hGap, hLast, hReached⟩
    have hEnd : last.builder.reached = source.length := by
      rw [hLast.reached_eq, hReached]
      omega
    rcases Builder.build_of_reached hLast.builder hEnd with
      ⟨a, hBuild, hCovers⟩
    refine Or.inr ⟨hClear, a, ?_, hCovers⟩
    simp only [hOk, hGap, hBuild, bind, Except.bind]

/-
  Whatever the tokens are, the tree that is located from them
  is read in full, unless a paragraph of it holds another.
  Neither overlapping nodes nor misplaced segments come up.
-/
theorem annotate_locate
    (source : Text)
    (tokens : List Token) :
    ((locate source tokens).NestsParagraphs ∧
        annotate source (locate source tokens) =
          .error .nestedParagraph) ∨
      (¬ (locate source tokens).NestsParagraphs ∧
        ∃ a, annotate source (locate source tokens) = .ok a ∧
          a.Covers source.length) :=
  annotate_settles source (between_locate source tokens)

end ProseCheck
