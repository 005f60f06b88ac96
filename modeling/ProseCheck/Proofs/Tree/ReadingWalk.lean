import ProseCheck.Proofs.Annotated.Accepted
import ProseCheck.Proofs.Tree.Annotation
import ProseCheck.Proofs.Tree.Legible

/-
  This file shows that a tree which is laid out in the source
  is read as it should be.  The walk goes from node to node,
  and decides by the nodes that it is in what a line break is
  read as.  What should be read is said offset by offset, and
  looks at where the paragraphs and texts stand.

  Main declarations:
    * `flatMap_gapSegments`
    * `Walk.Reads`
    * `Walk.Reads.trans`
    * `Walk.Reads.enclose`
    * `Walk.visit_reads`
    * `annotate_eq_reading`
-/

------------------------------------------------------------
-- Line Breaks
------------------------------------------------------------

namespace ProseCheck

/- A character that begins no break is not read. -/
theorem breakReadAt_of_breakAt_nil
    {source : Text}
    (texts : List Node)
    (inProse : Bool)
    {offset : Nat}
    (hNone : source.breakAt offset = []) :
    breakReadAt source texts inProse offset = [] := by
  rw [breakReadAt, hNone]
  split <;> rfl

/- Where there are no texts, a break is read by its place. -/
theorem breakReadAt_nil
    {source : Text}
    (inProse : Bool)
    {offset : Nat}
    {characters : Text}
    (hBreak : source.breakAt offset = characters)
    (hSome : characters ≠ []) :
    breakReadAt source [] inProse offset =
      breakContent inProse characters := by
  rw [breakReadAt, hBreak, if_neg (by simp)]
  cases characters with
  | nil => exact absurd rfl hSome
  | cons c cs => rfl

/- No break begins at a character that belongs to none. -/
theorem Text.breakAt_of_not_isBreakChar
    {source : Text}
    {offset : Nat}
    {c : Char}
    (hHere : source[offset]? = some c)
    (hPlain : isBreakChar c = false) :
    source.breakAt offset = [] := by
  unfold breakAt
  rw [hHere]
  split
  · simp_all [isBreakChar]
  · simp_all [isBreakChar]
  · rfl

/-
  A break of one character begins where no break is split,
  and where no line feed follows a carriage return.
-/
theorem Text.breakAt_of_isBreakChar
    {source : Text}
    {offset : Nat}
    {c : Char}
    (hHere : source[offset]? = some c)
    (hBreak : isBreakChar c = true)
    (hUnsplit : ¬ source.SplitsBreak offset)
    (hAlone : c = '\r' → source[offset + 1]? ≠ some '\n') :
    source.breakAt offset = [c] := by
  have hKind : c = '\r' ∨ c = '\n' := by
    simpa [isBreakChar] using hBreak
  rcases hKind with rfl | rfl
  · simp only [breakAt, hHere, if_neg (hAlone rfl)]
  · simp only [breakAt, hHere, if_neg hUnsplit]

/- A break is only split behind a carriage return. -/
theorem Text.not_splitsBreak_succ
    {source : Text}
    {offset : Nat}
    {c : Char}
    (hHere : source[offset]? = some c)
    (hAlone : c = '\r' → source[offset + 1]? ≠ some '\n') :
    ¬ source.SplitsBreak (offset + 1) := by
  rintro ⟨_, hReturn, hFeed⟩
  rw [Nat.add_sub_cancel, hHere] at hReturn
  exact hAlone (Option.some.inj hReturn) hFeed

end ProseCheck

------------------------------------------------------------
-- Gaps
------------------------------------------------------------

namespace ProseCheck

/- Markup adds nothing to the plain text. -/
@[simp]
theorem flatMap_markupBefore
    (start stop : Int)
    (run : Text) :
    (markupBefore start stop run).flatMap
      Segment.contribution = [] := by
  unfold markupBefore
  split <;> rfl

/-
  The segments of a gap read what should be read of it, if it
  neither begins nor ends in the middle of a break.
-/
theorem flatMap_gapSegments
    {source : Text}
    (inProse : Bool)
    {stop start position : Int}
    (run : Text)
    {characters : Text}
    (hPosition : 0 ≤ position)
    (hSlice :
      source.slice position.toNat stop.toNat = characters)
    (hFit : stop ≤ source.length)
    (hFrom : ¬ source.SplitsBreak position.toNat)
    (hTo : ¬ source.SplitsBreak stop.toNat) :
    (gapSegments inProse stop start position run
        characters).flatMap Segment.contribution =
      stretch source [] (fun _ => inProse) position.toNat
        stop.toNat := by
  fun_induction gapSegments inProse stop start position run
    characters with
  | case1 start position run =>
      have hLength := congrArg List.length hSlice
      rw [Text.length_slice, List.length_nil] at hLength
      rw [flatMap_markupBefore,
        stretch_nil_of_le source _ (by omega)]
  | case2 start position run cs ih =>
      rcases Text.slice_eq_cons hSlice with
        ⟨hAhead, hReturn, hRest⟩
      rcases Text.slice_eq_cons hRest with
        ⟨hBehind, hFeed, hLater⟩
      have hNext :
          (position + 2).toNat = position.toNat + 1 + 1 := by
        omega
      have hBreak :
          source.breakAt position.toNat = ['\r', '\n'] := by
        simp only [Text.breakAt, hReturn, if_pos hFeed]
      have hSplit : source.SplitsBreak (position.toNat + 1) :=
        ⟨by omega, hReturn, hFeed⟩
      have hInner :
          source.breakAt (position.toNat + 1) = [] := by
        simp only [Text.breakAt, hFeed, if_pos hSplit]
      have hTail := ih (by omega)
        (by rw [hNext]; exact hLater)
        (by
          rw [hNext]
          exact Text.not_splitsBreak_succ hFeed (by simp))
      rw [List.flatMap_append, flatMap_markupBefore,
        List.nil_append, List.flatMap_cons, hTail, hNext,
        stretch_nil_step source _ hAhead,
        stretch_nil_step source _ hBehind,
        breakReadAt_nil inProse hBreak (by simp),
        breakReadAt_of_breakAt_nil [] inProse hInner]
      rfl
  | case3 start position run c cs hPair hBreak ih =>
      rcases Text.slice_eq_cons hSlice with
        ⟨hAhead, hHere, hRest⟩
      have hNext :
          (position + 1).toNat = position.toNat + 1 := by
        omega
      -- a line feed behind would be in the gap, or be cut off
      have hAlone :
          c = '\r' →
            source[position.toNat + 1]? ≠ some '\n' := by
        rintro rfl hFeed
        by_cases hEnd : position.toNat + 1 < stop.toNat
        · have hHead : cs[0]? = some '\n' := by
            rw [← hRest, Text.getElem?_slice (by omega)]
            exact hFeed
          cases cs with
          | nil => simp at hHead
          | cons d ds =>
              have hSame : d = '\n' := by
                simpa using hHead
              subst hSame
              exact hPair ds rfl rfl
        · have hStop : position.toNat + 1 = stop.toNat := by
            omega
          apply hTo
          rw [← hStop]
          exact ⟨by omega, hHere, hFeed⟩
      have hTail := ih (by omega)
        (by rw [hNext]; exact hRest)
        (by
          rw [hNext]
          exact Text.not_splitsBreak_succ hHere hAlone)
      rw [List.flatMap_append, flatMap_markupBefore,
        List.nil_append, List.flatMap_cons, hTail, hNext,
        stretch_nil_step source _ hAhead,
        breakReadAt_nil inProse
          (Text.breakAt_of_isBreakChar hHere hBreak hFrom
            hAlone) (by simp)]
      rfl
  | case4 start position run c cs hPair hBreak ih =>
      rcases Text.slice_eq_cons hSlice with
        ⟨hAhead, hHere, hRest⟩
      have hNext :
          (position + 1).toNat = position.toNat + 1 := by
        omega
      have hPlain : isBreakChar c = false := by
        simpa using hBreak
      have hTail := ih (by omega)
        (by rw [hNext]; exact hRest)
        (by
          rw [hNext]
          apply Text.not_splitsBreak_succ hHere
          rintro rfl
          simp [isBreakChar] at hPlain)
      rw [hTail, hNext, stretch_nil_step source _ hAhead,
        breakReadAt_of_breakAt_nil [] inProse
          (Text.breakAt_of_not_isBreakChar hHere hPlain)]
      rfl

end ProseCheck

------------------------------------------------------------
-- What a Walk Reads
------------------------------------------------------------

namespace ProseCheck

/-
  Whether an offset is in prose, if the nodes are met in a
  paragraph or not, and these are the paragraphs among them.
-/
def inProseAt
    (inProse : Bool)
    (paragraphs : List Node)
    (offset : Nat) : Bool :=
  inProse || decide (∃ p ∈ paragraphs, p.Spans offset)

namespace Walk

/- A walk may go on from where it has come in the source. -/
structure Ready
    (source : Text)
    (w : Walk) : Prop where
  sound : w.Sound
  unsplit : ¬ source.SplitsBreak w.reached.toNat

/-
  From one walk to another, all is read as it should be.  The
  paragraphs and texts that are met stand between the offsets
  that the two walks have come to.
-/
structure Reads
    (source : Text)
    (inProse : Bool)
    (texts paragraphs : List Node)
    (w next : Walk) : Prop where
  ready : next.Ready source
  order : w.reached ≤ next.reached
  texts_inside :
    ∀ t ∈ texts,
      w.reached ≤ t.start ∧ t.start ≤ t.stop ∧
        t.stop ≤ next.reached
  paragraphs_inside :
    ∀ p ∈ paragraphs,
      w.reached ≤ p.start ∧ p.stop ≤ next.reached
  plain_eq :
    next.builder.plain =
      w.builder.plain ++
        stretch source texts (inProseAt inProse paragraphs)
          w.reached.toNat next.reached.toNat

variable {source : Text}
variable {inProse : Bool}
variable {w : Walk}

/- Where the walk stays, nothing is to be read. -/
theorem Ready.reads_refl
    (hReady : w.Ready source)
    (inProse : Bool) :
    w.Reads source inProse [] [] w := by
  refine ⟨hReady, Int.le_refl _, by simp, by simp, ?_⟩
  rw [stretch_nil_of_le source _ (Nat.le_refl _),
    List.append_nil]

/- What is read on two ways is read on the way of both. -/
theorem Reads.trans
    {middle next : Walk}
    {ts us ps qs : List Node}
    (hFirst : w.Reads source inProse ts ps middle)
    (hSecond : middle.Reads source inProse us qs next) :
    w.Reads source inProse (ts ++ us) (ps ++ qs) next := by
  have hNonneg := hFirst.ready.sound.reached_nonneg
  have hTo := hFirst.order
  have hOn := hSecond.order
  have hJoin :
      stretch source (ts ++ us) (inProseAt inProse (ps ++ qs))
          w.reached.toNat next.reached.toNat =
        stretch source ts (inProseAt inProse ps)
            w.reached.toNat middle.reached.toNat ++
          stretch source us (inProseAt inProse qs)
            middle.reached.toNat next.reached.toNat := by
    apply stretch_append (by omega) (by omega)
    · intro t hMem
      have hInside := hFirst.texts_inside t hMem
      omega
    · intro u hMem
      have hInside := hSecond.texts_inside u hMem
      omega
    -- the paragraphs of the second way have not begun
    · intro o _ hBefore
      have hNone : ¬ ∃ q ∈ qs, q.Spans o := by
        rintro ⟨q, hMem, hSpans⟩
        have hInside := hSecond.paragraphs_inside q hMem
        have hBegun := hSpans.1
        omega
      simp only [inProseAt, List.mem_append, or_and_right,
        exists_or, hNone, or_false]
    -- those of the first way have ended
    · intro o hBehind _
      have hNone : ¬ ∃ p ∈ ps, p.Spans o := by
        rintro ⟨p, hMem, hSpans⟩
        have hInside := hFirst.paragraphs_inside p hMem
        have hOpen := hSpans.2
        omega
      simp only [inProseAt, List.mem_append, or_and_right,
        exists_or, hNone, false_or]
  refine ⟨hSecond.ready, Int.le_trans hTo hOn, ?_, ?_, ?_⟩
  · intro t hMem
    rcases List.mem_append.mp hMem with hHere | hThere
    · have hInside := hFirst.texts_inside t hHere
      omega
    · have hInside := hSecond.texts_inside t hThere
      omega
  · intro p hMem
    rcases List.mem_append.mp hMem with hHere | hThere
    · have hInside := hFirst.paragraphs_inside p hHere
      omega
    · have hInside := hSecond.paragraphs_inside p hThere
      omega
  · rw [hSecond.plain_eq, hFirst.plain_eq, hJoin,
      List.append_assoc]

/-
  What is read from the start of a paragraph to its end, as
  in prose, is what is read of the paragraph.
-/
theorem Reads.enclose
    {p : Node}
    {next : Walk}
    {ts ps : List Node}
    (hReads : w.Reads source true ts ps next)
    (hStart : p.start = w.reached)
    (hStop : p.stop = next.reached) :
    w.Reads source false ts (p :: ps) next := by
  refine ⟨hReads.ready, hReads.order, hReads.texts_inside,
    ?_, ?_⟩
  · intro q hMem
    rcases List.mem_cons.mp hMem with rfl | hInside
    · omega
    · exact hReads.paragraphs_inside q hInside
  · rw [hReads.plain_eq]
    congr 1
    apply stretch_congr
    intro o hFrom hTo
    have hSpans : p.Spans o := by
      rw [Node.Spans]
      omega
    simp [inProseAt, hSpans]

end Walk

end ProseCheck

------------------------------------------------------------
-- Steps of a Walk
------------------------------------------------------------

namespace ProseCheck

namespace Walk

variable {source : Text}
variable {w : Walk}

/- A gap up to an offset is read as it should be. -/
theorem Ready.gap
    (hReady : w.Ready source)
    (inProse : Bool)
    {stop : Int}
    (hReached : w.reached ≤ stop)
    (hFit : stop ≤ source.length)
    (hUnsplit : ¬ source.SplitsBreak stop.toNat) :
    ∃ next, w.gap source inProse stop = .ok next ∧
      next.reached = stop ∧
        w.Reads source inProse [] [] next := by
  rcases hReady.sound.gap source inProse stop with
    ⟨next, hGap, hNext, hMax⟩
  have hStop : next.reached = stop := by
    omega
  refine ⟨next, hGap, hStop, ⟨hNext, ?_⟩, by omega, by simp,
    by simp, ?_⟩
  · rw [hStop]
    exact hUnsplit
  unfold Walk.gap at hGap
  split at hGap
  · cases hGap
    rw [stretch_nil_of_le source _ (Nat.le_refl _),
      List.append_nil]
  · have hSame : inProseAt inProse [] = fun _ => inProse := by
      funext o
      simp [inProseAt]
    rw [Builder.plain_addAll (addAll_of_take hGap), hStop,
      hSame,
      flatMap_gapSegments inProse []
        hReady.sound.reached_nonneg rfl hFit hReady.unsplit
        hUnsplit]

/- A text that follows at once is read as its content. -/
theorem Ready.take_text
    (hReady : w.Ready source)
    (inProse : Bool)
    {t : Node}
    (hStart : t.start = w.reached)
    (hOrder : t.start ≤ t.stop)
    (hUnsplit : ¬ source.SplitsBreak t.stop.toNat) :
    ∃ next,
      w.take t.stop
          [⟨.text, t.start, t.stop, t.content⟩] = .ok next ∧
        next.reached = t.stop ∧
        w.Reads source inProse [t] [] next := by
  have hNonneg := hReady.sound.reached_nonneg
  have hChain :
      Segment.Chain w.reached t.stop
        [⟨.text, t.start, t.stop, t.content⟩] := by
    rw [Segment.chain_singleton_iff]
    exact ⟨hStart, hOrder, rfl⟩
  rcases hReady.sound.take hChain with
    ⟨next, hTake, hNext, hStop⟩
  refine ⟨next, hTake, hStop, ⟨hNext, ?_⟩, by omega, ?_,
    by simp, ?_⟩
  · rw [hStop]
    exact hUnsplit
  · intro u hMem
    rw [List.mem_singleton.mp hMem]
    omega
  · rw [Builder.plain_addAll (addAll_of_take hTake),
      stretch_singleton source _ (by omega) (by omega)]
    simp [Segment.contribution]

end Walk

end ProseCheck

------------------------------------------------------------
-- Visits
------------------------------------------------------------

namespace ProseCheck

namespace Walk

/-
  A visit comes to a walk on which the node is read as it
  should be, and which has not gone beyond the offset `stop`.
-/
def Reading
    (source : Text)
    (inProse : Bool)
    (stop : Int)
    (texts paragraphs : List Node)
    (w : Walk)
    (result : Except AnnotationError Walk) : Prop :=
  ∃ next, result = .ok next ∧ next.reached ≤ stop ∧
    w.Reads source inProse texts paragraphs next

variable {source : Text}
variable {w : Walk}

/- A text that fits in is read behind the gap before it. -/
theorem Ready.visit_text
    (hReady : w.Ready source)
    (inProse : Bool)
    {start stop : Int}
    {t : Node}
    (hKind : t.kind = .text)
    (hFits : t.Fits source start stop)
    (hReached : w.reached ≤ start)
    (hStop : stop ≤ source.length) :
    Reading source inProse stop [t] [] w
      (visit source inProse t w) := by
  have hBegins := hFits.begins
  have hOrder := hFits.order
  have hEnds := hFits.ends
  rcases hReady.gap inProse (by omega) (by omega)
    hFits.unsplit_start with
    ⟨before, hGap, hBefore, hFirst⟩
  rcases hFirst.ready.take_text inProse hBefore.symm hOrder
    hFits.unsplit_stop with ⟨next, hTake, hNext, hText⟩
  refine ⟨next, ?_, by omega, hFirst.trans hText⟩
  rcases t with ⟨kind, first, last, content, children⟩
  dsimp only at hKind hGap hTake hBegins
  subst hKind
  rw [visit, if_neg (by omega), hGap]
  exact hTake

/-
  A paragraph that fits in is read if its children are, with
  the gaps before it, and behind the last child.
-/
theorem Ready.visit_paragraph
    (hReady : w.Ready source)
    {start stop : Int}
    {p : Node}
    (hKind : p.kind = .paragraph)
    (hFits : p.Fits source start stop)
    (hReached : w.reached ≤ start)
    (hStop : stop ≤ source.length)
    {ts ps : List Node}
    (hChildren :
      ∀ before : Walk, before.Ready source →
        before.reached = p.start →
        Reading source true p.stop ts ps before
          (visitAll source true p.children before)) :
    Reading source false stop ts (p :: ps) w
      (visit source false p w) := by
  have hBegins := hFits.begins
  have hOrder := hFits.order
  have hEnds := hFits.ends
  rcases hReady.gap false (by omega) (by omega)
    hFits.unsplit_start with
    ⟨before, hGap, hBefore, hFirst⟩
  rcases hChildren before hFirst.ready hBefore with
    ⟨inner, hVisit, hInner, hMiddle⟩
  rcases hMiddle.ready.gap true hInner (by omega)
    hFits.unsplit_stop with ⟨next, hRest, hNext, hLast⟩
  have hProse :
      before.Reads source true ts ps next := by
    have hBoth := hMiddle.trans hLast
    rw [List.append_nil, List.append_nil] at hBoth
    exact hBoth
  refine ⟨next, ?_, by omega,
    hFirst.trans (hProse.enclose hBefore.symm hNext.symm)⟩
  rcases p with ⟨kind, first, last, content, children⟩
  dsimp only at hKind hGap hVisit hRest
  subst hKind
  rw [visit, if_neg Bool.false_ne_true, hGap]
  change (visitAll source true children before >>=
    fun v => v.gap source true last) = _
  rw [hVisit]
  exact hRest

mutual

/- A legible node is read as it should be. -/
theorem visit_reads
    {inProse : Bool}
    {start stop : Int}
    (n : Node)
    (hNode : n.Legible source inProse start stop)
    {w : Walk}
    (hReady : w.Ready source)
    (hReached : w.reached ≤ start)
    (hStop : stop ≤ source.length) :
    Reading source inProse stop n.texts n.paragraphs w
      (visit source inProse n w) := by
  match n with
  | ⟨kind, first, last, content, children⟩ =>
      unfold Node.Legible at hNode
      split at hNode
      · rcases hNode with ⟨rfl, hFits, hInside⟩
        rw [Node.texts_of_ne (by simp),
          Node.paragraphs_of_paragraph rfl]
        apply hReady.visit_paragraph rfl hFits hReached hStop
        intro before hBefore hStart
        exact visitAll_reads children hInside hBefore
          (Int.le_of_eq hStart)
          (Int.le_trans hFits.ends hStop)
      · rcases hNode with ⟨rfl, hFits⟩
        rw [Node.texts_leaf rfl rfl,
          Node.paragraphs_of_ne (by simp)]
        exact hReady.visit_text inProse rfl hFits hReached
          hStop
      · rename_i hParagraph hText
        rw [Node.texts_of_ne hText,
          Node.paragraphs_of_ne hParagraph,
          visit_container source inProse hParagraph hText]
        exact visitAll_reads children hNode hReady hReached
          hStop

/- Several legible nodes are read one after the other. -/
theorem visitAll_reads
    {inProse : Bool}
    {start stop : Int}
    (ns : List Node)
    (hNodes : Node.LegibleAll source inProse start stop ns)
    {w : Walk}
    (hReady : w.Ready source)
    (hReached : w.reached ≤ start)
    (hStop : stop ≤ source.length) :
    Reading source inProse stop (Node.textsAll ns)
      (Node.paragraphsAll ns) w
      (visitAll source inProse ns w) := by
  match ns with
  | [] =>
      unfold Node.LegibleAll at hNodes
      unfold visitAll
      exact ⟨w, rfl, Int.le_trans hReached hNodes,
        hReady.reads_refl inProse⟩
  | n :: ns =>
      unfold Node.LegibleAll at hNodes
      rcases hNodes with ⟨middle, hNode, hRest⟩
      rcases visit_reads n hNode hReady hReached
        (Int.le_trans hRest.le hStop) with
        ⟨between, hFirst, hBetween, hReads⟩
      rcases visitAll_reads ns hRest hReads.ready hBetween
        hStop with ⟨next, hLater, hNext, hMore⟩
      rw [Node.textsAll_cons, Node.paragraphsAll_cons]
      refine ⟨next, ?_, hNext, hReads.trans hMore⟩
      unfold visitAll
      rw [hFirst]
      exact hLater

end

end Walk

end ProseCheck

------------------------------------------------------------
-- Reading a Tree
------------------------------------------------------------

namespace ProseCheck

/- A walk is ready before the first character. -/
theorem Walk.ready_start
    (source : Text) :
    Walk.start.Ready source := by
  refine ⟨sound_start, ?_⟩
  rintro ⟨hPositive, _⟩
  exact absurd hPositive (Nat.lt_irrefl 0)

/- No break is split at the end of the source. -/
theorem Text.not_splitsBreak_length
    (source : Text) :
    ¬ source.SplitsBreak source.length := by
  rintro ⟨_, _, hFeed⟩
  simp at hFeed

/-
  A tree that is laid out in the source is read, and what is
  read is said offset by offset: the contents of its texts,
  and each line break outside of them, which in a paragraph
  is one space.
-/
theorem annotate_eq_reading
    {source : Text}
    {root : Node}
    (hRoot : root.LaidOut source) :
    ∃ a, annotate source root = .ok a ∧
      a.plainText = reading source root := by
  rcases Walk.visit_reads root hRoot.legible
    (Walk.ready_start source) (Int.le_refl 0)
    (Int.le_refl _) with ⟨inner, hVisit, hInner, hFirst⟩
  rcases hFirst.ready.gap false hInner (Int.le_refl _)
    source.not_splitsBreak_length with
    ⟨last, hGap, hLast, hSecond⟩
  have hReads := hFirst.trans hSecond
  have hEnd : last.builder.reached = source.length := by
    rw [hReads.ready.sound.reached_eq, hLast]
  rcases Builder.build_of_reached hReads.ready.sound.builder
    hEnd with ⟨a, hBuild, _⟩
  refine ⟨a, ?_, ?_⟩
  · simp only [annotate, hVisit, hGap, hBuild, bind,
      Except.bind]
  · have hSegments :=
      (hReads.ready.sound.builder.of_build hBuild).1
    have hPlain : a.plainText = last.builder.plain := by
      rw [AnnotatedText.plainText, hSegments, Builder.plain]
    have hProse :
        inProseAt false root.paragraphs =
          fun o => ∃ p ∈ root.paragraphs, p.Spans o := by
      funext o
      rw [inProseAt, Bool.false_or]
    rw [hPlain, hReads.plain_eq, reading_eq_stretch, hLast,
      List.append_nil, List.append_nil, hProse]
    simp [Walk.start]

/-
  A paragraph that is broken once, with a character written by
  its name, and behind it a mark that is not read, a break,
  and two texts, of which one has no stretch.
-/
theorem annotate_eq_reading_broken :
    let source : Text :=
      ['a', '\r', '\n', '&', 'l', 't', ';', '*', '\n', 'b']
    let root : Node :=
      ⟨.document, 0, 0, [],
        [⟨.paragraph, 0, 7, [],
            [⟨.text, 0, 1, ['a'], []⟩,
              ⟨.strong, 9, 2, [],
                [⟨.text, 3, 7, ['<'], []⟩]⟩]⟩,
          ⟨.text, 9, 10, ['b'], []⟩,
          ⟨.text, 10, 10, ['!'], []⟩]⟩
    root.LaidOut source ∧
      reading source root = ['a', ' ', '<', '\n', 'b', '!'] ∧
      ∃ a, annotate source root = .ok a ∧
        a.plainText = reading source root := by
  intro source root
  have hRoot : root.LaidOut source := by
    constructor <;> decide
  exact ⟨hRoot, by decide, annotate_eq_reading hRoot⟩

end ProseCheck
