import ProseCheck.Proofs.Tree.ReadingWalk
import ProseCheck.Proofs.Tree.Texts

/-
  This file is about sources of one line.  Nothing is read
  there between the texts of a tree, so the plain text is
  what the texts say, one after the other.

  A block of such a source covers all of it.  It is opened
  around what stands in it, and closed behind it, and the
  search for what stands in it goes up to the end of the
  source.

  Main declarations:
    * `Text.IsLine`
    * `Walk.visit_plain`
    * `annotate_line`
    * `Locator.consume_block`
    * `Locator.consume_paragraph`
    * `locate_line`
-/

------------------------------------------------------------
-- Lines
------------------------------------------------------------

namespace ProseCheck

/- A text without line breaks. -/
def Text.IsLine
    (t : Text) : Prop :=
  ∀ c ∈ t, isBreakChar c = false

/- Two texts are a line together where each of them is one. -/
@[simp]
theorem Text.isLine_append_iff
    (first second : Text) :
    IsLine (first ++ second) ↔
      IsLine first ∧ IsLine second := by
  simp only [IsLine, List.mem_append, or_imp, forall_and]

/- A character and a text are a line where both are. -/
@[simp]
theorem Text.isLine_cons_iff
    (c : Char)
    (t : Text) :
    IsLine (c :: t) ↔ isBreakChar c = false ∧ IsLine t := by
  simp only [IsLine, List.forall_mem_cons]

instance
    (t : Text) :
    Decidable t.IsLine :=
  List.decidableBAll (fun c => isBreakChar c = false) t

end ProseCheck

------------------------------------------------------------
-- Reading a Line
------------------------------------------------------------

namespace ProseCheck

/- Nothing is read for a gap without line breaks. -/
theorem flatMap_gapSegments_line
    (inProse : Bool)
    (stop start position : Int)
    (run : Text)
    {characters : Text}
    (hLine : characters.IsLine) :
    (gapSegments inProse stop start position run
      characters).flatMap Segment.contribution = [] := by
  induction characters generalizing position run with
  | nil =>
      rw [gapSegments, flatMap_markupBefore]
  | cons c cs ih =>
      rcases (Text.isLine_cons_iff c cs).mp hLine with
        ⟨hPlain, hRest⟩
      rw [gapSegments]
      · rw [hPlain, if_neg Bool.false_ne_true]
        exact ih _ _ hRest
      -- the character is no carriage return
      · rintro _ rfl
        simp [isBreakChar] at hPlain

namespace Walk

variable
  {source : Text}
  {inProse : Bool}
  {w next : Walk}

/- A gap of a line adds nothing to the plain text. -/
theorem plain_gap
    (hLine : source.IsLine)
    {stop : Int}
    (hGap : w.gap source inProse stop = .ok next) :
    next.builder.plain = w.builder.plain := by
  unfold gap at hGap
  split at hGap
  · cases hGap
    rfl
  · have hSlice : (source.slice w.reached.toNat
        stop.toNat).IsLine := by
      intro c hMem
      exact hLine c
        (List.take_subset _ _ (List.drop_subset _ _ hMem))
    rw [Builder.plain_addAll (addAll_of_take hGap),
      flatMap_gapSegments_line inProse _ _ _ _ hSlice,
      List.append_nil]

/- A text that is taken adds its content. -/
theorem plain_take_text
    {start stop : Int}
    {content : Text}
    (hTake :
      w.take stop [⟨.text, start, stop, content⟩] =
        .ok next) :
    next.builder.plain = w.builder.plain ++ content := by
  rw [Builder.plain_addAll (addAll_of_take hTake)]
  simp [Segment.contribution]

mutual

/- A visit of a node adds what the texts in it say. -/
theorem visit_plain
    (hLine : source.IsLine)
    (n : Node)
    {start stop : Int}
    (hNode : n.Between start stop)
    {inProse : Bool}
    {w next : Walk}
    (hVisit : visit source inProse n w = .ok next) :
    next.builder.plain =
      w.builder.plain ++ n.texts.flatMap (·.content) := by
  match n with
  | ⟨kind, first, last, content, children⟩ =>
      rw [Node.between_iff] at hNode
      rcases hNode with ⟨_, _, hText, hChildren⟩
      unfold visit at hVisit
      split at hVisit
      -- a paragraph: the children between two gaps
      · split at hVisit
        · cases hVisit
        · rcases bind_eq_ok hVisit with
            ⟨before, hBefore, hVisit⟩
          rcases bind_eq_ok hVisit with ⟨inner, hInner, hEnd⟩
          rw [plain_gap hLine hEnd,
            visitAll_plain hLine children hChildren hInner,
            plain_gap hLine hBefore,
            Node.texts_of_ne (by simp)]
      -- a text: the node itself behind a gap
      · split at hVisit
        · cases hVisit
        · rcases bind_eq_ok hVisit with ⟨before, hBefore, hTake⟩
          rw [plain_take_text hTake, plain_gap hLine hBefore,
            Node.texts_leaf rfl (hText rfl).2.2]
          simp
      -- any other node: the children
      · rename_i _ hKind
        rw [visitAll_plain hLine children hChildren hVisit,
          Node.texts_of_ne hKind]

/- A visit of nodes adds what the texts in all of them say. -/
theorem visitAll_plain
    (hLine : source.IsLine)
    (ns : List Node)
    {start stop : Int}
    (hNodes : Node.AllBetween start stop ns)
    {inProse : Bool}
    {w next : Walk}
    (hVisit : visitAll source inProse ns w = .ok next) :
    next.builder.plain =
      w.builder.plain ++
        (Node.textsAll ns).flatMap (·.content) := by
  match ns with
  | [] =>
      unfold visitAll at hVisit
      cases hVisit
      simp [Node.textsAll, Node.preorderAll]
  | n :: ns =>
      unfold Node.AllBetween at hNodes
      rcases hNodes with ⟨middle, hNode, hRest⟩
      unfold visitAll at hVisit
      rcases bind_eq_ok hVisit with ⟨between, hFirst, hLater⟩
      rw [visitAll_plain hLine ns hRest hLater,
        visit_plain hLine n hNode hFirst, Node.textsAll_cons,
        List.flatMap_append, List.append_assoc]

end

end Walk

/-
  Of a source of one line, the plain text is what the texts
  of the tree say, if no paragraph stands in another one.
-/
theorem annotate_line
    {source : Text}
    (hLine : source.IsLine)
    {root : Node}
    (hRoot : root.Between 0 source.length)
    (hFlat : ¬ root.NestsParagraphs) :
    ∃ a, annotate source root = .ok a ∧
      a.plainText = root.texts.flatMap (·.content) := by
  rcases annotate_settles source hRoot with
    ⟨hNests, _⟩ | ⟨_, a, hOk, _⟩
  · exact absurd hNests hFlat
  refine ⟨a, hOk, ?_⟩
  unfold annotate at hOk
  rcases bind_eq_ok hOk with ⟨inner, hVisit, hOk⟩
  rcases bind_eq_ok hOk with ⟨last, hGap, hOk⟩
  have hPlain :
      last.builder.plain = root.texts.flatMap (·.content) := by
    rw [Walk.plain_gap hLine hGap,
      Walk.visit_plain hLine root hRoot hVisit]
    rfl
  split at hOk
  · rename_i built hBuild
    cases hOk
    rw [Builder.build] at hBuild
    split at hBuild
    · cases hBuild
    · cases hBuild
      exact hPlain
  · cases hOk

end ProseCheck

------------------------------------------------------------
-- Blocks as Tokens
------------------------------------------------------------

namespace ProseCheck

namespace Token

/- A container on the first line, around other tokens. -/
def block
    (name : String)
    (inside : List Token) : List Token :=
  { name := name ++ "_open", nesting := 1,
    lines := some (0, 1) } ::
      (inside ++ [{ name := name ++ "_close", nesting := -1 }])

/- A paragraph on the first line, with what stands in it. -/
def paragraph
    (inside : List Token) : List Token :=
  block "paragraph" [{ name := "inline", children := inside }]

end Token

end ProseCheck

------------------------------------------------------------
-- Blocks of a Line
------------------------------------------------------------

namespace ProseCheck

/- No line starts in a line, but at its front. -/
theorem lineStartsFrom_line
    (offset : Nat)
    {t : Text}
    (hLine : t.IsLine) :
    lineStartsFrom offset t = [] := by
  induction t generalizing offset with
  | nil => rw [lineStartsFrom]
  | cons c cs ih =>
      rcases (Text.isLine_cons_iff c cs).mp hLine with
        ⟨hPlain, hRest⟩
      rw [lineStartsFrom]
      · rw [hPlain, if_neg Bool.false_ne_true]
        exact ih _ hRest
      -- the character is no carriage return
      · rintro _ rfl
        simp [isBreakChar] at hPlain

/- A frame that covers the source, and the nodes in it. -/
def Frame.whole
    (source : Text)
    (kind : NodeKind)
    (recent : List Node) : Frame :=
  { kind := kind, start := some 0, stop := some source.length,
    recent := recent }

/- The node of such a frame covers the source as well. -/
theorem Frame.close_whole
    (source : Text)
    (kind : NodeKind)
    (recent : List Node)
    (fallback : Nat) :
    (whole source kind recent).close fallback =
      ⟨kind, 0, source.length, [], recent.reverse⟩ := by
  simp [close, whole]

namespace Locator

/- The first line of a source of one line is all of it. -/
theorem blockSpan_line
    {source : Text}
    (hLine : source.IsLine) :
    blockSpan source (some (0, 1)) =
      some (0, source.length) := by
  have hStarts : lineStarts source = [0] := by
    rw [lineStarts, lineStartsFrom_line 0 hLine]
  simp [blockSpan, PositionTable.nearestLine,
    PositionTable.startOf, PositionTable.endOf,
    PositionTable.starts, hStarts]

/- Tokens are taken one after the other. -/
theorem consume_append
    (source : Text)
    (ts us : List Token)
    (l : Locator) :
    consume source (ts ++ us) l =
      consume source us (consume source ts l) := by
  induction ts generalizing l with
  | nil =>
      rw [consume]
      rfl
  | cons t ts ih =>
      rw [List.cons_append, consume, consume]
      exact ih _

/-
  A block of a line becomes a node that covers the line, with
  the nodes in it that are found from the same cursor on.
-/
theorem consume_block
    {source : Text}
    (hLine : source.IsLine)
    {name : String}
    {kind around : NodeKind}
    (hName : containerKind (name ++ "_open") = kind)
    (hKind : kind ≠ .link)
    {inside : List Token}
    {nodes siblings : List Node}
    {cursor limit last : Nat}
    {outer : List Frame}
    (hInside :
      consume source inside
          ⟨cursor, source.length, .whole source kind [],
            .whole source around siblings :: outer⟩ =
        ⟨last, source.length, .whole source kind nodes,
          .whole source around siblings :: outer⟩)
    (hLast : last ≤ source.length) :
    consume source (Token.block name inside)
        ⟨cursor, limit, .whole source around siblings,
          outer⟩ =
      ⟨source.length, source.length,
        .whole source around
          (⟨kind, 0, source.length, [], nodes.reverse⟩ ::
            siblings), outer⟩ := by
  have hOpen :
      step source
          { name := name ++ "_open", nesting := 1,
            lines := some (0, 1) }
          ⟨cursor, limit, .whole source around siblings,
            outer⟩ =
        ⟨cursor, source.length, .whole source kind [],
          .whole source around siblings :: outer⟩ := by
    rw [step, if_pos rfl, openFrame, blockSpan_line hLine]
    simp [hName, Frame.whole]
  have hClose :
      step source { name := name ++ "_close", nesting := -1 }
          ⟨last, source.length, .whole source kind nodes,
            .whole source around siblings :: outer⟩ =
        ⟨source.length, source.length,
          .whole source around
            (⟨kind, 0, source.length, [], nodes.reverse⟩ ::
              siblings), outer⟩ := by
    have hFinish :
        finish source
            ⟨last, source.length, .whole source kind nodes,
              .whole source around siblings :: outer⟩ =
          ⟨last, source.length, .whole source kind nodes,
            .whole source around siblings :: outer⟩ :=
      if_neg hKind
    rw [step, if_neg (by decide), if_pos rfl, closeFrame]
    dsimp only
    rw [hFinish]
    dsimp only
    rw [Frame.close_whole]
    simp [Frame.whole, Frame.add, blockLimit, hLast]
  rw [Token.block, consume, hOpen, consume_append, hInside,
    consume, hClose, consume]

/-
  A paragraph of a line becomes a node of that kind, with the
  nodes that are found for the tokens in it.
-/
theorem consume_paragraph
    {source : Text}
    (hLine : source.IsLine)
    {around : NodeKind}
    {inside : List Token}
    {nodes siblings : List Node}
    {cursor limit last : Nat}
    {outer : List Frame}
    (hInside :
      consume source inside
          ⟨cursor, source.length, .whole source .paragraph [],
            .whole source around siblings :: outer⟩ =
        ⟨last, source.length, .whole source .paragraph nodes,
          .whole source around siblings :: outer⟩)
    (hLast : last ≤ source.length) :
    consume source (Token.paragraph inside)
        ⟨cursor, limit, .whole source around siblings,
          outer⟩ =
      ⟨source.length, source.length,
        .whole source around
          (⟨.paragraph, 0, source.length, [],
            nodes.reverse⟩ :: siblings), outer⟩ := by
  apply consume_block hLine (by decide) (by decide) _ hLast
  rw [consume, step, if_neg (by decide), if_neg (by decide),
    if_pos rfl, hInside, consume]

end Locator

/-
  The tree of a line is made of the nodes that are found, one
  after the other, if all containers are closed.
-/
theorem locate_line
    {source : Text}
    {tokens : List Token}
    {nodes : List Node}
    {cursor limit : Nat}
    (hTokens :
      Locator.consume source tokens
          ⟨0, source.length, .whole source .document [], []⟩ =
        ⟨cursor, limit, .whole source .document nodes, []⟩) :
    locate source tokens =
      ⟨.document, 0, source.length, [], nodes.reverse⟩ := by
  have hStart :
      Locator.start source =
        ⟨0, source.length, .whole source .document [], []⟩ :=
    rfl
  rw [locate, hStart, hTokens]
  exact Frame.close_whole source .document nodes 0

end ProseCheck
