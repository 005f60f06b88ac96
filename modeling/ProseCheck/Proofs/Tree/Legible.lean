import ProseCheck.Proofs.Tree.Reading

/-
  This file goes from where the paragraphs and texts of a tree
  stand in the source, which is said of all of them at once,
  to what a reader meets who goes from node to node: in each
  list of nodes every one begins behind those before it, and
  in a paragraph the same holds of the texts.

  Main declarations:
    * `Node.Row`
    * `Node.Row.sublist`
    * `Node.Row.tighten`
    * `Node.mem_preorder_iff`
    * `Node.preorder_sublist`
    * `Node.Legible`
    * `Node.LaidOut.legible`
-/

------------------------------------------------------------
-- Rows
------------------------------------------------------------

namespace ProseCheck

namespace Node

/- The nodes stand one behind the other between two offsets. -/
def Row
    (start stop : Int) : List Node → Prop
  | [] => start ≤ stop
  | n :: ns =>
      start ≤ n.start ∧ n.start ≤ n.stop ∧ Row n.stop stop ns

/- A row may as well begin earlier. -/
theorem Row.from_earlier
    {start stop before : Int}
    {ns : List Node}
    (hRow : Row start stop ns)
    (hBefore : before ≤ start) :
    Row before stop ns := by
  cases ns with
  | nil =>
      rw [Row] at hRow ⊢
      omega
  | cons n ns =>
      rw [Row] at hRow ⊢
      exact ⟨Int.le_trans hBefore hRow.1, hRow.2⟩

/- A row does not go back. -/
theorem Row.le
    {start stop : Int}
    {ns : List Node}
    (hRow : Row start stop ns) :
    start ≤ stop := by
  induction ns generalizing start with
  | nil => exact hRow
  | cons n ns ih =>
      rw [Row] at hRow
      have hRest := ih hRow.2.2
      omega

/- Each node of a row lies between the two offsets. -/
theorem Row.bounds_of_mem
    {start stop : Int}
    {ns : List Node}
    (hRow : Row start stop ns)
    {n : Node}
    (hMem : n ∈ ns) :
    start ≤ n.start ∧ n.stop ≤ stop := by
  induction ns generalizing start with
  | nil => simp at hMem
  | cons m ns ih =>
      rw [Row] at hRow
      rcases hRow with ⟨hStart, hOrder, hRest⟩
      rcases List.mem_cons.mp hMem with rfl | hLater
      · exact ⟨hStart, hRest.le⟩
      · have hBounds := ih hRest hLater
        omega

/- A row of two lists has an offset between the lists. -/
theorem Row.exists_middle
    {start stop : Int}
    {ns ms : List Node}
    (hRow : Row start stop (ns ++ ms)) :
    ∃ middle, Row start middle ns ∧ Row middle stop ms := by
  induction ns generalizing start with
  | nil => exact ⟨start, Int.le_refl start, hRow⟩
  | cons n ns ih =>
      rw [List.cons_append, Row] at hRow
      rcases hRow with ⟨hStart, hOrder, hRest⟩
      rcases ih hRest with ⟨middle, hFirst, hSecond⟩
      exact ⟨middle, ⟨hStart, hOrder, hFirst⟩, hSecond⟩

/- Some of the nodes of a row are a row. -/
theorem Row.sublist
    {start stop : Int}
    {ns ms : List Node}
    (hRow : Row start stop ns)
    (hSome : ms.Sublist ns) :
    Row start stop ms := by
  induction hSome generalizing start with
  | slnil => exact hRow
  | cons n _ ih =>
      rw [Row] at hRow
      rcases hRow with ⟨hStart, hOrder, hRest⟩
      exact (ih hRest).from_earlier
        (Int.le_trans hStart hOrder)
  | cons_cons n _ ih =>
      rw [Row] at hRow ⊢
      exact ⟨hRow.1, hRow.2.1, ih hRow.2.2⟩

/- A row stands between any two offsets that its nodes do. -/
theorem Row.tighten
    {start stop first last : Int}
    {ns : List Node}
    (hRow : Row start stop ns)
    (hOrder : first ≤ last)
    (hInside : ∀ n ∈ ns, first ≤ n.start ∧ n.stop ≤ last) :
    Row first last ns := by
  induction ns generalizing start first with
  | nil => exact hOrder
  | cons n ns ih =>
      rw [Row] at hRow ⊢
      have hHere := hInside n List.mem_cons_self
      refine ⟨hHere.1, hRow.2.1, ih hRow.2.2 hHere.2 ?_⟩
      intro m hMem
      exact ⟨(hRow.2.2.bounds_of_mem hMem).1,
        (hInside m (List.mem_cons_of_mem n hMem)).2⟩

/-
  Nodes are a row if each one begins where the one before it
  has ended.
-/
theorem row_of_isChain
    {start stop : Int}
    {ns : List Node}
    (hStretch : start ≤ stop)
    (hFirst : ∀ n ∈ ns.head?, start ≤ n.start)
    (hBounds : ∀ n ∈ ns, n.start ≤ n.stop ∧ n.stop ≤ stop)
    (hChain : ns.IsChain (fun n m => n.stop ≤ m.start)) :
    Row start stop ns := by
  induction ns generalizing start with
  | nil => exact hStretch
  | cons n ns ih =>
      have hHere := hBounds n List.mem_cons_self
      refine ⟨hFirst n rfl, hHere.1, ?_⟩
      cases ns with
      | nil => exact hHere.2
      | cons next ns =>
          rw [List.isChain_cons_cons] at hChain
          apply ih hHere.2 ?_ ?_ hChain.2
          · intro m hMem
            rw [← Option.some.inj hMem]
            exact hChain.1
          · intro m hMem
            exact hBounds m (List.mem_cons_of_mem n hMem)

end Node

end ProseCheck

------------------------------------------------------------
-- Nodes in the Order of the Document
------------------------------------------------------------

namespace ProseCheck

namespace Node

/- The texts of several nodes. -/
def textsAll
    (ns : List Node) : List Node :=
  (preorderAll ns).filter (·.kind = .text)

/- The paragraphs of several nodes. -/
def paragraphsAll
    (ns : List Node) : List Node :=
  (preorderAll ns).filter (·.kind = .paragraph)

/- The texts of a list are those of its first node and so on. -/
@[simp]
theorem textsAll_cons
    (n : Node)
    (ns : List Node) :
    textsAll (n :: ns) = n.texts ++ textsAll ns := by
  rw [textsAll, preorderAll, List.filter_append]
  rfl

/- The paragraphs of a list come in the same way. -/
@[simp]
theorem paragraphsAll_cons
    (n : Node)
    (ns : List Node) :
    paragraphsAll (n :: ns) =
      n.paragraphs ++ paragraphsAll ns := by
  rw [paragraphsAll, preorderAll, List.filter_append]
  rfl

/- The texts of a node that is none are those inside of it. -/
theorem texts_of_ne
    {n : Node}
    (hKind : n.kind ≠ .text) :
    n.texts = textsAll n.children := by
  cases n
  simp_all [texts, textsAll, preorder]

/- The paragraphs of a node that is none are those inside. -/
theorem paragraphs_of_ne
    {n : Node}
    (hKind : n.kind ≠ .paragraph) :
    n.paragraphs = paragraphsAll n.children := by
  cases n
  simp_all [paragraphs, paragraphsAll, preorder]

/- A text that is a leaf is all the texts it has. -/
theorem texts_leaf
    {n : Node}
    (hKind : n.kind = .text)
    (hLeaf : n.children = []) :
    n.texts = [n] := by
  cases n
  simp_all [texts, preorder, preorderAll]

/- A paragraph comes before those inside of it. -/
theorem paragraphs_of_paragraph
    {n : Node}
    (hKind : n.kind = .paragraph) :
    n.paragraphs = n :: paragraphsAll n.children := by
  cases n
  simp_all [paragraphs, paragraphsAll, preorder]

mutual

/- The nodes in the order of the document are all there are. -/
theorem mem_preorder_iff
    (m n : Node) :
    m ∈ n.preorder ↔ m = n ∨ m.Below n := by
  match n with
  | ⟨kind, first, last, content, children⟩ =>
      rw [preorder, List.mem_cons, below_iff,
        mem_preorderAll_iff m children]

/- Those of several nodes are the nodes and what is inside. -/
theorem mem_preorderAll_iff
    (m : Node)
    (ns : List Node) :
    m ∈ preorderAll ns ↔ ∃ n ∈ ns, m = n ∨ m.Below n := by
  match ns with
  | [] => simp [preorderAll]
  | n :: ns =>
      rw [preorderAll, List.mem_append, mem_preorder_iff m n,
        mem_preorderAll_iff m ns]
      simp only [List.mem_cons, exists_eq_or_imp]

end

/- Paragraphs are nested if one of them has others inside. -/
theorem nestsParagraphs_iff_paragraphs
    (root : Node) :
    root.NestsParagraphs ↔
      ∃ p ∈ root.paragraphs, paragraphsAll p.children ≠ [] := by
  constructor
  · rintro ⟨outer, inner, hOuter, hKind, hBelow, hInner⟩
    refine ⟨outer, ?_, ?_⟩
    · simp [paragraphs, mem_preorder_iff, hOuter, hKind]
    · have hMem : inner ∈ paragraphsAll outer.children := by
        simp [paragraphsAll, mem_preorderAll_iff, hInner,
          ← below_iff, hBelow]
      exact List.ne_nil_of_mem hMem
  · rintro ⟨outer, hOuter, hSome⟩
    rcases List.exists_mem_of_ne_nil _ hSome with
      ⟨inner, hInner⟩
    simp only [paragraphs, paragraphsAll, List.mem_filter,
      mem_preorder_iff, mem_preorderAll_iff, ← below_iff,
      decide_eq_true_eq] at hOuter hInner
    exact ⟨outer, inner, hOuter.1, hOuter.2, hInner.1,
      hInner.2⟩

instance
    (root : Node) :
    Decidable root.NestsParagraphs :=
  decidable_of_iff _
    (nestsParagraphs_iff_paragraphs root).symm

mutual

/- What stands in a node stands there in the same order. -/
theorem preorder_sublist
    {m n : Node}
    (hMem : m ∈ n.preorder) :
    m.preorder.Sublist n.preorder := by
  match n with
  | ⟨kind, first, last, content, children⟩ =>
      rw [preorder] at hMem ⊢
      rcases List.mem_cons.mp hMem with rfl | hInside
      · exact List.Sublist.refl _
      · exact (preorderAll_sublist hInside).cons _

/- What stands in some nodes stands there in the same order. -/
theorem preorderAll_sublist
    {m : Node}
    {ns : List Node}
    (hMem : m ∈ preorderAll ns) :
    m.preorder.Sublist (preorderAll ns) := by
  match ns with
  | [] => simp [preorderAll] at hMem
  | n :: ns =>
      rw [preorderAll] at hMem ⊢
      rcases List.mem_append.mp hMem with hHere | hLater
      · exact (preorder_sublist hHere).trans
          (List.sublist_append_left _ _)
      · exact (preorderAll_sublist hLater).trans
          (List.sublist_append_right _ _)

end

mutual

/- The outermost paragraphs and texts are some of a tree's. -/
theorem mem_of_mem_outermost
    {m n : Node}
    (hMem : m ∈ n.outermost) :
    m ∈ n.texts ++ n.paragraphs := by
  match n with
  | ⟨kind, first, last, content, children⟩ =>
      unfold outermost at hMem
      split at hMem
      · rw [List.mem_singleton.mp hMem]
        simp [paragraphs, preorder]
      · rw [List.mem_singleton.mp hMem]
        simp [texts, preorder]
      · rename_i hParagraph hText
        rw [texts_of_ne hText, paragraphs_of_ne hParagraph]
        exact mem_of_mem_outermostAll hMem

/- The same holds of several nodes. -/
theorem mem_of_mem_outermostAll
    {m : Node}
    {ns : List Node}
    (hMem : m ∈ outermostAll ns) :
    m ∈ textsAll ns ++ paragraphsAll ns := by
  match ns with
  | [] => simp [outermostAll] at hMem
  | n :: ns =>
      rw [outermostAll] at hMem
      rw [textsAll_cons, paragraphsAll_cons]
      rcases List.mem_append.mp hMem with hHere | hLater
      · have hFirst := mem_of_mem_outermost hHere
        simp only [List.mem_append] at hFirst ⊢
        rcases hFirst with hText | hParagraph
        · exact Or.inl (Or.inl hText)
        · exact Or.inr (Or.inl hParagraph)
      · have hRest := mem_of_mem_outermostAll hLater
        simp only [List.mem_append] at hRest ⊢
        rcases hRest with hText | hParagraph
        · exact Or.inl (Or.inr hText)
        · exact Or.inr (Or.inr hParagraph)

end

end Node

end ProseCheck

------------------------------------------------------------
-- Legible Trees
------------------------------------------------------------

namespace ProseCheck

namespace Node

/-
  The node goes forward between two offsets of the source, and
  neither of its ends cuts a line break in two.
-/
structure Fits
    (source : Text)
    (start stop : Int)
    (n : Node) : Prop where
  begins : start ≤ n.start
  order : n.start ≤ n.stop
  ends : n.stop ≤ stop
  unsplit_start : ¬ source.SplitsBreak n.start.toNat
  unsplit_stop : ¬ source.SplitsBreak n.stop.toNat

/- A node that fits in somewhere has room there. -/
theorem Fits.le
    {source : Text}
    {start stop : Int}
    {n : Node}
    (hFits : n.Fits source start stop) :
    start ≤ stop :=
  Int.le_trans hFits.begins
    (Int.le_trans hFits.order hFits.ends)

mutual

/-
  The paragraphs and texts of a node can be read between two
  offsets, one after the other.  The flag says whether the
  node lies in a paragraph, where no second one may begin.
-/
def Legible
    (source : Text)
    (inProse : Bool)
    (start stop : Int) : Node → Prop
  | ⟨kind, first, last, content, children⟩ =>
      match kind with
      | .paragraph =>
          inProse = false ∧
            Fits source start stop
              ⟨.paragraph, first, last, content, children⟩ ∧
            LegibleAll source true first last children
      | .text =>
          children = [] ∧
            Fits source start stop
              ⟨.text, first, last, content, children⟩
      | _ => LegibleAll source inProse start stop children

/- Several nodes can be read one after the other. -/
def LegibleAll
    (source : Text)
    (inProse : Bool)
    (start stop : Int) : List Node → Prop
  | [] => start ≤ stop
  | n :: ns =>
      ∃ middle, Legible source inProse start middle n ∧
        LegibleAll source inProse middle stop ns

end

mutual

/- What is legible does not go back. -/
theorem Legible.le
    {source : Text}
    {inProse : Bool}
    {start stop : Int}
    {n : Node}
    (hNode : n.Legible source inProse start stop) :
    start ≤ stop := by
  match n with
  | ⟨kind, first, last, content, children⟩ =>
      unfold Legible at hNode
      split at hNode
      · exact hNode.2.1.le
      · exact hNode.2.le
      · exact hNode.le

/- Nor do several nodes that are. -/
theorem LegibleAll.le
    {source : Text}
    {inProse : Bool}
    {start stop : Int}
    {ns : List Node}
    (hNodes : LegibleAll source inProse start stop ns) :
    start ≤ stop := by
  match ns with
  | [] =>
      unfold LegibleAll at hNodes
      exact hNodes
  | n :: ns =>
      unfold LegibleAll at hNodes
      rcases hNodes with ⟨middle, hFirst, hRest⟩
      exact Int.le_trans hFirst.le hRest.le

end

/-
  What a node must be on its own account, wherever it stands
  in a tree.
-/
structure Orderly
    (source : Text)
    (n : Node) : Prop where
  leaf : n.kind = .text → n.children = []
  inside : n.kind = .paragraph → Row n.start n.stop n.texts
  unsplit :
    n.kind = .text ∨ n.kind = .paragraph →
      ¬ source.SplitsBreak n.start.toNat ∧
        ¬ source.SplitsBreak n.stop.toNat

/- An orderly node that is alone in a row fits in there. -/
theorem Orderly.fits
    {source : Text}
    {n : Node}
    (hNode : n.Orderly source)
    (hKind : n.kind = .text ∨ n.kind = .paragraph)
    {start stop : Int}
    (hRow : Row start stop [n]) :
    n.Fits source start stop :=
  ⟨hRow.1, hRow.2.1, hRow.2.2, (hNode.unsplit hKind).1,
    (hNode.unsplit hKind).2⟩

/-
  The nodes of a tree that must not overlap: outside of the
  paragraphs it is the outermost ones, in a paragraph the
  texts.
-/
def marked
    (inProse : Bool)
    (n : Node) : List Node :=
  if inProse then n.texts else n.outermost

/- The same for several nodes. -/
def markedAll
    (inProse : Bool)
    (ns : List Node) : List Node :=
  if inProse then textsAll ns else outermostAll ns

/- They come in the order of the nodes. -/
theorem markedAll_cons
    (inProse : Bool)
    (n : Node)
    (ns : List Node) :
    markedAll inProse (n :: ns) =
      n.marked inProse ++ markedAll inProse ns := by
  cases inProse with
  | true => exact textsAll_cons n ns
  | false => rfl

/- A text that is a leaf is marked on its own. -/
theorem marked_text
    (inProse : Bool)
    {n : Node}
    (hKind : n.kind = .text)
    (hLeaf : n.children = []) :
    n.marked inProse = [n] := by
  cases inProse with
  | true => exact texts_leaf hKind hLeaf
  | false =>
      cases n
      subst hKind
      rfl

/- Of a node that is neither, what is inside is marked. -/
theorem marked_container
    (inProse : Bool)
    {n : Node}
    (hParagraph : n.kind ≠ .paragraph)
    (hText : n.kind ≠ .text) :
    n.marked inProse = markedAll inProse n.children := by
  cases inProse with
  | true => exact texts_of_ne hText
  | false =>
      change n.outermost = outermostAll n.children
      cases n
      unfold outermost
      split
      · exact absurd rfl hParagraph
      · exact absurd rfl hText
      · rfl

mutual

/-
  A node of orderly ones is legible where the nodes that must
  not overlap are a row.
-/
theorem legible_of_row
    {source : Text}
    {inProse : Bool}
    {start stop : Int}
    (n : Node)
    (hClear : ¬ n.Clashes inProse)
    (hOrderly : ∀ m ∈ n.preorder, m.Orderly source)
    (hRow : Row start stop (n.marked inProse)) :
    n.Legible source inProse start stop := by
  match n with
  | ⟨kind, first, last, content, children⟩ =>
      rw [preorder] at hOrderly
      have hHere := hOrderly _ List.mem_cons_self
      have hInside : ∀ m ∈ preorderAll children,
          m.Orderly source :=
        fun m hMem => hOrderly m (List.mem_cons_of_mem _ hMem)
      unfold Legible
      split
      · rw [clashes_paragraph_iff rfl] at hClear
        push Not at hClear
        have hProse : inProse = false := by
          simpa using hClear.1
        subst hProse
        refine ⟨rfl, hHere.fits (Or.inr rfl) hRow, ?_⟩
        apply legibleAll_of_row children hClear.2 hInside
        have hTexts := hHere.inside rfl
        rw [texts_of_ne (by simp)] at hTexts
        exact hTexts
      · have hLeaf := hHere.leaf rfl
        rw [marked_text inProse rfl hLeaf] at hRow
        exact ⟨hLeaf, hHere.fits (Or.inl rfl) hRow⟩
      · rename_i hParagraph hText
        rw [clashes_iff_of_ne hParagraph] at hClear
        push Not at hClear
        rw [marked_container inProse hParagraph hText] at hRow
        exact legibleAll_of_row children hClear hInside hRow

/- Several nodes are legible under the same conditions. -/
theorem legibleAll_of_row
    {source : Text}
    {inProse : Bool}
    {start stop : Int}
    (ns : List Node)
    (hClear : ∀ n ∈ ns, ¬ n.Clashes inProse)
    (hOrderly : ∀ m ∈ preorderAll ns, m.Orderly source)
    (hRow : Row start stop (markedAll inProse ns)) :
    LegibleAll source inProse start stop ns := by
  match ns with
  | [] =>
      unfold LegibleAll
      cases inProse with
      | true => exact hRow
      | false => exact hRow
  | n :: ns =>
      rw [preorderAll] at hOrderly
      rw [markedAll_cons] at hRow
      rcases hRow.exists_middle with ⟨middle, hFirst, hRest⟩
      unfold LegibleAll
      refine ⟨middle, ?_, ?_⟩
      · apply legible_of_row n (hClear n List.mem_cons_self)
        · intro m hMem
          exact hOrderly m (List.mem_append_left _ hMem)
        · exact hFirst
      · apply legibleAll_of_row ns
        · intro m hMem
          exact hClear m (List.mem_cons_of_mem n hMem)
        · intro m hMem
          exact hOrderly m (List.mem_append_right _ hMem)
        · exact hRest

end

/- The texts of a tree that is laid out are a row. -/
theorem LaidOut.row_texts
    {source : Text}
    {root : Node}
    (hRoot : root.LaidOut source) :
    Row 0 source.length root.texts := by
  apply row_of_isChain (by omega)
  · intro t hMem
    exact (hRoot.bounds t (List.mem_append_left _
      (List.mem_of_mem_head? hMem))).1
  · intro t hMem
    exact (hRoot.bounds t (List.mem_append_left _ hMem)).2
  · exact hRoot.texts_ordered

/- So are the outermost paragraphs and texts. -/
theorem LaidOut.row_outermost
    {source : Text}
    {root : Node}
    (hRoot : root.LaidOut source) :
    Row 0 source.length root.outermost := by
  apply row_of_isChain (by omega)
  · intro n hMem
    exact (hRoot.bounds n (mem_of_mem_outermost
      (List.mem_of_mem_head? hMem))).1
  · intro n hMem
    exact (hRoot.bounds n (mem_of_mem_outermost hMem)).2
  · exact hRoot.outermost_ordered

/- All nodes of a tree that is laid out are orderly. -/
theorem LaidOut.orderly
    {source : Text}
    {root : Node}
    (hRoot : root.LaidOut source)
    {n : Node}
    (hMem : n ∈ root.preorder) :
    n.Orderly source := by
  have hText : n.kind = .text → n ∈ root.texts := by
    intro hKind
    simp [texts, hMem, hKind]
  have hParagraph :
      n.kind = .paragraph → n ∈ root.paragraphs := by
    intro hKind
    simp [paragraphs, hMem, hKind]
  refine ⟨fun hKind => hRoot.leaf n (hText hKind), ?_, ?_⟩
  · intro hKind
    have hRow : Row 0 source.length n.texts :=
      hRoot.row_texts.sublist
        ((preorder_sublist hMem).filter _)
    have hBounds :=
      hRoot.bounds n
        (List.mem_append_right _ (hParagraph hKind))
    exact hRow.tighten hBounds.2.1
      (hRoot.inside n (hParagraph hKind))
  · intro hKind
    apply hRoot.unsplit
    rw [List.mem_append]
    exact hKind.imp hText hParagraph

/- A tree that is laid out in the source is legible there. -/
theorem LaidOut.legible
    {source : Text}
    {root : Node}
    (hRoot : root.LaidOut source) :
    root.Legible source false 0 source.length := by
  apply legible_of_row
  · rw [clashes_false_iff]
    exact hRoot.flat
  · intro m hMem
    exact hRoot.orderly hMem
  · exact hRoot.row_outermost

end Node

end ProseCheck
