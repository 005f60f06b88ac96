import ProseCheck.Proofs.Position.Lines
import ProseCheck.Proofs.Tree.Placement
import ProseCheck.Tree.Locate

/-
  This file shows that tokens are located in the order of the
  source.  Whatever the tokens are, the nodes that are found
  stand one behind the other, and no node ends behind the
  end of the source.

  The open containers form a stack.  Each one holds nodes
  that stand one behind the other, from where it was opened
  to where the next container was, and the innermost one up
  to the cursor.  Every step keeps the stack in this state.

  Main declarations:
    * `Frame.Holds`
    * `Locator.Sound`
    * `Locator.step_sound`
    * `Locator.consume_sound`
    * `between_locate`
-/

------------------------------------------------------------
-- Closed Frames
------------------------------------------------------------

namespace ProseCheck

namespace Frame

/- Where the node of a closed frame starts. -/
theorem start_close
    (f : Frame)
    (fallback : Nat) :
    (∃ n : Nat, f.start = some n ∧
        (f.close fallback).start = n) ∨
      (f.start = none ∧ ∃ c cs, f.recent.reverse = c :: cs ∧
        (f.close fallback).start = c.start) ∨
      (f.start = none ∧ f.recent.reverse = [] ∧
        (f.close fallback).start = fallback) := by
  unfold close
  cases hStart : f.start with
  | some n => exact Or.inl ⟨n, rfl, rfl⟩
  | none =>
      cases hNodes : f.recent.reverse with
      | nil => exact Or.inr (Or.inr ⟨rfl, rfl, rfl⟩)
      | cons c cs =>
          exact Or.inr (Or.inl ⟨rfl, c, cs, rfl, rfl⟩)

/- Where the node of a closed frame stops. -/
theorem stop_close
    (f : Frame)
    (fallback : Nat) :
    (∃ n : Nat, f.stop = some n ∧
        (f.close fallback).stop =
          max (f.close fallback).start n) ∨
      (∃ c ∈ f.recent.reverse,
        (f.close fallback).stop =
          max (f.close fallback).start c.stop) ∨
      (f.close fallback).stop = (f.close fallback).start := by
  simp only [close]
  cases hStop : f.stop with
  | some n => exact Or.inl ⟨n, rfl, rfl⟩
  | none =>
      cases hNodes : f.recent with
      | nil => exact Or.inr (Or.inr (Int.max_self _))
      | cons c cs =>
          refine Or.inr (Or.inl ⟨c, ?_, rfl⟩)
          simp

/-
  A frame holds nodes that stand one behind the other, from
  the offset `start` to the offset `stop`.  It begins before
  them, if it knows where, and ends inside of the source.
-/
structure Holds
    (source : Text)
    (start stop : Nat)
    (f : Frame) : Prop where
  isContainer : f.kind ≠ .text
  start_le : ∀ n, f.start = some n → n ≤ start
  stop_le : ∀ n, f.stop = some n → n ≤ source.length
  inOrder : Node.AllBetween start stop f.recent.reverse

/- A frame does not hold nodes in a stretch that goes back. -/
theorem Holds.le
    {source : Text}
    {start stop : Nat}
    {f : Frame}
    (hHolds : f.Holds source start stop) :
    start ≤ stop :=
  Int.ofNat_le.mp hHolds.inOrder.le

/- A frame holds its nodes up to any later offset, too. -/
theorem Holds.mono
    {source : Text}
    {start stop beyond : Nat}
    {f : Frame}
    (hHolds : f.Holds source start stop)
    (hBeyond : stop ≤ beyond) :
    f.Holds source start beyond :=
  { hHolds with
    inOrder :=
      hHolds.inOrder.mono (Int.le_refl _)
        (Int.ofNat_le.mpr hBeyond) }

/- A frame may take a node behind those that it holds. -/
theorem Holds.add
    {source : Text}
    {start middle stop : Nat}
    {f : Frame}
    (hHolds : f.Holds source start middle)
    {n : Node}
    (hNode : n.Between middle stop) :
    (f.add n).Holds source start stop := by
  refine { hHolds with inOrder := ?_ }
  rw [Frame.add, List.reverse_cons]
  exact hHolds.inOrder.append_singleton hNode

/- A frame may be told where in the source it ends. -/
theorem Holds.stop_at
    {source : Text}
    {start stop : Nat}
    {f : Frame}
    (hHolds : f.Holds source start stop)
    {last : Nat}
    (hLast : last ≤ source.length) :
    { f with stop := some last }.Holds source start stop := by
  refine { hHolds with stop_le := ?_ }
  intro n hStop
  cases hStop
  exact hLast

/- The node of a closed frame begins before a later offset. -/
theorem Holds.start_close_le
    {source : Text}
    {start stop : Nat}
    {f : Frame}
    (hHolds : f.Holds source start stop)
    {fallback beyond : Nat}
    (hFallback : fallback ≤ beyond)
    (hBeyond : stop ≤ beyond) :
    (f.close fallback).start ≤ beyond := by
  have hOrder := hHolds.le
  rcases f.start_close fallback with
    ⟨n, hKnown, hStart⟩ | ⟨_, c, cs, hNodes, hStart⟩ |
      ⟨_, _, hStart⟩
  · have hFirst := hHolds.start_le n hKnown
    omega
  · have hPlace := hHolds.inOrder.bounds_of_mem
      (n := c) (by simp [hNodes])
    omega
  · omega

/-
  The node of a closed frame stands where the frame holds
  its nodes, up to any offset that its own end allows.
-/
theorem Holds.between_close
    {source : Text}
    {start stop : Nat}
    {f : Frame}
    (hHolds : f.Holds source start stop)
    {fallback beyond : Nat}
    (hFallback : fallback ≤ beyond)
    (hBeyond : stop ≤ beyond)
    (hEnd : ∀ n, f.stop = some n → n ≤ beyond) :
    (f.close fallback).Between start beyond := by
  have hFirst := hHolds.start_close_le hFallback hBeyond
  have hWide : (stop : Int) ≤ beyond :=
    Int.ofNat_le.mpr hBeyond
  have hNodes := hHolds.inOrder.mono (Int.le_refl _) hWide
  rw [Node.between_iff]
  refine ⟨hFirst, ?_, ?_, ?_⟩
  · rcases f.stop_close fallback with
      ⟨n, hKnown, hStop⟩ | ⟨c, hMem, hStop⟩ | hStop
    · have hLast := hEnd n hKnown
      omega
    · have hPlace := hNodes.bounds_of_mem hMem
      omega
    · omega
  · intro hKind
    exact absurd hKind hHolds.isContainer
  · change Node.AllBetween _ _ f.recent.reverse
    rcases f.start_close fallback with
      ⟨n, hKnown, hStart⟩ | ⟨_, c, cs, hRow, hStart⟩ |
        ⟨_, hRow, hStart⟩
    · have hBefore := hHolds.start_le n hKnown
      rw [hStart, max_eq_left (Int.ofNat_le.mpr hBefore)]
      exact hNodes
    · rw [hStart, hRow]
      rw [hRow] at hNodes
      exact hNodes.from_start
    · have hOrder := hNodes.le
      rw [hStart, hRow, Node.AllBetween]
      omega

end Frame

end ProseCheck

------------------------------------------------------------
-- Sound Locators
------------------------------------------------------------

namespace ProseCheck

/-
  The open frames hold nodes one behind the other, from the
  offset `base` to the offset `reached`, the innermost frame
  first.
-/
def Stacked
    (source : Text)
    (base reached : Nat) : List Frame → Prop
  | [] => base ≤ reached
  | f :: outer =>
      ∃ opened, f.Holds source opened reached ∧
        Stacked source base opened outer

/- A stack of frames does not go back. -/
theorem Stacked.le
    {source : Text}
    {base reached : Nat}
    {frames : List Frame}
    (hStack : Stacked source base reached frames) :
    base ≤ reached := by
  induction frames generalizing reached with
  | nil => exact hStack
  | cons f outer ih =>
      rcases hStack with ⟨opened, hTop, hOuter⟩
      exact Nat.le_trans (ih hOuter) hTop.le

/- A stack of frames holds nodes up to a later offset, too. -/
theorem Stacked.mono
    {source : Text}
    {base reached beyond : Nat}
    {frames : List Frame}
    (hStack : Stacked source base reached frames)
    (hBeyond : reached ≤ beyond) :
    Stacked source base beyond frames := by
  cases frames with
  | nil => exact Nat.le_trans hStack hBeyond
  | cons f outer =>
      rcases hStack with ⟨opened, hTop, hOuter⟩
      exact ⟨opened, hTop.mono hBeyond, hOuter⟩

/- The outermost frame of a stack holds nodes as well. -/
theorem Stacked.holds_outermost
    {source : Text}
    {base reached : Nat}
    {f : Frame}
    {outer : List Frame}
    (hStack : Stacked source base reached (f :: outer)) :
    ∃ last opened closed,
      (f :: outer).getLast? = some last ∧
        last.Holds source opened closed ∧
        base ≤ opened ∧ closed ≤ reached := by
  induction outer generalizing f reached with
  | nil =>
      rcases hStack with ⟨opened, hTop, hOuter⟩
      exact ⟨f, opened, reached, rfl, hTop, hOuter,
        Nat.le_refl _⟩
  | cons g outer ih =>
      rcases hStack with ⟨middle, hTop, hOuter⟩
      rcases ih hOuter with
        ⟨last, opened, closed, hLast, hHolds, hBase,
          hClosed⟩
      refine ⟨last, opened, closed, ?_, hHolds, hBase,
        Nat.le_trans hClosed hTop.le⟩
      rw [List.getLast?_cons_cons]
      exact hLast

namespace Locator

/-
  A locator is inside of the source, and its open frames
  hold nodes up to the cursor.
-/
structure Sound
    (source : Text)
    (base : Nat)
    (l : Locator) : Prop where
  cursor_le : l.cursor ≤ source.length
  stacked :
    Stacked source base l.cursor (l.top :: l.outer)

/- A locator stays sound when a node is found on its way. -/
theorem Sound.addNode
    {source : Text}
    {base : Nat}
    {l : Locator}
    (hSound : l.Sound source base)
    {cursor : Nat}
    (hTo : cursor ≤ source.length)
    {n : Node}
    (hNode : n.Between l.cursor cursor) :
    ({ l with cursor := cursor }.addNode n).Sound source
      base := by
  rcases hSound.stacked with ⟨opened, hTop, hOuter⟩
  exact ⟨hTo, opened, hTop.add hNode, hOuter⟩

end Locator

end ProseCheck

------------------------------------------------------------
-- Leaves
------------------------------------------------------------

namespace ProseCheck

namespace Locator

/- The lines of a token go forward, and are in the source. -/
theorem blockSpan_bounds
    {source : Text}
    {lines : Option (Int × Int)}
    {start stop : Nat}
    (hSpan : blockSpan source lines = some (start, stop)) :
    start ≤ stop ∧ stop ≤ source.length := by
  rcases Option.map_eq_some_iff.mp hSpan with
    ⟨⟨first, past⟩, _, hEnds⟩
  rcases Prod.mk.inj hEnds with ⟨rfl, rfl⟩
  let table : PositionTable := ⟨source, false, .utf32⟩
  have hLine :
      table.nearestLine (max first (past - 1)) <
        table.lineCount := by
    have hCount := table.lineCount_pos
    unfold PositionTable.nearestLine
    omega
  have hOrder :
      table.nearestLine first ≤
        table.nearestLine (max first (past - 1)) := by
    rw [PositionTable.nearestLine, PositionTable.nearestLine]
    omega
  exact ⟨Nat.le_trans
      (table.startOf_le_startOf hOrder hLine)
      (table.startOf_le_endOf _),
    table.endOf_le_length _⟩

/- A block without tokens keeps the locator sound. -/
theorem Sound.leafBlock
    {source : Text}
    {base : Nat}
    {l : Locator}
    (hSound : l.Sound source base)
    {kind : NodeKind}
    (hKind : kind ≠ .text)
    (lines : Option (Int × Int)) :
    (l.leafBlock source kind lines).Sound source base := by
  unfold Locator.leafBlock
  split
  · exact hSound
  · rename_i start stop hSpan
    have hBounds := blockSpan_bounds hSpan
    have hCursor := hSound.cursor_le
    apply hSound.addNode (by omega)
    refine Node.between_leaf ?_ ?_ ?_ ?_
    · omega
    · omega
    · omega
    · intro hText
      exact absurd hText hKind

/- What is written in a block keeps the locator sound. -/
theorem Sound.written
    {source : Text}
    {base : Nat}
    {l : Locator}
    (hSound : l.Sound source base)
    (kind : NodeKind)
    (needle content : Text)
    {skip : Nat}
    (hSkip : skip ≤ needle.length) :
    (l.written source kind needle content skip).Sound source
      base := by
  unfold Locator.written
  split
  · exact hSound
  · rename_i index hFind
    unfold find? at hFind
    split at hFind
    · cases hFind
    · rename_i hEmpty
      have hBounds := Text.findIn?_bounds
        (fun hNone => hEmpty (List.isEmpty_iff.mpr hNone))
        hFind
      apply hSound.addNode (by omega)
      refine Node.between_leaf ?_ ?_ ?_ ?_
      · omega
      · omega
      · omega
      · intro _
        omega

/- A special character keeps the locator sound. -/
theorem Sound.special
    {source : Text}
    {base : Nat}
    {l : Locator}
    (hSound : l.Sound source base)
    (content markup : Text)
    (info : String) :
    (l.special source content markup info).Sound source
      base := by
  unfold Locator.special
  split
  · rename_i hEscape
    apply hSound.written _ _ _
    cases markup with
    | nil => simp at hEscape
    | cons c cs => simp
  · exact hSound.written _ _ _ (Nat.zero_le _)

/- A run of marks ends inside of what is searched. -/
theorem runFrom_bounds
    {run t : Text}
    {offset i : Nat}
    {before : Option Char}
    (hFound : runFrom run offset before t = some i) :
    offset ≤ i ∧ i < offset + t.length ∧
      i + run.length ≤ offset + t.length := by
  induction t generalizing offset before with
  | nil => cases hFound
  | cons c cs ih =>
      unfold runFrom at hFound
      split at hFound
      · rename_i hRun
        have hLength :=
          (List.isPrefixOf_iff_prefix.mp hRun.2.1).length_le
        cases hFound
        simp only [List.length_cons] at hLength ⊢
        omega
      · have hRest := ih hFound
        simp only [List.length_cons]
        omega

/- A run of marks is found between the offset and the end. -/
theorem findRun?_bounds
    {source run : Text}
    {start limit i : Nat}
    (hFound : findRun? source run start limit = some i) :
    start ≤ i ∧ i + run.length ≤ source.length := by
  have hBounds := runFrom_bounds hFound
  rw [Text.length_slice] at hBounds
  omega

/- Code in a line keeps the locator sound. -/
theorem Sound.codeSpan
    {source : Text}
    {base : Nat}
    {l : Locator}
    (hSound : l.Sound source base)
    (markup : Text) :
    (l.codeSpan source markup).Sound source base := by
  rw [Locator.codeSpan]
  generalize (if markup.isEmpty then [codeMark]
    else markup) = run
  split
  · exact hSound
  · rename_i start hStart
    dsimp only
    split
    · exact hSound
    · rename_i closing hClosing
      have hFirst := findRun?_bounds hStart
      have hLast := findRun?_bounds hClosing
      apply hSound.addNode (by omega)
      refine Node.between_leaf ?_ ?_ ?_ ?_
      · omega
      · omega
      · omega
      · intro hText
        cases hText

end Locator

end ProseCheck

------------------------------------------------------------
-- Ends of Links
------------------------------------------------------------

namespace ProseCheck

namespace Locator

/- A title is skipped forwards. -/
theorem le_skipTitle
    (source : Text)
    (limit position : Nat) :
    position ≤ skipTitle source limit position := by
  unfold skipTitle
  split
  · exact Nat.le_refl _
  · unfold skipSpace
    omega

/- A destination and a title are skipped forwards. -/
theorem le_skipParts
    (source : Text)
    (limit position : Nat) :
    position ≤ skipParts source limit position := by
  have hSpace :
      position ≤ skipSpace source limit position := by
    unfold skipSpace
    omega
  rw [skipParts]
  split
  · exact hSpace
  · rename_i part _
    refine Nat.le_trans ?_ (le_skipTitle source limit _)
    unfold skipSpace
    omega

/- A single character that is found is inside of the source. -/
theorem findIn?_char_bounds
    {source : Text}
    {c : Char}
    {start limit i : Nat}
    (hFound : source.findIn? [c] start limit = some i) :
    start ≤ i ∧ i + 1 ≤ source.length := by
  have hBounds :=
    Text.findIn?_bounds (List.cons_ne_nil c []) hFound
  exact ⟨hBounds.1, hBounds.2.2⟩

/- The parentheses of a link are skipped inside the source. -/
theorem skipDestination_bounds
    {source : Text}
    {cursor position : Nat}
    (limit : Nat)
    (hFrom : cursor ≤ position)
    (hTo : cursor ≤ source.length) :
    cursor ≤ skipDestination source limit cursor position ∧
      skipDestination source limit cursor position ≤
        source.length := by
  have hParts := le_skipParts source limit position
  rw [skipDestination]
  split
  · exact ⟨Nat.le_refl _, hTo⟩
  · rename_i closing hFound
    have hBounds := findIn?_char_bounds hFound
    omega

/- The end of a link is skipped inside of the source. -/
theorem skipLinkTail_bounds
    {source : Text}
    {cursor : Nat}
    (limit : Nat)
    (autolink : Bool)
    (hTo : cursor ≤ source.length) :
    cursor ≤ skipLinkTail source limit cursor autolink ∧
      skipLinkTail source limit cursor autolink ≤
        source.length := by
  rw [skipLinkTail]
  split
  · exact ⟨Nat.le_refl _, hTo⟩
  · rename_i index hFound
    have hBounds := findIn?_char_bounds hFound
    dsimp only
    split
    · omega
    split
    · have hRest := skipDestination_bounds limit
        (Nat.le_add_right (index + 1) 1) hBounds.2
      omega
    split
    · split
      · omega
      · rename_i labelEnd hLabel
        have hRest := findIn?_char_bounds hLabel
        omega
    · omega

end Locator

end ProseCheck

------------------------------------------------------------
-- Containers
------------------------------------------------------------

namespace ProseCheck

/- No token opens a text. -/
theorem containerKind_ne_text
    (name : String) :
    containerKind name ≠ .text := by
  unfold containerKind
  split
  · rename_i _ _ kind hFound
    have hMem := List.mem_of_find?_eq_some hFound
    intro hKind
    rw [hKind] at hMem
    simp [containerNames] at hMem
  · simp

/- No block without tokens is a text. -/
theorem leafBlockKind?_ne_text
    (name : String) :
    leafBlockKind? name ≠ some .text := by
  unfold leafBlockKind?
  repeat' split
  all_goals simp

namespace Locator

/- An opened container keeps the locator sound. -/
theorem Sound.openFrame
    {source : Text}
    {base : Nat}
    {l : Locator}
    (hSound : l.Sound source base)
    (name : String)
    (lines : Option (Int × Int))
    (markup : Text) :
    (l.openFrame source name lines markup).Sound source
      base := by
  have hKind := containerKind_ne_text name
  have hCursor := hSound.cursor_le
  unfold Locator.openFrame
  split
  · refine ⟨hCursor, l.cursor, ?_, hSound.stacked⟩
    exact ⟨hKind, by simp, by simp, Int.le_refl _⟩
  · rename_i start stop hSpan
    have hBounds := blockSpan_bounds hSpan
    have hMoved := Nat.le_max_left l.cursor start
    refine ⟨by dsimp only; omega, max l.cursor start, ?_,
      hSound.stacked.mono hMoved⟩
    refine ⟨hKind, ?_, ?_, Int.le_refl _⟩
    · intro n hStart
      cases hStart
      exact Nat.le_max_right l.cursor start
    · intro n hStop
      cases hStop
      exact hBounds.2

/- The end of a link keeps the locator sound. -/
theorem Sound.finish
    {source : Text}
    {base : Nat}
    {l : Locator}
    (hSound : l.Sound source base) :
    (l.finish source).Sound source base := by
  unfold Locator.finish
  split
  · have hTail := skipLinkTail_bounds l.limit
      (l.top.markup == "autolink".toList) hSound.cursor_le
    rcases hSound.stacked.mono hTail.1 with
      ⟨opened, hTop, hOuter⟩
    exact ⟨hTail.2, opened, hTop.stop_at hTail.2, hOuter⟩
  · exact hSound

/- A closed container keeps the locator sound. -/
theorem Sound.closeFrame
    {source : Text}
    {base : Nat}
    {l : Locator}
    (hSound : l.Sound source base) :
    (l.closeFrame source).Sound source base := by
  unfold Locator.closeFrame
  split
  · exact hSound
  · rename_i parent outer hParent
    have hFinish := hSound.finish
    have hSame : (l.finish source).outer = parent :: outer := by
      unfold Locator.finish
      split <;> exact hParent
    generalize l.finish source = m at hFinish hSame ⊢
    rcases hFinish with ⟨hCursor, opened, hTop, hStack⟩
    rw [hSame] at hStack
    rcases hStack with ⟨before, hParentTop, hRest⟩
    have hMoved : m.cursor ≤ max m.cursor (m.top.stop.getD 0) :=
      Nat.le_max_left _ _
    have hEnd :
        ∀ n, m.top.stop = some n →
          n ≤ max m.cursor (m.top.stop.getD 0) := by
      intro n hStop
      rw [hStop]
      exact Nat.le_max_right _ _
    have hNode := hTop.between_close hMoved hMoved hEnd
    refine ⟨Nat.max_le.mpr ⟨hCursor, ?_⟩, before,
      hParentTop.add hNode, hRest⟩
    cases hStop : m.top.stop with
    | none => exact Nat.zero_le _
    | some n => exact hTop.stop_le n hStop

/- A closed image keeps the locator around it sound. -/
theorem Sound.image
    {source : Text}
    {base : Nat}
    {l inside : Locator}
    (hSound : l.Sound source base)
    (hInside : inside.Sound source l.cursor) :
    (closeImage source
      ((inside.top :: inside.outer).getLast?.getD inside.top)
      { inside with top := l.top, outer := l.outer }).Sound
        source base := by
  have hTail := skipLinkTail_bounds inside.limit false
    hInside.cursor_le
  rcases hInside.stacked.holds_outermost with
    ⟨frame, opened, closed, hFrame, hHolds, hBase, hClosed⟩
  rw [hFrame, Option.getD_some, closeImage]
  have hPlace :=
    (hHolds.stop_at hTail.2).between_close
      (Nat.le_refl _) (Nat.le_trans hClosed hTail.1)
      (fun n hStop => Nat.le_of_eq (Option.some.inj hStop).symm)
  have hNode :=
    hPlace.mono (Int.ofNat_le.mpr hBase) (Int.le_refl _)
  have hAround :
      { l with limit := inside.limit }.Sound source base :=
    ⟨hSound.cursor_le, hSound.stacked⟩
  exact hAround.addNode hTail.2 hNode

end Locator

end ProseCheck

------------------------------------------------------------
-- Token Streams
------------------------------------------------------------

namespace ProseCheck

namespace Locator

/- A token that opens and closes nothing keeps soundness. -/
theorem Sound.leaf
    {source : Text}
    {base : Nat}
    {l : Locator}
    (hSound : l.Sound source base)
    (name : String)
    (lines : Option (Int × Int))
    (content markup : Text)
    (info : String) :
    (l.leaf source name lines content markup info).Sound
      source base := by
  unfold Locator.leaf
  split
  · rename_i kind hKind
    refine hSound.leafBlock ?_ lines
    intro hText
    rw [hText] at hKind
    exact leafBlockKind?_ne_text name hKind
  split
  · exact hSound.written _ _ _ (Nat.zero_le _)
  split
  · exact hSound.special content markup info
  split
  · exact hSound.codeSpan markup
  split
  · exact hSound.written _ _ _ (Nat.zero_le _)
  · exact hSound

mutual

/- Every token keeps the locator sound. -/
theorem step_sound
    {source : Text}
    {base : Nat}
    (t : Token)
    {l : Locator}
    (hSound : l.Sound source base) :
    (step source t l).Sound source base := by
  match t with
  | ⟨name, nesting, lines, content, markup, info,
      children⟩ =>
      unfold step
      split
      · exact hSound.openFrame name lines markup
      split
      · exact hSound.closeFrame
      split
      · exact consume_sound children hSound
      split
      · refine hSound.image (consume_sound children ?_)
        refine ⟨hSound.cursor_le, l.cursor, ?_,
          Nat.le_refl _⟩
        exact ⟨by simp, by simp, by simp, Int.le_refl _⟩
      · exact hSound.leaf name lines content markup info

/- Every run of tokens keeps the locator sound. -/
theorem consume_sound
    {source : Text}
    {base : Nat}
    (ts : List Token)
    {l : Locator}
    (hSound : l.Sound source base) :
    (consume source ts l).Sound source base := by
  match ts with
  | [] =>
      unfold consume
      exact hSound
  | t :: ts =>
      unfold consume
      exact consume_sound ts (step_sound t hSound)

end

end Locator

end ProseCheck

------------------------------------------------------------
-- Trees
------------------------------------------------------------

namespace ProseCheck

namespace Locator

/- Nothing is out of order before the first token. -/
theorem sound_start
    (source : Text) :
    (start source).Sound source 0 := by
  refine ⟨Nat.zero_le _, 0, ?_, Nat.le_refl _⟩
  refine ⟨by simp [start], ?_, ?_, Int.le_refl _⟩
  · intro n hStart
    cases hStart
    exact Nat.le_refl _
  · intro n hStop
    cases hStop
    exact Nat.le_refl _

/- The frame left of a stack holds nodes within the source. -/
theorem closeAll_holds
    {source : Text}
    {base reached cursor : Nat}
    {top : Frame}
    {outer : List Frame}
    (hStack : Stacked source base reached (top :: outer))
    (hReached : reached ≤ source.length)
    (hCursor : cursor ≤ source.length) :
    ∃ opened, base ≤ opened ∧
      (closeAll cursor top outer).Holds source opened
        source.length := by
  induction outer generalizing top reached with
  | nil =>
      rcases hStack with ⟨opened, hTop, hBase⟩
      exact ⟨opened, hBase, hTop.mono hReached⟩
  | cons parent outer ih =>
      rcases hStack with
        ⟨opened, hTop, before, hParent, hRest⟩
      have hNode :=
        hTop.between_close hCursor hReached hTop.stop_le
      exact ih ⟨before, hParent.add hNode, hRest⟩
        (Nat.le_refl _)

end Locator

/-
  Whatever the tokens are, the nodes of the located tree
  stand one behind the other, from the first character of
  the source to the last one.
-/
theorem between_locate
    (source : Text)
    (tokens : List Token) :
    (locate source tokens).Between 0 source.length := by
  have hSound :=
    Locator.consume_sound tokens (Locator.sound_start source)
  rcases Locator.closeAll_holds hSound.stacked
    hSound.cursor_le hSound.cursor_le with
    ⟨opened, _, hRoot⟩
  have hNode :=
    hRoot.between_close (Nat.zero_le _) (Nat.le_refl _)
      hRoot.stop_le
  exact hNode.mono (Int.natCast_nonneg opened)
    (Int.le_refl _)

end ProseCheck
