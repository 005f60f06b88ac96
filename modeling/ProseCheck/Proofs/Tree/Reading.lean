import ProseCheck.Proofs.Tree.Nesting
import ProseCheck.Text.Lines
import ProseCheck.Tree.Annotate

/-
  This file says what should be read of a source under a
  tree, offset by offset and without walking the tree: the
  contents of the texts that begin at the offset, and what is
  read for a line break that begins there outside of all
  texts.  Nothing is read for any other character.

  What is read from one offset to another is put together
  from what is read up to an offset in between and from
  there on.

  Main declarations:
    * `Text.breakAt`
    * `Node.preorder`
    * `Node.outermost`
    * `Node.LaidOut`
    * `reading`
    * `stretch`
    * `stretch_append`
-/

------------------------------------------------------------
-- Line Breaks
------------------------------------------------------------

namespace ProseCheck

namespace Text

/- The offset lies between the two characters of one break. -/
def SplitsBreak
    (t : Text)
    (offset : Nat) : Prop :=
  0 < offset ∧ t[offset - 1]? = some '\r' ∧
    t[offset]? = some '\n'

instance
    (t : Text)
    (offset : Nat) :
    Decidable (t.SplitsBreak offset) := by
  unfold SplitsBreak
  infer_instance

/-
  The characters of the line break that begins at an offset.
  There are none if no break begins there.
-/
def breakAt
    (t : Text)
    (offset : Nat) : Text :=
  match t[offset]? with
  | some '\r' =>
      if t[offset + 1]? = some '\n' then ['\r', '\n']
      else ['\r']
  | some '\n' => if t.SplitsBreak offset then [] else ['\n']
  | _ => []

end Text

end ProseCheck

------------------------------------------------------------
-- Nodes of a Tree
------------------------------------------------------------

namespace ProseCheck

namespace Node

mutual

/- A node and all that stand in it, each before its children. -/
def preorder : Node → List Node
  | ⟨kind, start, stop, content, children⟩ =>
      ⟨kind, start, stop, content, children⟩ ::
        preorderAll children

/- Nodes and all that stand in them, in the same order. -/
def preorderAll : List Node → List Node
  | [] => []
  | n :: ns => preorder n ++ preorderAll ns

end

/- The texts of a tree, in the order of the document. -/
def texts
    (n : Node) : List Node :=
  n.preorder.filter (·.kind = .text)

/- The paragraphs of a tree, in the order of the document. -/
def paragraphs
    (n : Node) : List Node :=
  n.preorder.filter (·.kind = .paragraph)

mutual

/-
  The paragraphs of a tree, and its texts that stand in none,
  in the order of the document.
-/
def outermost : Node → List Node
  | ⟨kind, start, stop, content, children⟩ =>
      match kind with
      | .paragraph =>
          [⟨.paragraph, start, stop, content, children⟩]
      | .text => [⟨.text, start, stop, content, children⟩]
      | _ => outermostAll children

/- The outermost paragraphs and texts of several nodes. -/
def outermostAll : List Node → List Node
  | [] => []
  | n :: ns => outermost n ++ outermostAll ns

end

/- The node covers the character at an offset. -/
def Spans
    (n : Node)
    (offset : Nat) : Prop :=
  n.start ≤ offset ∧ (offset : Int) < n.stop

instance
    (n : Node)
    (offset : Nat) :
    Decidable (n.Spans offset) := by
  unfold Spans
  infer_instance

/-
  The paragraphs and texts of a tree stand in the source as
  they do in the document.  Of other nodes the stretches do
  not matter.

    * No paragraph stands in another one, and a text is a
      leaf.
    * The stretches lie in the source, and cut no line break
      in two.
    * A text in a paragraph lies in its stretch.
    * Each text begins where the one before it has ended, and
      so does each of the outermost paragraphs and texts.
-/
structure LaidOut
    (source : Text)
    (root : Node) : Prop where
  flat : ¬ root.NestsParagraphs
  leaf : ∀ t ∈ root.texts, t.children = []
  bounds :
    ∀ n ∈ root.texts ++ root.paragraphs,
      0 ≤ n.start ∧ n.start ≤ n.stop ∧
        n.stop ≤ source.length
  inside :
    ∀ p ∈ root.paragraphs, ∀ t ∈ p.texts,
      p.start ≤ t.start ∧ t.stop ≤ p.stop
  texts_ordered :
    root.texts.IsChain (fun t u => t.stop ≤ u.start)
  outermost_ordered :
    root.outermost.IsChain (fun n m => n.stop ≤ m.start)
  unsplit :
    ∀ n ∈ root.texts ++ root.paragraphs,
      ¬ source.SplitsBreak n.start.toNat ∧
        ¬ source.SplitsBreak n.stop.toNat

end Node

end ProseCheck

------------------------------------------------------------
-- What Should Be Read
------------------------------------------------------------

namespace ProseCheck

/- The contents of the texts that begin at an offset. -/
def textsAt
    (texts : List Node)
    (offset : Nat) : Text :=
  (texts.filter (fun t => t.start = (offset : Int))).flatMap
    (fun t => t.content)

/-
  What is read for the line break that begins at an offset,
  if there is one outside of all texts.
-/
def breakReadAt
    (source : Text)
    (texts : List Node)
    (inProse : Bool)
    (offset : Nat) : Text :=
  if ∃ t ∈ texts, t.Spans offset then []
  else
    match source.breakAt offset with
    | [] => []
    | characters => breakContent inProse characters

/- What is read at one offset of the source. -/
def readingAt
    (source : Text)
    (root : Node)
    (offset : Nat) : Text :=
  textsAt root.texts offset ++
    breakReadAt source root.texts
      (∃ p ∈ root.paragraphs, p.Spans offset) offset

/- What is read of the source, from one offset to the next. -/
def reading
    (source : Text)
    (root : Node) : Text :=
  (List.range (source.length + 1)).flatMap
    (readingAt source root)

end ProseCheck

------------------------------------------------------------
-- Weaving
------------------------------------------------------------

namespace ProseCheck

/-
  What begins at each offset, and behind it what happens up
  to the next one, for as many steps as there are.  At the
  last offset there is only what begins there.
-/
def weave
    (here between : Nat → Text)
    (offset : Nat) : Nat → Text
  | 0 => here offset
  | steps + 1 =>
      here offset ++ between offset ++
        weave here between (offset + 1) steps

/- What is woven depends on the offsets that it goes over. -/
theorem weave_congr
    {here here' between between' : Nat → Text}
    {offset steps : Nat}
    (hHere :
      ∀ o, offset ≤ o → o ≤ offset + steps →
        here o = here' o)
    (hBetween :
      ∀ o, offset ≤ o → o < offset + steps →
        between o = between' o) :
    weave here between offset steps =
      weave here' between' offset steps := by
  induction steps generalizing offset with
  | zero => exact hHere offset (Nat.le_refl _) (Nat.le_refl _)
  | succ steps ih =>
      have hRest :
          weave here between (offset + 1) steps =
            weave here' between' (offset + 1) steps := by
        apply ih
        · intro o hFrom hTo
          exact hHere o (by omega) (by omega)
        · intro o hFrom hTo
          exact hBetween o (by omega) (by omega)
      rw [weave, weave, hRest,
        hHere offset (Nat.le_refl _) (by omega),
        hBetween offset (Nat.le_refl _) (by omega)]

/-
  What is woven is cut at an offset.  What begins at this
  offset may belong to both parts.
-/
theorem weave_append
    {here between : Nat → Text}
    (first second : Nat → Text)
    {offset steps : Nat}
    (more : Nat)
    (hFirst :
      ∀ o, offset ≤ o → o < offset + steps →
        here o = first o)
    (hMiddle :
      here (offset + steps) =
        first (offset + steps) ++ second (offset + steps))
    (hSecond :
      ∀ o, offset + steps < o → o ≤ offset + steps + more →
        here o = second o) :
    weave here between offset (steps + more) =
      weave first between offset steps ++
        weave second between (offset + steps) more := by
  induction steps generalizing offset with
  | zero =>
      rw [Nat.add_zero] at hMiddle hSecond ⊢
      rw [Nat.zero_add]
      cases more with
      | zero => exact hMiddle
      | succ more =>
          have hRest :
              weave here between (offset + 1) more =
                weave second between (offset + 1) more := by
            apply weave_congr
            · intro o hFrom hTo
              exact hSecond o (by omega) (by omega)
            · intro o _ _
              rfl
          rw [weave, weave, weave, hMiddle, hRest]
          simp only [List.append_assoc]
  | succ steps ih =>
      have hNext : offset + 1 + steps = offset + (steps + 1) :=
        by omega
      have hRest :
          weave here between (offset + 1) (steps + more) =
            weave first between (offset + 1) steps ++
              weave second between (offset + 1 + steps)
                more := by
        apply ih
        · intro o hFrom hTo
          exact hFirst o (by omega) (by omega)
        · rw [hNext]
          exact hMiddle
        · intro o hFrom hTo
          exact hSecond o (by omega) (by omega)
      rw [Nat.add_right_comm, weave, weave, hRest, hNext,
        hFirst offset (Nat.le_refl _) (by omega)]
      simp only [List.append_assoc]

/-
  Where nothing happens behind the last offset, what is woven
  is what is found offset by offset.
-/
theorem weave_eq_flatMap
    {here between : Nat → Text}
    {offset steps : Nat}
    (hLast : between (offset + steps) = []) :
    weave here between offset steps =
      (List.range' offset (steps + 1)).flatMap
        (fun o => here o ++ between o) := by
  induction steps generalizing offset with
  | zero =>
      rw [Nat.add_zero] at hLast
      simp [weave, hLast]
  | succ steps ih =>
      have hNext : offset + 1 + steps = offset + (steps + 1) :=
        by omega
      rw [weave, List.range'_succ, List.flatMap_cons,
        ih (by rw [hNext]; exact hLast)]

end ProseCheck

------------------------------------------------------------
-- Stretches of the Source
------------------------------------------------------------

namespace ProseCheck

/-
  What should be read between two offsets, if these are the
  texts there.  The function says which of the offsets lie in
  a paragraph.
-/
def stretch
    (source : Text)
    (texts : List Node)
    (inProse : Nat → Bool)
    (start stop : Nat) : Text :=
  weave (textsAt texts)
    (fun o => breakReadAt source texts (inProse o) o)
    start (stop - start)

/- Texts of two lists begin at an offset one after the other. -/
theorem textsAt_append
    (ts us : List Node)
    (offset : Nat) :
    textsAt (ts ++ us) offset =
      textsAt ts offset ++ textsAt us offset := by
  simp [textsAt]

/- Nothing begins where no text does. -/
theorem textsAt_eq_nil
    {ts : List Node}
    {offset : Nat}
    (hNone : ∀ t ∈ ts, t.start ≠ (offset : Int)) :
    textsAt ts offset = [] := by
  have hEmpty :
      ts.filter (fun t => t.start = (offset : Int)) = [] := by
    rw [List.filter_eq_nil_iff]
    intro t hMem
    simpa using hNone t hMem
  rw [textsAt, hEmpty]
  rfl

/- A break is read alike where the same texts are around it. -/
theorem breakReadAt_congr
    (source : Text)
    {ts us : List Node}
    (inProse : Bool)
    {offset : Nat}
    (hSame :
      (∃ t ∈ ts, t.Spans offset) ↔ ∃ u ∈ us, u.Spans offset) :
    breakReadAt source ts inProse offset =
      breakReadAt source us inProse offset := by
  unfold breakReadAt
  simp only [hSame]

/- What is read depends on the offsets of the stretch alone. -/
theorem stretch_congr
    (source : Text)
    (ts : List Node)
    {first second : Nat → Bool}
    {start stop : Nat}
    (hSame : ∀ o, start ≤ o → o < stop → first o = second o) :
    stretch source ts first start stop =
      stretch source ts second start stop := by
  refine weave_congr (fun _ _ _ => rfl) ?_
  intro o hFrom hTo
  rw [hSame o hFrom (by omega)]

/- Without texts, what is read goes break by break. -/
theorem stretch_nil_step
    (source : Text)
    (inProse : Nat → Bool)
    {start stop : Nat}
    (hAhead : start < stop) :
    stretch source [] inProse start stop =
      breakReadAt source [] (inProse start) start ++
        stretch source [] inProse (start + 1) stop := by
  have hSteps : stop - start = stop - (start + 1) + 1 := by
    omega
  rw [stretch, hSteps, weave, stretch]
  rfl

/- Nothing is read where no text is and no source is left. -/
theorem stretch_nil_of_le
    (source : Text)
    (inProse : Nat → Bool)
    {start stop : Nat}
    (hEnd : stop ≤ start) :
    stretch source [] inProse start stop = [] := by
  rw [stretch, Nat.sub_eq_zero_of_le hEnd]
  rfl

/-
  What should be read is cut at an offset which the texts of
  the first part have ended at, and before which none of the
  second part begins.
-/
theorem stretch_append
    {source : Text}
    {ts us : List Node}
    {inProse first second : Nat → Bool}
    {start middle stop : Nat}
    (hStart : start ≤ middle)
    (hStop : middle ≤ stop)
    (hTexts :
      ∀ t ∈ ts, t.start ≤ middle ∧ t.stop ≤ middle)
    (hOthers : ∀ u ∈ us, (middle : Int) ≤ u.start)
    (hFirst :
      ∀ o, start ≤ o → o < middle → inProse o = first o)
    (hSecond :
      ∀ o, middle ≤ o → o < stop → inProse o = second o) :
    stretch source (ts ++ us) inProse start stop =
      stretch source ts first start middle ++
        stretch source us second middle stop := by
  have hSteps :
      stop - start = (middle - start) + (stop - middle) := by
    omega
  have hMiddle : start + (middle - start) = middle := by
    omega
  rw [stretch, hSteps,
    weave_append (textsAt ts) (textsAt us), hMiddle, stretch,
    stretch]
  · congr 1
    -- before the cut the texts of the second part are not met
    · refine weave_congr (fun _ _ _ => rfl) ?_
      intro o hFrom hTo
      rw [hFirst o hFrom (by omega)]
      apply breakReadAt_congr
      constructor
      · rintro ⟨t, hMem, hSpans⟩
        rcases List.mem_append.mp hMem with hHere | hLater
        · exact ⟨t, hHere, hSpans⟩
        · have hBegin := hOthers t hLater
          have hBegun := hSpans.1
          omega
      · rintro ⟨t, hMem, hSpans⟩
        exact ⟨t, List.mem_append_left us hMem, hSpans⟩
    -- behind it those of the first part have ended
    · refine weave_congr (fun _ _ _ => rfl) ?_
      intro o hFrom hTo
      rw [hSecond o hFrom (by omega)]
      apply breakReadAt_congr
      constructor
      · rintro ⟨t, hMem, hSpans⟩
        rcases List.mem_append.mp hMem with hBefore | hHere
        · have hEnd := (hTexts t hBefore).2
          have hOpen := hSpans.2
          omega
        · exact ⟨t, hHere, hSpans⟩
      · rintro ⟨t, hMem, hSpans⟩
        exact ⟨t, List.mem_append_right ts hMem, hSpans⟩
  · intro o hFrom hTo
    have hNone : textsAt us o = [] := by
      apply textsAt_eq_nil
      intro t hMem hSame
      have hBegin := hOthers t hMem
      omega
    rw [textsAt_append, hNone, List.append_nil]
  · exact textsAt_append ts us _
  · intro o hFrom hTo
    have hNone : textsAt ts o = [] := by
      apply textsAt_eq_nil
      intro t hMem hSame
      have hBegun := (hTexts t hMem).1
      omega
    rw [textsAt_append, hNone, List.nil_append]

/- Of the stretch of one text its content is read. -/
theorem stretch_singleton
    (source : Text)
    (inProse : Nat → Bool)
    {t : Node}
    {start stop : Nat}
    (hStart : t.start = start)
    (hStop : t.stop = stop) :
    stretch source [t] inProse start stop = t.content := by
  have hWeave :
      weave (textsAt [t])
          (fun o => breakReadAt source [t] (inProse o) o)
          start (stop - start) =
        weave (fun o => if o = start then t.content else [])
          (fun _ => []) start (stop - start) := by
    apply weave_congr
    · intro o _ _
      by_cases hHere : o = start
      · simp [textsAt, hStart, hHere]
      · rw [if_neg hHere, textsAt_eq_nil]
        intro u hMem
        rw [List.mem_singleton.mp hMem, hStart]
        omega
    · intro o hFrom hTo
      rw [breakReadAt, if_pos]
      refine ⟨t, List.mem_singleton_self t, ?_⟩
      rw [Node.Spans]
      omega
  rw [stretch, hWeave, weave_eq_flatMap rfl,
    List.range'_succ, List.flatMap_cons, if_pos rfl]
  have hRest :
      (List.range' (start + 1) (stop - start)).flatMap
        (fun o =>
          (if o = start then t.content else []) ++
            ([] : Text)) = [] := by
    rw [List.flatMap_eq_nil_iff]
    intro o hMem
    have hLater := (List.mem_range'_1.mp hMem).1
    rw [if_neg (by omega)]
    rfl
  rw [hRest]
  simp

/- All that should be read is the stretch of the whole source. -/
theorem reading_eq_stretch
    (source : Text)
    (root : Node) :
    reading source root =
      stretch source root.texts
        (fun o => ∃ p ∈ root.paragraphs, p.Spans o)
        0 source.length := by
  have hEnd : source.breakAt (0 + source.length) = [] := by
    simp [Text.breakAt]
  rw [stretch, Nat.sub_zero, weave_eq_flatMap, reading,
    List.range_eq_range']
  · rfl
  · rw [breakReadAt, hEnd]
    split <;> rfl

end ProseCheck
