import Mathlib.Data.List.Infix
import ProseCheck.Proofs.Tree.Leaf
import ProseCheck.Proofs.Tree.Line

/-
  This file locates the text of a list item on the line of its
  marker: a number, a dot and a space.

  The line of the item begins with the marker, and so does the
  search for the text.  All that the text says is read, but it
  may be found too early: where it repeats the last characters
  of the marker, it is found there.

  Main declarations:
    * `Text.prefix_append_self_iff`
    * `RepeatsMarker`
    * `locate_listItem`
    * `annotate_listItem_iff`
-/

------------------------------------------------------------
-- Repetitions
------------------------------------------------------------

namespace ProseCheck

namespace Text

/-
  A text stands in front of itself, with something before it,
  exactly if it repeats this as often as it has room.
-/
theorem prefix_append_self_iff
    {front t : Text}
    (hSome : front ≠ []) :
    t <+: front ++ t ↔
      ∃ n, t <+: (List.replicate n front).flatten := by
  constructor
  · intro hSelf
    -- each step puts one more copy in front of the text
    have hCopies :
        ∀ n, t <+: (List.replicate n front).flatten ++ t := by
      intro n
      induction n with
      | zero => exact List.prefix_refl t
      | succ n ih =>
          rw [List.replicate_succ, List.flatten_cons,
            List.append_assoc]
          exact hSelf.trans
            ((List.prefix_append_right_inj front).mpr ih)
    refine ⟨t.length, List.prefix_of_prefix_length_le
      (hCopies t.length) (List.prefix_append _ t) ?_⟩
    rw [List.length_flatten, List.map_replicate,
      List.sum_replicate_nat]
    exact Nat.le_mul_of_pos_right t.length
      (List.length_pos_of_ne_nil hSome)
  · rintro ⟨n, hRepeats⟩
    induction n generalizing t with
    | zero =>
        obtain rfl : t = [] := List.prefix_nil.mp hRepeats
        exact List.nil_prefix
    | succ n ih =>
        rw [List.replicate_succ, List.flatten_cons] at hRepeats
        rcases Nat.le_total t.length front.length with
          hShort | hLong
        · exact (List.prefix_of_prefix_length_le hRepeats
            (List.prefix_append front _) hShort).trans
              (List.prefix_append front t)
        · rcases List.prefix_of_prefix_length_le
            (List.prefix_append front _) hRepeats hLong with
            ⟨rest, rfl⟩
          rw [List.prefix_append_right_inj] at hRepeats ⊢
          exact ih hRepeats

/-
  A text is found behind another one exactly if it does not
  stand in front of itself at any offset before.
-/
theorem find?_append_self_iff
    (front t : Text) :
    find? t (front ++ t) = some front.length ↔
      ∀ i < front.length, ¬ t <+: front.drop i ++ t := by
  rw [find?_eq_some_iff, StandsAt, List.drop_left]
  simp only [List.prefix_refl, true_and]
  refine forall₂_congr (fun i hBefore => ?_)
  rw [StandsAt, List.drop_append_of_le_length
    (Nat.le_of_lt hBefore)]

end Text

end ProseCheck

------------------------------------------------------------
-- Markers
------------------------------------------------------------

namespace ProseCheck

/- What stands between a number and the text of its item. -/
def markerEnd : Text :=
  ['.', ' ']

/-
  A text that repeats what a marker ends with: characters of
  the number, if any, the dot and the space, over and over.
-/
def RepeatsMarker
    (number t : Text) : Prop :=
  ∃ digits, digits <:+ number ∧
    ∃ n, t <+:
      (List.replicate n (digits ++ markerEnd)).flatten

variable {number t : Text}

/- The end of a marker has characters. -/
theorem append_markerEnd_ne_nil
    (digits : Text) :
    digits ++ markerEnd ≠ [] := by
  simp [markerEnd]

/- A repetition begins with its first copy and goes on. -/
theorem repeatsMarker_iff :
    RepeatsMarker number t ↔
      ∃ digits ∈ number.tails,
        t <+: digits ++ markerEnd ++ t := by
  simp only [RepeatsMarker, List.mem_tails,
    Text.prefix_append_self_iff (append_markerEnd_ne_nil _)]

instance
    (number t : Text) :
    Decidable (RepeatsMarker number t) :=
  decidable_of_iff _ repeatsMarker_iff.symm

/-
  A text that does not begin with a space is found behind a
  marker exactly if it does not repeat the marker.
-/
theorem find?_marker_iff
    (hSome : t ≠ [])
    (hHead : t.head? ≠ some ' ') :
    Text.find? t (number ++ markerEnd ++ t) =
        some (number.length + 2) ↔
      ¬ RepeatsMarker number t := by
  have hLength :
      (number ++ markerEnd).length = number.length + 2 :=
    List.length_append
  rw [← hLength, Text.find?_append_self_iff,
    repeatsMarker_iff]
  constructor
  · rintro hFirst ⟨digits, hMem, hHere⟩
    rcases (List.mem_tails _ _).mp hMem with ⟨front, rfl⟩
    apply hFirst front.length
    · simp [markerEnd]
    · rw [List.append_assoc, List.drop_left]
      exact hHere
  · intro hNone i hBefore hHere
    rcases Nat.lt_or_ge number.length i with hLater | hNumber
    -- behind the dot the text would begin with the space
    · obtain rfl : i = number.length + 1 := by omega
      rw [← List.drop_drop, List.drop_left] at hHere
      cases t with
      | nil => exact hSome rfl
      | cons c cs =>
          rw [markerEnd, List.drop_one, List.tail_cons,
            List.singleton_append, List.cons_prefix_cons]
            at hHere
          exact hHead (congrArg some hHere.1)
    · refine hNone ⟨number.drop i,
        (List.mem_tails _ _).mpr (List.drop_suffix i number),
        ?_⟩
      rwa [List.drop_append_of_le_length hNumber] at hHere

end ProseCheck

------------------------------------------------------------
-- List Items
------------------------------------------------------------

namespace ProseCheck

/- The tokens of a list with one item, on the first line. -/
def Token.listItem
    (content : Text) : List Token :=
  block "ordered_list" (block "list_item"
    (paragraph [text content]))

/- The tree of a line that is such a list. -/
def Node.listItem
    (source content : Text)
    (start : Nat) : Node :=
  ⟨.document, 0, source.length, [],
    [⟨.list, 0, source.length, [],
      [⟨.listItem, 0, source.length, [],
        [⟨.paragraph, 0, source.length, [],
          [literal content start]⟩]⟩]⟩]⟩

/- In this tree the text is read. -/
theorem Node.literal_textOf_listItem
    (source content : Text)
    (start : Nat) :
    (literal content start).TextOf
      (listItem source content start) := by
  unfold listItem
  refine .inside (by simp) List.mem_cons_self ?_
  refine .inside (by simp) List.mem_cons_self ?_
  refine .inside (by simp) List.mem_cons_self ?_
  exact .inside (by simp) List.mem_cons_self (.root rfl)

variable {source content : Text}

/- The text of an item is located where it is found first. -/
theorem locate_listItem
    (hLine : source.IsLine)
    (hSome : content ≠ [])
    {i : Nat}
    (hFound : Text.find? content source = some i) :
    locate source (Token.listItem content) =
      Node.listItem source content i := by
  have hHere :
      source.findIn? content 0 source.length = some i := by
    rw [Text.findIn?, Text.slice, List.take_length,
      List.drop_zero, hFound]
    rfl
  have hBounds := Text.findIn?_bounds hSome hHere
  have hText :
      ∀ outer,
        Locator.consume source [Token.text content]
            ⟨0, source.length, .whole source .paragraph [],
              outer⟩ =
          ⟨i + content.length, source.length,
            .whole source .paragraph
              [Node.literal content i], outer⟩ := by
    intro outer
    rw [Locator.consume, Locator.consume,
      Locator.step_text_of_find hSome hHere]
    rfl
  exact locate_line
    (Locator.consume_block hLine (by decide) (by decide)
      (Locator.consume_block hLine (by decide) (by decide)
        (Locator.consume_paragraph hLine (hText _) hBounds.2.2)
        (Nat.le_refl _))
      (Nat.le_refl _))

end ProseCheck

------------------------------------------------------------
-- Reading a List Item
------------------------------------------------------------

namespace ProseCheck

/-
  A text of a tree that is all the plain text stands for the
  source from where it begins.
-/
theorem originalOffset_zero_of_text
    {source : Text}
    {root t : Node}
    {a : AnnotatedText}
    (hOk : annotate source root = .ok a)
    (hText : t.TextOf root)
    (hOrder : t.start < t.stop)
    (hSome : t.content ≠ [])
    (hPlain : a.plainText = t.content) :
    a.originalOffset 0 = .ok t.start := by
  rcases annotate_keeps_texts hOk with ⟨hCovers, hParts⟩
  rcases hParts t hText hOrder with ⟨s, hMem, hPart⟩
  rcases AnnotatedText.maps_part hCovers hMem hPart rfl hOrder
    with ⟨p, _, hSlice, hOffsets⟩
  -- no offset but the first has all of the text behind it
  obtain rfl : p = 0 := by
    have hLength := congrArg List.length hSlice
    have hPositive := List.length_pos_of_ne_nil hSome
    rw [Text.length_slice, hPlain] at hLength
    dsimp only [Node.segment] at hLength
    omega
  exact (hOffsets hSome).1

variable {number content : Text}

/-
  Of a list item all of the text is read.  It is taken from
  behind the marker exactly if it does not repeat the marker.
-/
theorem annotate_listItem_iff
    (hSome : content ≠ [])
    (hHead : content.head? ≠ some ' ')
    {source : Text}
    (hSource : source = number ++ markerEnd ++ content)
    (hLine : source.IsLine) :
    ∃ a,
      annotate source
          (locate source (Token.listItem content)) = .ok a ∧
        a.plainText = content ∧
        (a.originalOffset 0 =
            .ok (number.length + 2 : Nat) ↔
          ¬ RepeatsMarker number content) := by
  have hStands :
      source.StandsAt content (number ++ markerEnd).length := by
    rw [hSource, Text.StandsAt, List.drop_left]
  rcases Text.exists_find? hStands with ⟨i, hFound⟩
  have hRoot := locate_listItem hLine hSome hFound
  have hFlat :
      ¬ (Node.listItem source content i).NestsParagraphs := by
    rw [Node.nestsParagraphs_iff_paragraphs]
    rintro ⟨p, hMem, hInside⟩
    obtain rfl := List.mem_singleton.mp hMem
    exact hInside rfl
  have hBetween := between_locate source (Token.listItem content)
  rw [hRoot] at hBetween ⊢
  rcases annotate_line hLine hBetween hFlat with
    ⟨a, hOk, hPlain⟩
  have hContent : a.plainText = content := by
    rw [hPlain]
    exact List.append_nil content
  have hOffset : a.originalOffset 0 = .ok (i : Int) := by
    apply originalOffset_zero_of_text
      (t := .literal content i) hOk _ _ hSome hContent
    · exact Node.literal_textOf_listItem source content i
    · have hPositive := List.length_pos_of_ne_nil hSome
      simp only [Node.literal]
      omega
  refine ⟨a, hOk, hContent, ?_⟩
  rw [hOffset, ← find?_marker_iff hSome hHead, ← hSource,
    hFound, Except.ok.injEq, Int.natCast_inj,
    Option.some_inj]

/-
  A text that begins with the last digit of the number, but
  does not go on as the marker does, is taken from behind it.
-/
theorem annotate_listItem_iff_digit :
    let content : Text := ['2', 'x']
    let source : Text := ['1', '2'] ++ markerEnd ++ content
    ∃ a,
      annotate source
          (locate source (Token.listItem content)) = .ok a ∧
        a.plainText = content ∧
        a.originalOffset 0 = .ok 4 := by
  rcases @annotate_listItem_iff ['1', '2'] ['2', 'x']
      (by decide) (by decide +kernel) _ rfl
      (by decide +kernel) with
    ⟨a, hOk, hPlain, hIff⟩
  exact ⟨a, hOk, hPlain, hIff.mpr (by decide +kernel)⟩

/-
  A text that is the number itself is taken from the marker,
  which is taken for the text.
-/
theorem annotate_listItem_number :
    let number : Text := ['1']
    let content : Text := ['1']
    let source : Text := number ++ markerEnd ++ content
    let a : AnnotatedText :=
      ⟨[⟨.text, 0, 1, content⟩,
        ⟨.markup, 1, 4, markerEnd ++ content⟩], 4⟩
    annotate source
        (locate source (Token.listItem content)) = .ok a ∧
      a.plainText = content ∧
      a.originalOffset 0 = .ok 0 := by
  intro number content source a
  have hOk :
      annotate source
        (locate source (Token.listItem content)) = .ok a := by
    decide +kernel
  exact ⟨hOk, by decide, by decide⟩

end ProseCheck
