import ProseCheck.Proofs.Text.Leftmost
import ProseCheck.Proofs.Tree.Line
import ProseCheck.Tree.Locate

/-
  This file says what the end of a link takes of the source.
  The offsets that are skipped depend on the characters that
  remain behind the text of the link, and on nothing else, so
  it is enough to say what is left of them.

  Behind a closing bracket and an opening parenthesis, these
  are the characters behind a destination and a title, and
  then those behind the next closing parenthesis.  If there
  is none, the parenthesis is not part of the link.

  Main declarations:
    * `Locator.behindParts`
    * `Locator.behindLink`
    * `Locator.remains_skipParts`
    * `Locator.remains_skipLinkTail`
    * `LinkTarget`
    * `Locator.behindParts_append`
-/

------------------------------------------------------------
-- Lengths of Parts
------------------------------------------------------------

namespace ProseCheck

/- What is counted on from a bounded number is bounded. -/
theorem le_of_map_add
    {counted : Option Nat}
    {more n bound : Nat}
    (hMap : counted.map (· + more) = some n)
    (hBound : ∀ {m}, counted = some m → m ≤ bound) :
    n ≤ bound + more := by
  rcases Option.map_eq_some_iff.mp hMap with ⟨m, hRest, rfl⟩
  exact Nat.add_le_add_right (hBound hRest) more

/- A closing angle bracket is one of the characters. -/
theorem angleLength_le
    {t : Text}
    {n : Nat}
    (hLength : angleLength t = some n) :
    n ≤ t.length := by
  fun_induction angleLength t generalizing n with
  | case1 => cases hLength
  | case2 c cs ih =>
      have hBound : n ≤ cs.length + 2 :=
        le_of_map_add hLength ih
      exact hBound
  | case3 cs =>
      cases hLength
      simp
  | case4 => cases hLength
  | case5 c cs _ _ _ ih => exact le_of_map_add hLength ih

/- A destination ends inside of the text. -/
theorem bareLength_le
    {level : Nat}
    {t : Text}
    {n : Nat}
    (hLength : bareLength level t = some n) :
    n ≤ t.length := by
  fun_induction bareLength level t generalizing n with
  | case1 =>
      cases hLength
      simp
  | case2 => cases hLength
  | case3 =>
      cases hLength
      simp
  | case4 => cases hLength
  | case5 level c cs _ ih =>
      have hBound : n ≤ cs.length + 2 :=
        le_of_map_add hLength ih
      exact hBound
  | case6 =>
      cases hLength
      simp
  | case7 => cases hLength
  | case8 => cases hLength
  | case9 level cs _ _ _ ih => exact le_of_map_add hLength ih
  | case10 =>
      cases hLength
      simp
  | case11 level cs _ _ _ _ ih => exact le_of_map_add hLength ih
  | case12 level c cs _ _ _ _ ih => exact le_of_map_add hLength ih

/- A closing mark of a title is one of the characters. -/
theorem titleLength_le
    {close : Char}
    {t : Text}
    {n : Nat}
    (hLength : titleLength close t = some n) :
    n ≤ t.length := by
  fun_induction titleLength close t generalizing n with
  | case1 => cases hLength
  | case2 c cs ih =>
      have hBound : n ≤ cs.length + 2 :=
        le_of_map_add hLength ih
      exact hBound
  | case3 cs =>
      cases hLength
      simp
  | case4 => cases hLength
  | case5 c cs _ _ _ ih => exact le_of_map_add hLength ih

/- A destination is no longer than the text it begins. -/
theorem linkDestination?_length_le
    {t : Text}
    {part : LinkPart}
    (hPart : linkDestination? t = some part) :
    part.length ≤ t.length := by
  unfold linkDestination? at hPart
  split at hPart
  · rename_i cs
    rcases Option.map_eq_some_iff.mp hPart with
      ⟨n, hLength, rfl⟩
    have hBound := angleLength_le hLength
    simpa using hBound
  · split at hPart
    · cases hPart
    · cases hPart
    · rename_i n _ hLength
      cases hPart
      exact bareLength_le hLength

/- A title is no longer than the text it begins. -/
theorem linkTitle?_length_le
    {t : Text}
    {part : LinkPart}
    (hPart : linkTitle? t = some part) :
    part.length ≤ t.length := by
  unfold linkTitle? at hPart
  split at hPart
  · cases hPart
  · split at hPart
    · cases hPart
    · rcases Option.map_eq_some_iff.mp hPart with
        ⟨n, hLength, rfl⟩
      have hBound := titleLength_le hLength
      simpa using hBound

end ProseCheck

------------------------------------------------------------
-- Skipped Characters
------------------------------------------------------------

namespace ProseCheck

/- What is left of a text behind the first of a character. -/
def Text.behindChar
    (c : Char)
    (t : Text) : Text :=
  (t.dropWhile (· != c)).tail

/- A text that holds a character is cut there. -/
theorem Text.eq_append_behindChar
    {c : Char}
    {t : Text}
    (hMem : c ∈ t) :
    t = t.takeWhile (· != c) ++ c :: behindChar c t := by
  induction t with
  | nil => cases hMem
  | cons d ds ih =>
      by_cases hHere : d = c
      · simp [behindChar, hHere]
      · have hLater : c ∈ ds :=
          (List.mem_cons.mp hMem).resolve_left
            (fun hSame => hHere hSame.symm)
        have hRest := ih hLater
        rw [behindChar] at hRest ⊢
        simp only [bne_iff_ne, ne_eq, hHere,
          not_false_eq_true, List.takeWhile_cons_of_pos,
          List.dropWhile_cons_of_pos, List.cons_append]
        rw [← hRest]

/- Behind a character there is no more than before. -/
theorem Text.length_behindChar_le
    (c : Char)
    (t : Text) :
    (behindChar c t).length ≤ t.length :=
  ((List.tail_sublist _).trans
    (List.dropWhile_sublist _)).length_le

namespace Locator

/- What is left of a text behind a title that it begins with. -/
def behindTitle
    (t : Text) : Text :=
  match linkTitle? t with
  | none => t
  | some part =>
      (t.drop part.length).dropWhile isLinkSpace

/-
  What is left of a text behind a destination and a title
  that it begins with, and the white space around them.
-/
def behindParts
    (t : Text) : Text :=
  let t := t.dropWhile isLinkSpace
  match linkDestination? t with
  | none => t
  | some part =>
      behindTitle
        ((t.drop part.length).dropWhile isLinkSpace)

/-
  What is left of the text behind a closing bracket when the
  end of the link is skipped.
-/
def behindLink : Text → Text
  | '(' :: t =>
      if ')' ∈ behindParts t then
        Text.behindChar ')' (behindParts t)
      else
        '(' :: t
  | '[' :: t =>
      if ']' ∈ t then Text.behindChar ']' t else '[' :: t
  | t => t

/- Behind a title there is no more than before. -/
theorem length_behindTitle_le
    (t : Text) :
    (behindTitle t).length ≤ t.length := by
  rw [behindTitle]
  split
  · exact Nat.le_refl _
  · exact ((List.dropWhile_sublist isLinkSpace).trans
      (List.drop_sublist _ t)).length_le

/- Behind a destination and a title neither. -/
theorem length_behindParts_le
    (t : Text) :
    (behindParts t).length ≤ t.length := by
  have hSpace :
      (t.dropWhile isLinkSpace).length ≤ t.length :=
    (List.dropWhile_sublist isLinkSpace).length_le
  rw [behindParts]
  split
  · exact hSpace
  · rename_i part _
    calc
      _ ≤ ((t.dropWhile isLinkSpace).drop
            part.length |>.dropWhile isLinkSpace).length :=
        length_behindTitle_le _
      _ ≤ (t.dropWhile isLinkSpace).length :=
        ((List.dropWhile_sublist isLinkSpace).trans
          (List.drop_sublist _ _)).length_le
      _ ≤ t.length := hSpace

/- Nor is there more behind the end of a link. -/
theorem length_behindLink_le
    (t : Text) :
    (behindLink t).length ≤ t.length := by
  rw [behindLink.eq_def]
  split
  · rename_i rest
    split
    · exact ((Text.length_behindChar_le _ _).trans
        (length_behindParts_le rest)).trans
          (Nat.le_succ _)
    · exact Nat.le_refl _
  · rename_i rest
    split
    · exact (Text.length_behindChar_le _ _).trans
        (Nat.le_succ _)
    · exact Nat.le_refl _
  · exact Nat.le_refl _

variable
  {source rest : Text}
  {position limit : Nat}

/- Behind a character that is found, the rest remains. -/
theorem remains_behindChar
    (hRemains : source.Remains rest position limit)
    {c : Char}
    (hMem : c ∈ rest) :
    ∃ found,
      source.findIn? [c] position limit = some found ∧
        source.Remains (Text.behindChar c rest) (found + 1)
          limit := by
  have hFound :
      source.findIn? [c] position limit =
        some (position + (rest.takeWhile (· != c)).length) := by
    rw [hRemains.findIn?_eq, Text.find?_char hMem,
      Option.map_some, Nat.add_comm]
  rw [Text.eq_append_behindChar hMem] at hRemains
  exact ⟨_, hFound, hRemains.behind.tail⟩

/- Behind a part of a known length, the rest remains. -/
theorem remains_drop
    (hRemains : source.Remains rest position limit)
    {length : Nat}
    (hLength : length ≤ rest.length) :
    source.Remains (rest.drop length) (position + length)
      limit := by
  have hTake : (rest.take length).length = length :=
    List.length_take_of_le hLength
  rw [← List.take_append_drop length rest] at hRemains
  have hBehind := hRemains.behind
  rw [hTake] at hBehind
  exact hBehind

/- White space is skipped up to the first other character. -/
theorem remains_skipSpace
    (hRemains : source.Remains rest position limit) :
    source.Remains (rest.dropWhile isLinkSpace)
      (skipSpace source limit position) limit := by
  rw [skipSpace, hRemains.slice_eq]
  rw [← List.takeWhile_append_dropWhile
    (p := isLinkSpace) (l := rest)] at hRemains
  exact hRemains.behind

/- A title is skipped with the white space behind it. -/
theorem remains_skipTitle
    (hRemains : source.Remains rest position limit) :
    source.Remains (behindTitle rest)
      (skipTitle source limit position) limit := by
  rw [skipTitle, behindTitle, hRemains.slice_eq]
  cases hPart : linkTitle? rest with
  | none => exact hRemains
  | some part =>
      exact remains_skipSpace
        (remains_drop hRemains (linkTitle?_length_le hPart))

/- A destination and a title are skipped where they stand. -/
theorem remains_skipParts
    (hRemains : source.Remains rest position limit) :
    source.Remains (behindParts rest)
      (skipParts source limit position) limit := by
  have hSpace := remains_skipSpace hRemains
  rw [skipParts, behindParts, hSpace.slice_eq]
  cases hPart :
      linkDestination? (rest.dropWhile isLinkSpace) with
  | none => exact hSpace
  | some part =>
      exact remains_skipTitle
        (remains_skipSpace
          (remains_drop hSpace
            (linkDestination?_length_le hPart)))

/-
  A destination in parentheses is skipped with them, if the
  parenthesis is closed somewhere.
-/
theorem remains_skipDestination
    (hRemains : source.Remains ('(' :: rest) position limit) :
    source.Remains (behindLink ('(' :: rest))
      (skipDestination source limit position (position + 1))
      limit := by
  have hParts := remains_skipParts hRemains.tail
  rw [skipDestination, behindLink]
  split
  · rename_i hMem
    rcases remains_behindChar hParts hMem with
      ⟨found, hFound, hRest⟩
    rw [hFound]
    exact hRest
  · rename_i hNone
    rw [hParts.findIn?_eq, Text.find?_char_of_not_mem hNone,
      Option.map_none]
    exact hRemains

/- A label is skipped with its brackets, if they are closed. -/
theorem remains_skipLabel
    (hRemains : source.Remains ('[' :: rest) position limit) :
    source.Remains (behindLink ('[' :: rest))
      (match source.findIn? [']'] position limit with
      | none => position
      | some labelEnd => labelEnd + 1)
      limit := by
  have hIff : ']' ∈ '[' :: rest ↔ ']' ∈ rest := by
    simp
  rw [behindLink]
  split
  · rename_i hMem
    rcases remains_behindChar hRemains (hIff.mpr hMem) with
      ⟨found, hFound, hRest⟩
    rw [hFound]
    exact hRest
  · rename_i hNone
    rw [hRemains.findIn?_eq,
      Text.find?_char_of_not_mem
        (fun hMem => hNone (hIff.mp hMem)),
      Option.map_none]
    exact hRemains

/-
  The end of a link is skipped where its text is followed by
  a closing bracket.
-/
theorem remains_skipLinkTail
    (hRemains : source.Remains (']' :: rest) position limit) :
    source.Remains (behindLink rest)
      (skipLinkTail source limit position false) limit := by
  have hBehind := hRemains.tail
  have hCloser :
      source.findIn? [']'] position limit = some position := by
    have hFront :
        source.Remains ([']'] ++ rest) position limit :=
      hRemains
    exact hFront.findIn?_append
  have hLength := hBehind.length_eq
  rw [skipLinkTail]
  simp only [Bool.false_eq_true, if_false, false_or, hCloser]
  -- the character behind the bracket decides what is skipped
  cases rest with
  | nil =>
      rw [List.length_nil] at hLength
      rw [if_pos (by omega)]
      exact hBehind
  | cons c rest =>
      rw [List.length_cons] at hLength
      rw [if_neg (by omega), hBehind.getElem?_eq]
      by_cases hParen : c = '('
      · subst hParen
        rw [if_pos rfl]
        exact remains_skipDestination hBehind
      rw [if_neg (fun hSame => hParen (Option.some.inj hSame))]
      by_cases hBracket : c = '['
      · subst hBracket
        rw [if_pos rfl]
        exact remains_skipLabel hBehind
      rw [if_neg (fun hSame =>
        hBracket (Option.some.inj hSame)), behindLink]
      · exact hBehind
      · exact fun t hSame => hParen (List.cons.inj hSame).1
      · exact fun t hSame => hBracket (List.cons.inj hSame).1

end Locator

end ProseCheck

------------------------------------------------------------
-- Targets of Links
------------------------------------------------------------

namespace ProseCheck

/- A character that controls a device and is not shown. -/
def IsControl
    (c : Char) : Prop :=
  c.toNat < 0x20 ∨ c.toNat = 0x7F

instance
    (c : Char) :
    Decidable (IsControl c) := by
  unfold IsControl
  infer_instance

/-
  An address as it is written in a link: without anything
  around it, or between angle brackets.
-/
inductive LinkAddress : Text → Prop where
  | bare
      {t : Text}
      (hSome : t ≠ [])
      (hHead : t.head? ≠ some '<')
      (hPlain :
        ∀ c ∈ t, c ≠ ' ' ∧ ¬ IsControl c ∧ c ≠ '(' ∧
          c ≠ ')' ∧ c ≠ '\\') : LinkAddress t
  | angled
      {t : Text}
      (hPlain : ∀ c ∈ t, c ≠ '<' ∧ c ≠ '>' ∧ c ≠ '\\') :
      LinkAddress ('<' :: (t ++ ['>']))

/- The marks around a title. -/
def titleMarks : List (Char × Char) :=
  [('"', '"'), ('\'', '\''), ('(', ')')]

/-
  What may stand in the parentheses of a link: nothing, an
  address, or an address, a space and a title.
-/
inductive LinkTarget : Text → Prop where
  | none : LinkTarget []
  | address
      {t : Text}
      (hAddress : LinkAddress t) : LinkTarget t
  | titled
      {t title : Text}
      {first last : Char}
      (hAddress : LinkAddress t)
      (hMarks : (first, last) ∈ titleMarks)
      (hPlain :
        ∀ c ∈ title, c ≠ '\\' ∧ c ≠ first ∧ c ≠ last) :
      LinkTarget (t ++ ' ' :: first :: (title ++ [last]))

/- An address in angle brackets is read up to the last one. -/
theorem angleLength_append
    {t : Text}
    (hPlain : ∀ c ∈ t, c ≠ '<' ∧ c ≠ '>' ∧ c ≠ '\\')
    (hLine : t.IsLine)
    (rest : Text) :
    angleLength (t ++ '>' :: rest) = some (t.length + 1) := by
  induction t with
  | nil =>
      rw [List.nil_append, angleLength]
      · rfl
      · simp
  | cons c cs ih =>
      rcases List.forall_mem_cons.mp hPlain with
        ⟨⟨hOpen, hClose, hSlash⟩, hOthers⟩
      rcases (Text.isLine_cons_iff c cs).mp hLine with
        ⟨hBreak, hRest⟩
      have hFeed : c ≠ '\n' := by
        rintro rfl
        simp [isBreakChar] at hBreak
      rw [List.cons_append, angleLength]
      · rw [if_neg hClose, if_neg (by simp [hFeed, hOpen]),
          ih hOthers hRest]
        rfl
      · exact fun _ _ hSame => absurd hSame hSlash

/- A bare address is read up to a space or a parenthesis. -/
theorem bareLength_append
    {t : Text}
    (hPlain :
      ∀ c ∈ t, c ≠ ' ' ∧ ¬ IsControl c ∧ c ≠ '(' ∧
        c ≠ ')' ∧ c ≠ '\\')
    {rest : Text}
    (hRest :
      rest.head? = some ' ' ∨ rest.head? = some ')') :
    bareLength 0 (t ++ rest) = some t.length := by
  induction t with
  | nil =>
      cases rest with
      | nil => simp at hRest
      | cons c cs =>
          have hEnd : c = ' ' ∨ c = ')' := by
            simpa using hRest
          rcases hEnd with rfl | rfl
          · rw [List.nil_append, bareLength]
            · rfl
            · simp
          · rw [List.nil_append, bareLength]
            · rfl
            · simp
  | cons c cs ih =>
      rcases List.forall_mem_cons.mp hPlain with
        ⟨⟨hSpace, hControl, hOpen, hClose, hSlash⟩,
          hOthers⟩
      have hGoesOn : endsDestination c = false := by
        rw [IsControl, not_or] at hControl
        simp [endsDestination, hSpace, hControl.1,
          hControl.2]
      rw [List.cons_append, bareLength]
      · rw [hGoesOn, if_neg Bool.false_ne_true, if_neg hOpen,
          if_neg hClose, ih hOthers]
        rfl
      · exact fun _ _ hSame => absurd hSame hSlash

/- A title is read up to the mark that closes it. -/
theorem titleLength_append
    {t : Text}
    {last : Char}
    (hMark : last ≠ '\\')
    (hPlain :
      ∀ c ∈ t, c ≠ '\\' ∧ c ≠ last ∧
        (last = ')' → c ≠ '('))
    (rest : Text) :
    titleLength last (t ++ last :: rest) =
      some (t.length + 1) := by
  induction t with
  | nil =>
      rw [List.nil_append, titleLength]
      · rw [if_pos rfl]
        rfl
      · exact fun _ _ hSame => absurd hSame hMark
  | cons c cs ih =>
      rcases List.forall_mem_cons.mp hPlain with
        ⟨⟨hSlash, hOther, hOpen⟩, hOthers⟩
      rw [List.cons_append, titleLength]
      · rw [if_neg hOther,
          if_neg (fun hBoth => hOpen hBoth.2 hBoth.1),
          ih hOthers]
        rfl
      · exact fun _ _ hSame => absurd hSame hSlash

namespace Locator

/- White space is left alone behind the first other character. -/
theorem dropWhile_isLinkSpace_cons
    {c : Char}
    (hOther : isLinkSpace c = false)
    (t : Text) :
    (c :: t).dropWhile isLinkSpace = c :: t := by
  simp [hOther]

/-
  An address begins with no white space, and is read as the
  destination in front of a space or a parenthesis.
-/
theorem exists_linkDestination?
    {t : Text}
    (hAddress : LinkAddress t)
    (hLine : t.IsLine)
    (rest : Text)
    (hRest :
      rest.head? = some ' ' ∨ rest.head? = some ')') :
    (t ++ rest).dropWhile isLinkSpace = t ++ rest ∧
      ∃ part, linkDestination? (t ++ rest) = some part ∧
        part.length = t.length := by
  cases hAddress with
  | bare hSome hHead hPlain =>
      cases t with
      | nil => exact absurd rfl hSome
      | cons c cs =>
          have hFirst := hPlain c List.mem_cons_self
          have hOther : isLinkSpace c = false := by
            have hShown := hFirst.2.1
            simp only [isLinkSpace, Bool.or_eq_false_iff,
              beq_eq_false_iff_ne]
            refine ⟨⟨⟨hFirst.1, ?_⟩, ?_⟩, ?_⟩ <;>
              rintro rfl <;> exact hShown (by decide)
          refine ⟨dropWhile_isLinkSpace_cons hOther _, ?_⟩
          have hLength := bareLength_append hPlain hRest
          rw [linkDestination?]
          · rw [hLength]
            exact ⟨_, rfl, rfl⟩
          · rintro _ hSame
            cases hSame
            exact hHead rfl
  | @angled inside hPlain =>
      have hInside : inside.IsLine :=
        fun c hMem => hLine c (by simp [hMem])
      have hLength := angleLength_append hPlain hInside rest
      refine ⟨dropWhile_isLinkSpace_cons rfl _, ?_⟩
      rw [List.cons_append, List.append_assoc]
      rw [linkDestination?, List.singleton_append, hLength]
      exact ⟨_, rfl, by simp⟩

/-
  The first mark of a title is no white space, and tells the
  last one.
-/
theorem titleMarks_spec :
    ∀ marks ∈ titleMarks,
      titleClose? marks.1 = some marks.2 ∧
        isLinkSpace marks.1 = false ∧ marks.2 ≠ '\\' ∧
        (marks.2 = ')' → marks.1 = '(') := by
  decide

/- A title in its marks is skipped with the space behind it. -/
theorem behindTitle_append
    {title : Text}
    {first last : Char}
    (hMarks : (first, last) ∈ titleMarks)
    (hPlain :
      ∀ c ∈ title, c ≠ '\\' ∧ c ≠ first ∧ c ≠ last)
    (rest : Text) :
    behindTitle (first :: (title ++ last :: rest)) =
      rest.dropWhile isLinkSpace := by
  rcases titleMarks_spec _ hMarks with
    ⟨hClose, _, hLast, hParen⟩
  have hLength :
      titleLength last (title ++ last :: rest) =
        some (title.length + 1) := by
    refine titleLength_append hLast ?_ rest
    intro c hMem
    rcases hPlain c hMem with ⟨hSlash, hFirst, hOther⟩
    exact ⟨hSlash, hOther, fun hSame => hParen hSame ▸ hFirst⟩
  have hCut :
      first :: (title ++ last :: rest) =
        (first :: (title ++ [last])) ++ rest := by
    simp
  have hWidth :
      title.length + 1 + 1 =
        (first :: (title ++ [last])).length := by
    simp
  rw [behindTitle, linkTitle?, hClose]
  dsimp only
  rw [hLength, Option.map_some]
  dsimp only
  rw [hCut, hWidth, List.drop_left]

/-
  A target is skipped as a whole in front of the parenthesis
  that closes it.
-/
theorem behindParts_append
    {target : Text}
    (hTarget : LinkTarget target)
    (hLine : target.IsLine)
    (rest : Text) :
    behindParts (target ++ ')' :: rest) = ')' :: rest := by
  cases hTarget with
  | none =>
      rw [behindParts, List.nil_append,
        dropWhile_isLinkSpace_cons rfl]
      rfl
  | address hAddress =>
      rcases exists_linkDestination? hAddress hLine
        (')' :: rest) (Or.inr rfl) with
        ⟨hSpace, part, hPart, hLength⟩
      rw [behindParts, hSpace, hPart]
      dsimp only
      rw [hLength, List.drop_left,
        dropWhile_isLinkSpace_cons rfl]
      rfl
  | @titled t title first last hAddress hMarks hPlain =>
      rcases (Text.isLine_append_iff _ _).mp hLine with
        ⟨hFront, _⟩
      rw [List.append_assoc]
      rcases exists_linkDestination? hAddress hFront
        (' ' :: first :: (title ++ [last]) ++ ')' :: rest)
        (Or.inl rfl) with
        ⟨hSpace, part, hPart, hLength⟩
      have hMark : isLinkSpace first = false :=
        (titleMarks_spec _ hMarks).2.1
      have hBehind :
          (' ' :: first :: (title ++ [last]) ++
              ')' :: rest).dropWhile isLinkSpace =
            first :: (title ++ last :: ')' :: rest) := by
        rw [List.cons_append, List.dropWhile_cons_of_pos rfl,
          List.cons_append, dropWhile_isLinkSpace_cons hMark]
        simp
      rw [behindParts, hSpace, hPart]
      dsimp only
      rw [hLength, List.drop_left, hBehind,
        behindTitle_append hMarks hPlain,
        dropWhile_isLinkSpace_cons rfl]

end Locator

end ProseCheck
