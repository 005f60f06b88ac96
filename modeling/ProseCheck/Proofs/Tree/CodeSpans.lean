import Mathlib.Data.List.Basic
import ProseCheck.Proofs.Tree.Leaf
import ProseCheck.Proofs.Tree.Line

/-
  This file locates code inside of a line, behind a text or an
  escaped character.

  Both the first and the last run of marks is searched for as
  one that stands alone, with no mark before it and none
  behind it.  The character before the first run may belong to
  an escape that is located already.  If it is a mark, the
  run is passed over, and the code is located elsewhere or
  not at all.

  Main declarations:
    * `marks`
    * `Text.HasRun`
    * `Locator.findRun?_append`
    * `Locator.findRun?_behind`
    * `Locator.step_code_of_before`
    * `Locator.step_code_ne`
    * `Locator.step_code_iff`
-/

------------------------------------------------------------
-- Runs of Marks
------------------------------------------------------------

namespace ProseCheck

/- A run of code marks. -/
def marks
    (n : Nat) : Text :=
  List.replicate n Locator.codeMark

/-
  A run between a character, if any, and what follows is not
  part of a longer run.
-/
def StandsAlone
    (before : Option Char)
    (rest : Text) : Prop :=
  before ≠ some Locator.codeMark ∧
    rest.head? ≠ some Locator.codeMark

/- A text holds a run of exactly this length. -/
def Text.HasRun
    (n : Nat)
    (t : Text) : Prop :=
  ∃ front rest,
    t = front ++ (marks n ++ rest) ∧
      StandsAlone front.getLast? rest

instance
    (before : Option Char)
    (rest : Text) :
    Decidable (StandsAlone before rest) := by
  unfold StandsAlone
  infer_instance

/- Such a run begins at an offset of the text. -/
theorem Text.hasRun_iff
    {n : Nat}
    {t : Text} :
    t.HasRun n ↔
      ∃ i ∈ List.range (t.length + 1),
        marks n <+: t.drop i ∧
          StandsAlone (t.take i).getLast?
            ((t.drop i).drop n) := by
  constructor
  · rintro ⟨front, rest, rfl, hAlone⟩
    refine ⟨front.length, ?_, ?_⟩
    · rw [List.mem_range, List.length_append]
      omega
    · rw [List.drop_left, List.take_left]
      refine ⟨List.prefix_append _ _, ?_⟩
      rwa [marks, List.drop_left' List.length_replicate]
  · rintro ⟨i, _, ⟨rest, hRest⟩, hAlone⟩
    refine ⟨t.take i, rest, ?_, ?_⟩
    · rw [hRest, List.take_append_drop]
    · rwa [← hRest, marks,
        List.drop_left' List.length_replicate] at hAlone

instance
    (n : Nat)
    (t : Text) :
    Decidable (t.HasRun n) :=
  decidable_of_iff _ Text.hasRun_iff.symm

/- What begins a run is made of marks. -/
theorem marks_of_prefix
    {t : Text}
    {n : Nat}
    (hPrefix : t <+: marks n) :
    ∀ c ∈ t, c = Locator.codeMark :=
  fun _ hMem =>
    List.eq_of_mem_replicate (hPrefix.subset hMem)

/- A text that does not end with a mark does not begin a run. -/
theorem not_prefix_marks
    {t : Text}
    {n : Nat}
    (hSome : t ≠ [])
    (hLast : t.getLast? ≠ some Locator.codeMark) :
    ¬ t <+: marks n := by
  intro hPrefix
  apply hLast
  rw [List.getLast?_eq_some_getLast hSome,
    marks_of_prefix hPrefix _ (List.getLast_mem hSome)]

/-
  Let a text not end with a mark, and hold no run of a length.
  Then a run that stands alone begins nowhere in it.
-/
theorem not_standsAlone_of_cut
    {n : Nat}
    {t first last more rest : Text}
    (hLast : t.getLast? ≠ some Locator.codeMark)
    (hNone : ¬ t.HasRun n)
    (hCut : t = first ++ last)
    (hSome : last ≠ [])
    (hRun : last ++ more = marks n ++ rest) :
    ¬ StandsAlone first.getLast? rest := by
  rintro ⟨hBefore, hBehind⟩
  have hEnd : last.getLast? ≠ some Locator.codeMark := by
    rwa [hCut, List.getLast?_append_of_ne_nil _ hSome]
      at hLast
  rcases List.append_eq_append_iff.mp hRun with
    ⟨inside, hMarks, _⟩ | ⟨inside, rfl, rfl⟩
  -- the text would end within the run
  · exact not_prefix_marks hSome hEnd ⟨inside, hMarks.symm⟩
  -- the run ends within the text
  · refine hNone ⟨first, inside, hCut, hBefore, ?_⟩
    cases inside with
    | nil =>
        rw [List.append_nil] at hSome hEnd
        exact absurd List.prefix_rfl
          (not_prefix_marks hSome hEnd)
    | cons c cs => exact hBehind

end ProseCheck

------------------------------------------------------------
-- Search for Runs
------------------------------------------------------------

namespace ProseCheck

/- The character before an offset, if there is one. -/
def Text.before?
    (t : Text)
    (offset : Nat) : Option Char :=
  if offset = 0 then none else t[offset - 1]?

namespace Locator

variable
  {n : Nat}
  {before : Option Char}
  {t rest : Text}

/- A run that comes next and stands alone is found at once. -/
theorem runFrom_append
    (hCount : 0 < n)
    (hAlone : StandsAlone before rest)
    (offset : Nat) :
    runFrom (marks n) offset before (marks n ++ rest) =
      some offset := by
  obtain ⟨k, rfl⟩ : ∃ k, n = k + 1 :=
    ⟨n - 1, (Nat.sub_add_cancel hCount).symm⟩
  have hRun :
      (marks (k + 1)).isPrefixOf (marks (k + 1) ++ rest) =
        true :=
    List.isPrefixOf_iff_prefix.mpr (List.prefix_append _ _)
  have hCons :
      marks (k + 1) ++ rest = codeMark :: (marks k ++ rest) :=
    rfl
  have hHead :
      ((marks (k + 1) ++ rest).drop
        (marks (k + 1)).length).head? ≠ some codeMark := by
    rw [List.drop_left]
    exact hAlone.2
  rw [hCons] at hRun hHead ⊢
  rw [runFrom, if_pos ⟨hAlone.1, hRun, hHead⟩]

/- The last of some characters, or else the one before them. -/
theorem getLast?_cons_or
    (c : Char)
    (cs : Text)
    (before : Option Char) :
    (c :: cs).getLast?.or before =
      cs.getLast?.or (some c) := by
  rw [List.getLast?_cons, Option.some_or, Option.or_some]

/- A run that is found stands alone. -/
theorem standsAlone_of_runFrom
    {run : Text}
    {offset i : Nat}
    (hFound : runFrom run offset before t = some i) :
    ∃ front rest,
      t = front ++ (run ++ rest) ∧
        i = offset + front.length ∧
          StandsAlone (front.getLast?.or before) rest := by
  induction t generalizing offset before with
  | nil =>
      rw [runFrom] at hFound
      cases hFound
  | cons c cs ih =>
      rw [runFrom] at hFound
      split at hFound
      · rename_i hHere
        rcases hHere with ⟨hBefore, hRun, hBehind⟩
        rcases List.isPrefixOf_iff_prefix.mp hRun with
          ⟨rest, hRest⟩
        rw [← hRest, List.drop_left] at hBehind
        cases hFound
        exact ⟨[], rest, hRest.symm, rfl, hBefore, hBehind⟩
      · rcases ih hFound with
          ⟨front, rest, rfl, rfl, hAlone⟩
        refine ⟨c :: front, rest, rfl, ?_, ?_⟩
        · rw [List.length_cons]
          omega
        · rwa [getLast?_cons_or]

/-
  The search goes on behind a text in which no run begins
  that stands alone.
-/
theorem runFrom_behind
    {run : Text}
    (hNone :
      ∀ first last more, t = first ++ last → last ≠ [] →
        last ++ rest = run ++ more →
          ¬ StandsAlone (first.getLast?.or before) more)
    (offset : Nat) :
    runFrom run offset before (t ++ rest) =
      runFrom run (offset + t.length) (t.getLast?.or before)
        rest := by
  induction t generalizing offset before with
  | nil => rfl
  | cons c cs ih =>
      have hHere :
          ¬ (before ≠ some codeMark ∧
            run.isPrefixOf (c :: (cs ++ rest)) = true ∧
            ((c :: (cs ++ rest)).drop run.length).head? ≠
              some codeMark) := by
        rintro ⟨hBefore, hRun, hBehind⟩
        rcases List.isPrefixOf_iff_prefix.mp hRun with
          ⟨more, hMore⟩
        rw [← hMore, List.drop_left] at hBehind
        exact hNone [] (c :: cs) more rfl
          (List.cons_ne_nil c cs) hMore.symm
            ⟨hBefore, hBehind⟩
      rw [List.cons_append, runFrom, if_neg hHere, ih]
      · congr 1
        · rw [List.length_cons]
          omega
        · exact (getLast?_cons_or c cs before).symm
      · intro first last more hCut hSome hRun hAlone
        apply hNone (c :: first) last more
          (by rw [hCut, List.cons_append]) hSome hRun
        rwa [getLast?_cons_or]

end Locator

end ProseCheck

------------------------------------------------------------
-- Code
------------------------------------------------------------

namespace ProseCheck

/-
  What may stand as code between two runs of marks of some
  length: no such run, and no mark at its ends.
-/
structure Text.IsCode
    (n : Nat)
    (t : Text) : Prop where
  head : t.head? ≠ some Locator.codeMark
  last : t.getLast? ≠ some Locator.codeMark
  none : ¬ t.HasRun n

instance
    (n : Nat)
    (t : Text) :
    Decidable (t.IsCode n) :=
  decidable_of_iff
    (t.head? ≠ some Locator.codeMark ∧
      t.getLast? ≠ some Locator.codeMark ∧ ¬ t.HasRun n)
    ⟨fun h => ⟨h.1, h.2.1, h.2.2⟩,
      fun h => ⟨h.head, h.last, h.none⟩⟩

/- The token of code between marks, with what it shows. -/
def Token.code
    (n : Nat)
    (shown : Text) : Token :=
  { name := "code_inline", content := shown,
    markup := marks n }

namespace Locator

variable
  {source content rest : Text}
  {position limit n : Nat}

/- A search for a run goes through what remains. -/
theorem findRun?_eq
    (hRemains : source.Remains rest position limit)
    (run : Text) :
    findRun? source run position limit =
      runFrom run position (source.before? position) rest := by
  rw [findRun?, hRemains.slice_eq]
  rfl

/- A run that comes next is found if it stands alone. -/
theorem findRun?_append
    (hRemains :
      source.Remains (marks n ++ rest) position limit)
    (hCount : 0 < n)
    (hAlone : StandsAlone (source.before? position) rest) :
    findRun? source (marks n) position limit =
      some position := by
  rw [findRun?_eq hRemains, runFrom_append hCount hAlone]

/- A run behind code is found where the code ends. -/
theorem findRun?_behind
    (hRemains :
      source.Remains (content ++ (marks n ++ rest)) position
        limit)
    (hCount : 0 < n)
    (hSome : content ≠ [])
    (hCode : content.IsCode n)
    (hRest : rest.head? ≠ some codeMark) :
    findRun? source (marks n) position limit =
      some (position + content.length) := by
  have hLast : content.getLast? = some
      (content.getLast hSome) :=
    List.getLast?_eq_some_getLast hSome
  rw [findRun?_eq hRemains, runFrom_behind]
  · apply runFrom_append hCount
    rw [hLast, Option.some_or, ← hLast]
    exact ⟨hCode.last, hRest⟩
  · intro first last more hCut hLater hRun hAlone
    apply not_standsAlone_of_cut hCode.last hCode.none hCut
      hLater hRun
    refine ⟨fun hMark => hAlone.1 ?_, hAlone.2⟩
    rw [hMark, Option.some_or]

variable {l : Locator}

/- Code is located between two runs of as many marks. -/
theorem step_code
    (source : Text)
    (hCount : 0 < n)
    (shown : Text)
    (l : Locator) :
    step source (Token.code n shown) l =
      match findRun? source (marks n) l.cursor l.limit with
      | none => l
      | some first =>
          match findRun? source (marks n) (first + n)
            l.limit with
          | none => l
          | some last =>
              { l with
                cursor := last + n,
                top := l.top.add
                  ⟨.code, first, (last + n : Nat), [], []⟩ } := by
  have hWidth : (marks n).length = n :=
    List.length_replicate
  have hSome : marks n ≠ [] := by
    rw [← List.length_pos_iff, hWidth]
    exact hCount
  have hRun :
      (if (Token.code n shown).markup.isEmpty then [codeMark]
        else (Token.code n shown).markup) = marks n :=
    if_neg (fun hEmpty => hSome (List.isEmpty_iff.mp hEmpty))
  rw [step_of_code source l rfl rfl, codeSpan]
  dsimp only
  rw [hRun, hWidth]
  rfl

/-
  Code between marks becomes a node where it stands, if no
  mark stands before it.
-/
theorem step_code_of_before
    (hCount : 0 < n)
    (hSome : content ≠ [])
    (hCode : content.IsCode n)
    (hRest : rest.head? ≠ some codeMark)
    (hRemains :
      source.Remains
        (marks n ++ (content ++ (marks n ++ rest))) l.cursor
        l.limit)
    (hBefore : source.before? l.cursor ≠ some codeMark)
    (shown : Text) :
    step source (Token.code n shown) l =
      { l with
        cursor := l.cursor + 2 * n + content.length,
        top := l.top.add
          ⟨.code, l.cursor,
            (l.cursor + 2 * n + content.length : Nat), [],
            []⟩ } := by
  have hFirst :
      findRun? source (marks n) l.cursor l.limit =
        some l.cursor := by
    apply findRun?_append hRemains hCount
    refine ⟨hBefore, ?_⟩
    rw [List.head?_append_of_ne_nil _ hSome]
    exact hCode.head
  have hInside := hRemains.behind
  rw [marks, List.length_replicate] at hInside
  have hSecond :=
    findRun?_behind hInside hCount hSome hCode hRest
  have hStop :
      l.cursor + n + content.length + n =
        l.cursor + 2 * n + content.length := by
    omega
  rw [step_code source hCount, hFirst]
  dsimp only
  rw [hSecond]
  dsimp only
  rw [hStop]

/-
  Code is not located where it is met with a mark before it:
  the run that is found there is not the one that is meant.
-/
theorem step_code_ne
    (hRemains : source.Remains rest l.cursor l.limit)
    (hBefore : source.before? l.cursor = some codeMark)
    (hCount : 0 < n)
    (shown : Text)
    (stop : Int) :
    (step source (Token.code n shown) l).top ≠
      l.top.add ⟨.code, l.cursor, stop, [], []⟩ := by
  rw [step_code source hCount]
  cases hFirst :
      findRun? source (marks n) l.cursor l.limit with
  | none => exact (l.top.add_ne _).symm
  | some i =>
      dsimp only
      cases findRun? source (marks n) (i + n) l.limit with
      | none => exact (l.top.add_ne _).symm
      | some last =>
          intro hSame
          have hStart : i = l.cursor :=
            Int.ofNat_inj.mp
              (congrArg Node.start (Frame.add_inj hSame))
          rw [findRun?_eq hRemains] at hFirst
          rcases standsAlone_of_runFrom hFirst with
            ⟨front, _, _, hPlace, hAlone⟩
          -- nothing lies between the cursor and the run
          obtain rfl : front = [] := by
            apply List.eq_nil_of_length_eq_zero
            omega
          exact hAlone.1 hBefore

end Locator

end ProseCheck

------------------------------------------------------------
-- Code behind a Leaf
------------------------------------------------------------

namespace ProseCheck

namespace Token

/- A text or an escaped character. -/
def IsProse
    (t : Token) : Prop :=
  t.nesting = 0 ∧ (t.name = "text" ∨ t.IsEscape)

/- An escaped code mark. -/
def EscapesMark
    (t : Token) : Prop :=
  t.IsEscape ∧ t.markup = ['\\', Locator.codeMark]

instance
    (t : Token) :
    Decidable t.IsProse := by
  unfold IsProse
  infer_instance

instance
    (t : Token) :
    Decidable t.EscapesMark := by
  unfold EscapesMark
  infer_instance

end Token

namespace Locator

variable
  {source : Text}
  {t : Token}
  {m : Locator}
  {node : Node}
  {position : Nat}

/- An escaped character is searched for as its markup. -/
theorem step_of_escape
    (source : Text)
    (hNesting : t.nesting = 0)
    (hEscape : t.IsEscape)
    (l : Locator) :
    step source t l =
      l.written source .text t.markup t.content 1 := by
  rw [step_of_special source l hNesting hEscape.1, special,
    if_pos hEscape.2]

/- The search goes on behind a leaf that is located. -/
theorem step_of_prose
    (hProse : t.IsProse)
    (hTop : (step source t m).top = m.top.add node)
    (hStop : node.stop = position) :
    step source t m =
      { m with cursor := position, top := m.top.add node } := by
  rcases hProse with ⟨hNesting, hText | hEscape⟩
  · rw [step_of_text source m hNesting hText] at hTop ⊢
    rcases written_of_top hTop with ⟨i, _, rfl, hStep⟩
    rw [hStep, Int.ofNat_inj.mp hStop]
  · rw [step_of_escape source hNesting hEscape] at hTop ⊢
    rcases written_of_top hTop with ⟨i, _, rfl, hStep⟩
    rw [hStep, Int.ofNat_inj.mp hStop]

/- A mark stands before the end of an escaped one. -/
theorem before?_of_escapesMark
    (hProse : t.IsProse)
    (hMark : t.EscapesMark)
    (hTop : (step source t m).top = m.top.add node)
    (hStop : node.stop = position) :
    source.before? position = some codeMark := by
  rw [step_of_escape source hProse.1 hMark.1] at hTop
  rcases written_of_top hTop with ⟨i, hStands, rfl, _⟩
  rw [hMark.2] at hStands hStop
  obtain rfl : i + 2 = position := Int.ofNat_inj.mp hStop
  exact hStands.getElem? (k := 1) Nat.one_lt_two

variable
  {content after rest : Text}
  {n : Nat}

/-
  Let a text or an escaped character be located, and let code
  between marks and a text follow.  If a mark stands before
  the code, it is an escaped one.

  Then the code and the text behind it are located where they
  stand, exactly if what is before them is no escaped mark.
-/
theorem step_code_iff
    (hProse : t.IsProse)
    (hTop : (step source t m).top = m.top.add node)
    (hStop : node.stop = position)
    (hBefore :
      source.before? position = some codeMark →
        t.EscapesMark)
    (hCount : 0 < n)
    (hSome : content ≠ [])
    (hCode : content.IsCode n)
    (hAfter : after ≠ [])
    (hHead : after.head? ≠ some codeMark)
    (hRemains :
      source.Remains
        (marks n ++ (content ++ (marks n ++ (after ++ rest))))
        position m.limit)
    (shown : Text) :
    let l := step source t m
    let inside := step source (Token.code n shown) l
    let stop := position + 2 * n + content.length
    (inside.top =
          l.top.add ⟨.code, position, stop, [], []⟩ ∧
        (step source (Token.text after) inside).top =
          inside.top.add (Node.literal after stop)) ↔
      ¬ t.EscapesMark := by
  intro l inside stop
  have hHere : l =
      { m with cursor := position, top := m.top.add node } :=
    step_of_prose hProse hTop hStop
  have hCursor : l.cursor = position := by
    rw [hHere]
  have hLimit : l.limit = m.limit := by
    rw [hHere]
  rw [← hCursor, ← hLimit] at hRemains
  constructor
  · rintro ⟨hLocated, _⟩ hMark
    have hMarked : source.before? l.cursor = some codeMark := by
      rw [hCursor]
      exact before?_of_escapesMark hProse hMark hTop hStop
    refine step_code_ne hRemains hMarked hCount shown stop ?_
    rw [hCursor]
    exact hLocated
  · intro hNoMark
    have hClear : source.before? l.cursor ≠ some codeMark := by
      rw [hCursor]
      exact fun hMarked => hNoMark (hBefore hMarked)
    have hRest : (after ++ rest).head? ≠ some codeMark := by
      rwa [List.head?_append_of_ne_nil _ hAfter]
    have hInside : inside =
        { l with
          cursor := stop,
          top := l.top.add
            ⟨.code, position, stop, [], []⟩ } := by
      have hStep :=
        step_code_of_before hCount hSome hCode hRest hRemains
          hClear shown
      rw [hCursor] at hStep
      exact hStep
    have hBehind :
        source.Remains (after ++ rest) inside.cursor
          inside.limit := by
      have hTail := hRemains.behind.behind.behind
      rw [hInside]
      have hPlace :
          l.cursor + (marks n).length + content.length +
            (marks n).length = stop := by
        rw [hCursor, marks, List.length_replicate]
        omega
      rwa [hPlace] at hTail
    rw [step_text_of_find hAfter hBehind.findIn?_append,
      hInside]
    exact ⟨rfl, rfl⟩

/-
  Code with a longer run of marks in it, behind a text.  Both
  it and the text behind it are located where they stand.
-/
theorem step_code_iff_longer :
    let content : Text := ['b'] ++ (marks 2 ++ ['c'])
    let source : Text :=
      ['a'] ++ (marks 1 ++ (content ++ (marks 1 ++ ['d'])))
    let m := Locator.start source
    let l := step source (Token.text ['a']) m
    let inside := step source (Token.code 1 content) l
    l.top = m.top.add (Node.literal ['a'] 0) ∧
      content.IsCode 1 ∧
      inside.top = l.top.add ⟨.code, 1, 7, [], []⟩ ∧
      (step source (Token.text ['d']) inside).top =
        inside.top.add (Node.literal ['d'] 7) := by
  intro content source m l inside
  have hTop : l.top = m.top.add (Node.literal ['a'] 0) :=
    congrArg Locator.top
      (step_text_of_find (by decide) (by decide))
  have hCode : content.IsCode 1 := by
    decide
  have hRemains :
      source.Remains
        (marks 1 ++ (content ++ (marks 1 ++ (['d'] ++ []))))
        1 m.limit :=
    ⟨by decide, by decide⟩
  have hIff :=
    step_code_iff (t := Token.text ['a']) (by decide) hTop rfl
      (by decide) (by decide) (by decide) hCode (by decide)
      (by decide) hRemains content
  exact ⟨hTop, hCode, hIff.mpr (by decide)⟩

end Locator

/-
  Code behind an escaped mark.  It is not located, and the
  text behind it is located inside of the code.
-/
theorem locate_code_escaped :
    let escape : Token :=
      { name := "text_special",
        content := [Locator.codeMark],
        markup := ['\\', Locator.codeMark],
        info := "escape" }
    let content : Text := ['a']
    let after : Text := ['a']
    let source : Text :=
      escape.markup ++
        (marks 1 ++ (content ++ (marks 1 ++ after)))
    let root := locate source
      (Token.paragraph
        [escape, Token.code 1 content, Token.text after])
    escape.IsProse ∧ content.IsCode 1 ∧
      (∀ n ∈ root.preorder, n.kind ≠ .code) ∧
      root.texts.map Node.segment =
        [⟨.text, 1, 2, escape.content⟩,
          ⟨.text, 3, 4, after⟩] := by
  intro escape content after source root
  exact ⟨by decide, by decide, by decide +kernel,
    by decide +kernel⟩

end ProseCheck
