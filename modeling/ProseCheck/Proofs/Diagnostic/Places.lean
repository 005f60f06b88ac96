import ProseCheck.Diagnostic.Mapping
import ProseCheck.Proofs.Annotated.Order
import ProseCheck.Proofs.Position.Translation

/-
  This file says where the diagnostics of issues lie.  In a
  text that covers its source every issue has a place, and so
  a diagnostic.  An issue that reaches beyond the text has
  none, and it stops all of them if the offset that lies
  beyond is too long to be written.

  Issues that do not overlap have diagnostics that do not, if
  no segment has more characters than it covers.  An issue
  that is not empty lies between a first and a last character
  of text, and not in the markup around them.

  Main declarations:
    * `Issue.sourceSpan_of_covers`
    * `exists_diagnostic_of_covers`
    * `Issue.IsReportable`
    * `buildDiagnostics_ok_iff`
    * `buildDiagnostics_ranges`
    * `Issue.sourceSpan_between_texts`
-/

------------------------------------------------------------
-- Places of Issues
------------------------------------------------------------

namespace ProseCheck

namespace Issue

/- An issue in a covering text has a place in the source. -/
theorem sourceSpan_of_covers
    {a : AnnotatedText}
    {length : Nat}
    (hCovers : a.Covers length)
    {i : Issue}
    (hStart : i.start ≤ a.plainText.length)
    (hStop : i.stop ≤ a.plainText.length) :
    ∃ start last : Nat,
      a.originalOffset i.start = .ok (start : Int) ∧
        a.originalOffset i.stop true = .ok (last : Int) ∧
        start ≤ length ∧ last ≤ length ∧
        i.sourceSpan a =
          .ok ((start : Int), ((max start last : Nat) : Int)) :=
    by
  rcases a.originalOffset_bounds hCovers hStart false with
    ⟨start, hFirst, hFrom⟩
  rcases a.originalOffset_bounds hCovers hStop true with
    ⟨last, hLast, hTo⟩
  have hMax :
      max (start : Int) last = (max start last : Nat) := by
    omega
  refine ⟨start, last, hFirst, hLast, hFrom, hTo, ?_⟩
  rw [sourceSpan, hFirst, hLast, ← hMax]

end Issue

namespace PositionTable

/- The range between two offsets of the text. -/
theorem rangeOf_of_le
    (p : PositionTable)
    {start stop : Nat}
    (hStart : start ≤ p.text.length)
    (hStop : stop ≤ p.text.length) :
    p.rangeOf start stop =
      .ok ⟨p.place start, p.place stop⟩ := by
  rw [rangeOf, p.positionOf_of_le hStart,
    p.positionOf_of_le hStop]
  rfl

end PositionTable

/-
  An issue in a covering text has a diagnostic.  Its range
  goes from the position of the one offset to that of the
  other.
-/
theorem exists_diagnostic_of_covers
    (p : PositionTable)
    {a : AnnotatedText}
    (hCovers : a.Covers p.text.length)
    {i : Issue}
    (hStart : i.start ≤ a.plainText.length)
    (hStop : i.stop ≤ a.plainText.length) :
    ∃ (start last : Nat),
      a.originalOffset i.start = .ok (start : Int) ∧
        a.originalOffset i.stop true = .ok (last : Int) ∧
        start ≤ p.text.length ∧
        max start last ≤ p.text.length ∧
        toDiagnostic i a p =
          .ok (i.diagnosticAt
            ⟨p.place start, p.place (max start last)⟩) := by
  rcases Issue.sourceSpan_of_covers hCovers hStart hStop with
    ⟨start, last, hFirst, hLast, hFrom, hTo, hSpan⟩
  have hEnd : max start last ≤ p.text.length :=
    Nat.max_le.mpr ⟨hFrom, hTo⟩
  refine ⟨start, last, hFirst, hLast, hFrom, hEnd, ?_⟩
  rw [toDiagnostic, hSpan]
  dsimp only
  rw [p.rangeOf_of_le hFrom hEnd]
  rfl

end ProseCheck

------------------------------------------------------------
-- Issues beyond the Text
------------------------------------------------------------

namespace ProseCheck

/- A number of few digits can be written. -/
theorem isWritable_of_lt_pow
    {n digits : Nat}
    (hLt : n < Nat.pow 10 digits)
    (hFew : digits ≤ digitLimit) :
    IsWritable n := by
  have hPow (limit : Nat) (hLe : digits ≤ limit) :
      Nat.pow 10 digits ≤ Nat.pow 10 limit :=
    Nat.pow_le_pow_right (by decide) hLe
  rw [IsWritable, Int.natAbs_natCast]
  exact Nat.lt_of_lt_of_le hLt (hPow digitLimit hFew)

/- A number of one digit can be written. -/
theorem isWritable_of_lt_ten
    {n : Nat}
    (hLt : n < 10) :
    IsWritable n := by
  have hPow : n < Nat.pow 10 1 := hLt
  exact isWritable_of_lt_pow hPow (by decide)

/- A shorter text has a length that is shorter to write. -/
theorem IsWritable.of_le
    {m n : Nat}
    (hWritable : IsWritable n)
    (hLe : m ≤ n) :
    IsWritable m :=
  Nat.lt_of_le_of_lt hLe hWritable

namespace Refusal

/- Two numbers that can be written are named in a refusal. -/
theorem outside_of_writable
    {offset length : Int}
    (hOffset : IsWritable offset)
    (hLength : IsWritable length)
    (what : String) :
    ∃ e, outside offset length what = .outOfRange e :=
  ⟨_, dif_pos ⟨hOffset, hLength⟩⟩

/- An offset that cannot be written is refused otherwise. -/
theorem outside_of_not_writable
    {offset : Int}
    (hLong : ¬ IsWritable offset)
    (length : Int)
    (what : String) :
    outside offset length what = .unwritable :=
  dif_neg (fun hBoth => hLong hBoth.1)

end Refusal

/- A plain offset in the text is taken to the source. -/
theorem AnnotatedText.exists_originalOffset
    (a : AnnotatedText)
    {offset : Nat}
    (hOffset : offset ≤ a.plainText.length)
    (isEnd : Bool) :
    ∃ place, a.originalOffset offset isEnd = .ok place := by
  unfold originalOffset
  rw [if_neg (by omega)]
  dsimp only
  split
  · exact ⟨_, rfl⟩
  split
  · exact ⟨_, rfl⟩
  split
  · exact ⟨_, rfl⟩
  · exact ⟨_, rfl⟩

/- A plain offset behind the text is refused. -/
theorem AnnotatedText.originalOffset_of_lt
    (a : AnnotatedText)
    {offset : Nat}
    (hOffset : a.plainText.length < offset)
    (isEnd : Bool) :
    a.originalOffset offset isEnd =
      .error
        (.outside offset a.plainText.length
          "analyzable text") :=
  if_pos (Or.inr (Int.ofNat_lt.mpr hOffset))

namespace Issue

/- The first end of an issue that lies behind a length. -/
def firstBeyond?
    (length : Nat)
    (i : Issue) : Option Nat :=
  if length < i.start then some i.start
  else if length < i.stop then some i.stop
  else none

/-
  If an issue reaches beyond a text, this can be said: the
  first of its ends there is short enough to be written.
-/
def IsReportable
    (plain : Text)
    (i : Issue) : Prop :=
  ∀ n ∈ i.firstBeyond? plain.length, IsWritable n

variable
  {a : AnnotatedText}
  {length : Nat}
  {i : Issue}

/- An issue that does not reach beyond a length lies in it. -/
theorem firstBeyond?_eq_none_iff :
    i.firstBeyond? length = none ↔
      i.start ≤ length ∧ i.stop ≤ length := by
  unfold firstBeyond?
  split
  · simp
    omega
  split
  · simp
    omega
  · simp
    omega

/- An issue in a text is no matter of long offsets. -/
theorem isReportable_of_le
    {plain : Text}
    (hStart : i.start ≤ plain.length)
    (hStop : i.stop ≤ plain.length) :
    i.IsReportable plain := by
  rw [IsReportable,
    firstBeyond?_eq_none_iff.mpr ⟨hStart, hStop⟩]
  intro n hMem
  cases hMem

/- An issue with short offsets can always be reported. -/
theorem isReportable_of_writable
    (hStart : IsWritable i.start)
    (hStop : IsWritable i.stop)
    (plain : Text) :
    i.IsReportable plain := by
  intro n hMem
  unfold firstBeyond? at hMem
  split at hMem
  · cases hMem
    exact hStart
  split at hMem
  · cases hMem
    exact hStop
  · cases hMem

/- An issue has no place if it reaches beyond the text. -/
theorem sourceSpan_of_beyond
    {n : Nat}
    (hBeyond : i.firstBeyond? a.plainText.length = some n) :
    a.plainText.length < n ∧
      i.sourceSpan a =
        .error
          (.outside n a.plainText.length
            "analyzable text") := by
  unfold firstBeyond? at hBeyond
  unfold sourceSpan
  split at hBeyond
  · rename_i hStart
    cases hBeyond
    rw [a.originalOffset_of_lt hStart]
    exact ⟨hStart, rfl⟩
  split at hBeyond
  · rename_i hStart hStop
    cases hBeyond
    rcases a.exists_originalOffset (Nat.le_of_not_lt hStart)
      false with ⟨place, hPlace⟩
    rw [hPlace, a.originalOffset_of_lt hStop]
    exact ⟨hStop, rfl⟩
  · cases hBeyond

end Issue

end ProseCheck

------------------------------------------------------------
-- All Diagnostics
------------------------------------------------------------

namespace ProseCheck

variable
  {a : AnnotatedText}
  {p : PositionTable}
  {issues : List Issue}
  {i : Issue}

/- An issue with a diagnostic has no other one. -/
theorem value_diagnosticsOf
    {d : Diagnostic}
    (hDiagnostic : toDiagnostic i a p = .ok d) :
    (diagnosticsOf a p i).value = .ok [d] := by
  rw [diagnosticsOf, hDiagnostic]

/- An issue that reaches beyond the text has none. -/
theorem value_diagnosticsOf_of_beyond
    {n : Nat}
    (hBeyond : i.firstBeyond? a.plainText.length = some n) :
    (diagnosticsOf a p i).value =
      if IsWritable n then .ok [] else .error .unwritable := by
  rcases Issue.sourceSpan_of_beyond hBeyond with
    ⟨hLength, hSpan⟩
  rw [diagnosticsOf, toDiagnostic, hSpan]
  by_cases hWritable : IsWritable n
  · rcases Refusal.outside_of_writable hWritable
      (hWritable.of_le (Nat.le_of_lt hLength))
      "analyzable text" with ⟨e, hOutside⟩
    rw [hOutside, if_pos hWritable]
  · rw [Refusal.outside_of_not_writable hWritable,
      if_neg hWritable]

/-
  In a covering text, an issue is dealt with if it can be
  reported.
-/
theorem diagnosticsOf_ok_iff
    (hCovers : a.Covers p.text.length)
    (i : Issue) :
    (∃ ds, (diagnosticsOf a p i).value = .ok ds) ↔
      i.IsReportable a.plainText := by
  cases hBeyond : i.firstBeyond? a.plainText.length with
  | none =>
      rcases Issue.firstBeyond?_eq_none_iff.mp hBeyond with
        ⟨hStart, hStop⟩
      rcases exists_diagnostic_of_covers p hCovers hStart
        hStop with ⟨_, _, _, _, _, _, hDiagnostic⟩
      exact iff_of_true ⟨_, value_diagnosticsOf hDiagnostic⟩
        (Issue.isReportable_of_le hStart hStop)
  | some n =>
      rw [value_diagnosticsOf_of_beyond hBeyond,
        Issue.IsReportable, hBeyond]
      by_cases hWritable : IsWritable n
      · simp [hWritable]
      · simp [hWritable]

/- The diagnostics of one issue come before all others. -/
theorem value_buildDiagnostics_cons
    (i : Issue)
    (is : List Issue) :
    (buildDiagnostics a p (i :: is)).value =
      match (diagnosticsOf a p i).value with
      | .error e => .error e
      | .ok ds =>
          (buildDiagnostics a p is).value.map (ds ++ ·) := by
  rw [buildDiagnostics, Recorded.value_bind]
  cases (diagnosticsOf a p i).value with
  | error e => rfl
  | ok ds => rfl

/- Issues that are all dealt with have all diagnostics. -/
theorem value_buildDiagnostics
    {each : Issue → List Diagnostic}
    (hEach :
      ∀ i ∈ issues,
        (diagnosticsOf a p i).value = .ok (each i)) :
    (buildDiagnostics a p issues).value =
      .ok (issues.flatMap each) := by
  induction issues with
  | nil => rfl
  | cons i is ih =>
      have hRest :=
        ih (fun j hMem => hEach j (List.mem_cons_of_mem i hMem))
      rw [value_buildDiagnostics_cons, hEach i (by simp),
        hRest]
      rfl

/- What the diagnostics of one issue and of others are. -/
theorem value_buildDiagnostics_cons_eq_ok
    {is : List Issue}
    {ds : List Diagnostic}
    (hBuilt :
      (buildDiagnostics a p (i :: is)).value = .ok ds) :
    ∃ front rest,
      (diagnosticsOf a p i).value = .ok front ∧
        (buildDiagnostics a p is).value = .ok rest ∧
        ds = front ++ rest := by
  rw [value_buildDiagnostics_cons] at hBuilt
  cases hHere : (diagnosticsOf a p i).value with
  | error e =>
      rw [hHere] at hBuilt
      cases hBuilt
  | ok front =>
      cases hRest : (buildDiagnostics a p is).value with
      | error e =>
          rw [hHere, hRest] at hBuilt
          cases hBuilt
      | ok rest =>
          rw [hHere, hRest] at hBuilt
          cases hBuilt
          exact ⟨front, rest, rfl, rfl, rfl⟩

/- Only an error about a long number is ever passed on. -/
theorem diagnosticsOf_eq_error
    {e : Refusal}
    (hError : (diagnosticsOf a p i).value = .error e) :
    e = .unwritable := by
  unfold diagnosticsOf at hError
  split at hError
  · cases hError
  · cases hError
  · cases hError
    rfl

/- If there are no diagnostics, the reason is a long number. -/
theorem buildDiagnostics_eq_error
    (hNone :
      ¬ ∃ ds, (buildDiagnostics a p issues).value = .ok ds) :
    (buildDiagnostics a p issues).value =
      .error .unwritable := by
  induction issues with
  | nil => exact absurd ⟨[], rfl⟩ hNone
  | cons i is ih =>
      rw [value_buildDiagnostics_cons] at hNone ⊢
      cases hHere : (diagnosticsOf a p i).value with
      | error e => rw [diagnosticsOf_eq_error hHere]
      | ok ds =>
          rw [hHere] at hNone
          have hRest :
              ¬ ∃ rest, (buildDiagnostics a p is).value =
                .ok rest := by
            rintro ⟨rest, hOk⟩
            rw [hOk] at hNone
            exact hNone ⟨_, rfl⟩
          dsimp only
          rw [ih hRest]
          rfl

/-
  In a covering text, issues have diagnostics exactly if each
  of them can be reported where it reaches beyond the text.
-/
theorem buildDiagnostics_ok_iff
    (hCovers : a.Covers p.text.length)
    (issues : List Issue) :
    (∃ ds, (buildDiagnostics a p issues).value = .ok ds) ↔
      ∀ i ∈ issues, i.IsReportable a.plainText := by
  induction issues with
  | nil => simp [buildDiagnostics]
  | cons i is ih =>
      rw [value_buildDiagnostics_cons, List.forall_mem_cons,
        ← diagnosticsOf_ok_iff hCovers i, ← ih]
      cases (diagnosticsOf a p i).value with
      | error e => simp
      | ok ds =>
          cases (buildDiagnostics a p is).value with
          | error e => simp [Except.map]
          | ok rest => simp [Except.map]

/- The diagnostics of issues are among those of all of them. -/
theorem mem_buildDiagnostics
    {ds : List Diagnostic}
    (hBuilt : (buildDiagnostics a p issues).value = .ok ds)
    (hMem : i ∈ issues)
    {d : Diagnostic}
    (hDiagnostic : toDiagnostic i a p = .ok d) :
    d ∈ ds := by
  induction issues generalizing ds with
  | nil => cases hMem
  | cons j is ih =>
      rcases value_buildDiagnostics_cons_eq_ok hBuilt with
        ⟨front, rest, hHere, hRest, rfl⟩
      rcases List.mem_cons.mp hMem with rfl | hLater
      · rw [value_diagnosticsOf hDiagnostic] at hHere
        cases hHere
        exact List.mem_append_left _
          (List.mem_singleton_self d)
      · exact List.mem_append_right _ (ih hRest hLater)

end ProseCheck

------------------------------------------------------------
-- Issues Apart from Each Other
------------------------------------------------------------

namespace ProseCheck

variable
  {a : AnnotatedText}
  {length : Nat}

/-
  The diagnostic of an issue ends at or before the one of an
  issue behind it begins.
-/
theorem toDiagnostic_stop_le_start
    (p : PositionTable)
    (hCovers : a.Covers p.text.length)
    (hFits : a.Fits)
    {i j : Issue}
    (hFirst : i.start ≤ i.stop)
    (hApart : i.stop ≤ j.start)
    (hSecond : j.start ≤ j.stop)
    (hLength : j.stop ≤ a.plainText.length) :
    ∃ d e, toDiagnostic i a p = .ok d ∧
      toDiagnostic j a p = .ok e ∧
        d.range.stop ≤ e.range.start := by
  have hInside : i.stop ≤ a.plainText.length := by omega
  have hBehind : j.start ≤ a.plainText.length := by omega
  rcases exists_diagnostic_of_covers p hCovers
    (Nat.le_trans hFirst hInside) hInside with
    ⟨start, last, hStart, hLast, _, hEnd, hD⟩
  rcases exists_diagnostic_of_covers p hCovers hBehind
    hLength with ⟨begin, _, hBegin, _, hFrom, _, hE⟩
  refine ⟨_, _, hD, hE, (p.place_le_iff hEnd hFrom).mpr ?_⟩
  rcases AnnotatedText.originalOffset_mono hCovers hFits false
    (Nat.le_trans hFirst hApart) (by omega) with
    ⟨x, y, hX, hY, hOrder, _⟩
  rcases AnnotatedText.originalOffset_mono hCovers hFits false
    hApart (by omega) with ⟨z, y', hZ, hY', hOrder', _⟩
  rcases AnnotatedText.originalOffset_end_le hCovers hFits
    hInside with ⟨e, z', hE, hZ', hBefore⟩
  have hXs := Except.ok.inj (hStart.symm.trans hX)
  have hYs := Except.ok.inj (hBegin.symm.trans hY)
  have hYs' := Except.ok.inj (hBegin.symm.trans hY')
  have hEs := Except.ok.inj (hLast.symm.trans hE)
  have hZs := Except.ok.inj (hZ'.symm.trans hZ)
  omega

/- The diagnostic of an empty issue has an empty range. -/
theorem toDiagnostic_empty
    (p : PositionTable)
    (hCovers : a.Covers p.text.length)
    (hFits : a.Fits)
    {i : Issue}
    (hEmpty : i.start = i.stop)
    (hLength : i.stop ≤ a.plainText.length) :
    ∃ d, toDiagnostic i a p = .ok d ∧
      d.range.start = d.range.stop := by
  rcases exists_diagnostic_of_covers p hCovers
    (hEmpty ▸ hLength) hLength with
    ⟨start, last, hStart, hLast, _, _, hD⟩
  refine ⟨_, hD, ?_⟩
  rcases AnnotatedText.originalOffset_end_le hCovers hFits
    hLength with ⟨e, s, hE, hS, hBefore⟩
  rw [hEmpty] at hStart
  have hEs := Except.ok.inj (hLast.symm.trans hE)
  have hSs := Except.ok.inj (hStart.symm.trans hS)
  have hMax : max start last = start := by omega
  change p.place start = p.place (max start last)
  rw [hMax]

/-
  In a covering text without a segment that has more
  characters than it covers, plain offsets are taken to the
  source in their order, and as ends to no later place than
  as starts.  So diagnostics of issues one behind the other
  lie one behind the other, and those of empty issues are
  empty.  There are diagnostics exactly if each issue can be
  reported where it reaches beyond the text.
-/
theorem buildDiagnostics_ranges
    (hCovers : a.Covers length)
    (hFits : a.Fits) :
    (∀ (isEnd : Bool) (m n : Nat),
      m ≤ n → n ≤ a.plainText.length →
        ∃ x y : Nat,
          a.originalOffset m isEnd = .ok (x : Int) ∧
            a.originalOffset n isEnd = .ok (y : Int) ∧
            x ≤ y ∧ y ≤ length) ∧
    (∀ n ≤ a.plainText.length,
      ∃ x y : Nat,
        a.originalOffset n true = .ok (x : Int) ∧
          a.originalOffset n = .ok (y : Int) ∧ x ≤ y) ∧
    ∀ (p : PositionTable) (issues : List Issue),
      p.text.length = length →
        let built := (buildDiagnostics a p issues).value
        ((∃ ds, built = .ok ds) ↔
          ∀ i ∈ issues, i.IsReportable a.plainText) ∧
        ∀ ds, built = .ok ds →
          (∀ i ∈ issues, ∀ j ∈ issues,
            i.start < i.stop → i.stop ≤ j.start →
            j.start < j.stop → j.stop ≤ a.plainText.length →
              ∃ d ∈ ds, ∃ e ∈ ds,
                toDiagnostic i a p = .ok d ∧
                  toDiagnostic j a p = .ok e ∧
                  d.range.stop ≤ e.range.start) ∧
          ∀ i ∈ issues,
            i.start = i.stop → i.stop ≤ a.plainText.length →
              ∃ d ∈ ds,
                toDiagnostic i a p = .ok d ∧
                  d.range.start = d.range.stop := by
  refine ⟨?_, ?_, ?_⟩
  · intro isEnd m n hOrder hLength
    exact AnnotatedText.originalOffset_mono hCovers hFits
      isEnd hOrder hLength
  · intro n hLength
    exact AnnotatedText.originalOffset_end_le hCovers hFits
      hLength
  · rintro p issues rfl
    refine ⟨buildDiagnostics_ok_iff hCovers issues, ?_⟩
    intro ds hBuilt
    constructor
    · intro i hI j hJ hFirst hApart hSecond hLength
      rcases toDiagnostic_stop_le_start p hCovers hFits
        (Nat.le_of_lt hFirst) hApart (Nat.le_of_lt hSecond)
        hLength with ⟨d, e, hD, hE, hLe⟩
      exact ⟨d, mem_buildDiagnostics hBuilt hI hD, e,
        mem_buildDiagnostics hBuilt hJ hE, hD, hE, hLe⟩
    · intro i hI hEmpty hLength
      rcases toDiagnostic_empty p hCovers hFits hEmpty
        hLength with ⟨d, hD, hRange⟩
      exact ⟨d, mem_buildDiagnostics hBuilt hI hD, hD,
        hRange⟩

/-
  A word, a break that is read as a space, a mark, and a name
  that is read as two characters: an issue on the space and
  the first of the two, one on the second, and an empty one
  behind the mark.
-/
theorem buildDiagnostics_ranges_ligature :
    let t : Text :=
      ['a', '\r', '\n', '*', '&', 'f', 'j', 'l', 'i', 'g', ';']
    let a : AnnotatedText :=
      ⟨[⟨.text, 0, 1, ['a']⟩, ⟨.text, 1, 3, [' ']⟩,
        ⟨.markup, 3, 4, ['*']⟩,
        ⟨.text, 4, 11, ['f', 'j']⟩], 11⟩
    let p : PositionTable := ⟨t, false, .utf16⟩
    let i : Issue := ⟨1, 3, "a", [], "A", "A", "a"⟩
    let j : Issue := ⟨3, 4, "b", [], "B", "B", "b"⟩
    let k : Issue := ⟨2, 2, "c", [], "C", "C", "c"⟩
    a.Covers 11 ∧ a.Fits ∧
      (∃ x y : Nat,
        a.originalOffset (2 : Nat) true = .ok (x : Int) ∧
          a.originalOffset (2 : Nat) = .ok (y : Int) ∧
          x ≤ y) ∧
      ∃ ds, (buildDiagnostics a p [i, k, j]).value = .ok ds ∧
        (∃ d ∈ ds, ∃ e ∈ ds,
          toDiagnostic i a p = .ok d ∧
            toDiagnostic j a p = .ok e ∧
            d.range.stop ≤ e.range.start) ∧
        ∃ d ∈ ds,
          toDiagnostic k a p = .ok d ∧
            d.range.start = d.range.stop := by
  intro t a p i j k
  have hCovers : a.Covers 11 := by
    refine ⟨rfl, ?_⟩
    simp [Segment.Chain, a]
  have hFits : a.Fits := by
    decide
  have hRanges := buildDiagnostics_ranges hCovers hFits
  rcases hRanges.2.2 p [i, k, j] rfl with ⟨hBuilds, hPlaces⟩
  have hInside :
      ∀ l ∈ [i, k, j], l.IsReportable a.plainText := by
    intro l hMem
    apply Issue.isReportable_of_le
    · revert l
      decide
    · revert l
      decide
  rcases hBuilds.mpr hInside with ⟨ds, hBuilt⟩
  rcases hPlaces ds hBuilt with ⟨hApart, hEmpty⟩
  refine ⟨hCovers, hFits, ?_, ds, hBuilt, ?_, ?_⟩
  · exact hRanges.2.1 2 (by decide)
  · exact hApart i (by simp) j (by simp) (by decide)
      (by decide) (by decide) (by decide)
  · exact hEmpty k (by simp) rfl (by decide)

end ProseCheck

------------------------------------------------------------
-- Issues between Marks
------------------------------------------------------------

namespace ProseCheck

namespace Issue

variable
  {a : AnnotatedText}
  {length : Nat}

/-
  In a covering text where each segment that adds something
  covers something, an issue that is not empty begins and
  ends with the segments of its first and its last character.
  Between the two it meets the segments of its characters and
  no other ones that add something.  It does not end before
  it starts, so its end stays where it is.
-/
theorem sourceSpan_between_texts
    (hCovers : a.Covers length)
    (hGrounded : a.Grounded)
    {i : Issue}
    (hOrder : i.start < i.stop)
    (hStop : i.stop ≤ a.plainText.length) :
    ∃ x y : Nat,
      a.originalOffset i.start = .ok (x : Int) ∧
        a.originalOffset i.stop true = .ok (y : Int) ∧
        x < y ∧
        i.sourceSpan a = .ok ((x : Int), (y : Int)) ∧
        (∃ start s,
          a.Yields i.start start s ∧ s.Spans x) ∧
        (∃ start s,
          a.Yields (i.stop - 1) start s ∧
            s.Spans (y - 1)) ∧
        ∀ s ∈ a.segments, s.isTextual = true →
          ((∃ place : Int,
              x ≤ place ∧ place < y ∧ s.Spans place) ↔
            ∃ k start, i.start ≤ k ∧ k < i.stop ∧
              a.Yields k start s) := by
  have hStart := Nat.le_trans (Nat.le_of_lt hOrder) hStop
  rcases sourceSpan_of_covers hCovers hStart hStop with
    ⟨x, y, hX, hY, _, _, hSpan⟩
  obtain ⟨last, hLast⟩ :=
    Nat.exists_eq_add_one.mpr (Nat.zero_lt_of_lt hOrder)
  rw [hLast] at hOrder hStop hY
  have hWithin : i.start ≤ last := Nat.le_of_lt_succ hOrder
  rcases a.exists_yields (Nat.lt_of_lt_of_le hOrder hStop)
    with ⟨first, s, hFirst⟩
  rcases a.exists_yields hStop with ⟨second, t, hSecond⟩
  have hStart :=
    Except.ok.inj (hX.symm.trans hFirst.originalOffset_eq)
  have hEnd :=
    Except.ok.inj (hY.symm.trans hSecond.originalOffset_end)
  have hLess :=
    hFirst.start_lt_end hCovers hGrounded hSecond hWithin
  rw [← hStart, ← hEnd] at hLess
  have hMax : max x y = y := by omega
  rw [hMax] at hSpan
  rw [hLast, Nat.add_sub_cancel]
  refine ⟨x, y, hX, hY, Int.ofNat_lt.mp hLess, hSpan,
    ⟨first, s, hFirst, ?_⟩, ⟨second, t, hSecond, ?_⟩, ?_⟩
  · rw [hStart]
    exact hFirst.spans_start hGrounded
  · rw [hEnd]
    exact hSecond.spans_end hGrounded
  · intro u hMem hTextual
    rw [hStart, hEnd,
      hFirst.meets_iff hCovers hGrounded hSecond hWithin hMem
        hTextual]
    simp only [Nat.lt_succ_iff]

/-
  A name that is read as two characters, a mark, a break that
  is read as a space, and a stretch that is read as nothing
  before a word.  An issue on the second of the two characters
  and the space goes over the mark, and ends with the break.
-/
theorem sourceSpan_between_texts_ligature :
    let a : AnnotatedText :=
      ⟨[⟨.text, 0, 7, ['f', 'j']⟩, ⟨.markup, 7, 8, ['*']⟩,
        ⟨.text, 8, 10, [' ']⟩, ⟨.text, 10, 12, []⟩,
        ⟨.text, 12, 13, ['a']⟩], 13⟩
    let i : Issue := ⟨1, 3, "a", [], "A", "A", "a"⟩
    a.Covers 13 ∧ a.Grounded ∧
      i.sourceSpan a = .ok (1, 10) ∧
      ∃ x y : Nat,
        a.originalOffset i.start = .ok (x : Int) ∧
          a.originalOffset i.stop true = .ok (y : Int) ∧
          x < y ∧
          i.sourceSpan a = .ok ((x : Int), (y : Int)) ∧
          (∃ start s,
            a.Yields i.start start s ∧ s.Spans x) ∧
          (∃ start s,
            a.Yields (i.stop - 1) start s ∧
              s.Spans (y - 1)) ∧
          ∀ s ∈ a.segments, s.isTextual = true →
            ((∃ place : Int,
                x ≤ place ∧ place < y ∧ s.Spans place) ↔
              ∃ k start, i.start ≤ k ∧ k < i.stop ∧
                a.Yields k start s) := by
  intro a i
  have hCovers : a.Covers 13 := by
    refine ⟨rfl, ?_⟩
    simp [Segment.Chain, a]
  have hGrounded : a.Grounded := by
    decide
  have hSpan : i.sourceSpan a = .ok (1, 10) := by
    dsimp only [a, i]
    rfl
  exact ⟨hCovers, hGrounded, hSpan,
    sourceSpan_between_texts hCovers hGrounded (by decide)
      (by decide)⟩

end Issue

end ProseCheck
