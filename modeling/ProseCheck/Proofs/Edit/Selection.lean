import Mathlib.Tactic.Common
import ProseCheck.Edit.Command

/-
  This file says what a selection offers: the replacements of
  the diagnostics that it shares a position with, in their
  order.  The ends of a range belong to it, so a caret at one
  of them is enough.

  For ranges that do not end before they start, comparing the
  ends decides whether a position is shared: the later one of
  the two starts is such a position, if there is one at all.

  Main declarations:
    * `Range.Meets`
    * `Range.overlaps_iff_meets`
    * `Diagnostic.replacements_eq_stored`
    * `codeActions_eq_meets`
-/

------------------------------------------------------------
-- Shared Positions
------------------------------------------------------------

namespace ProseCheck

namespace Position

/- A position is at or before itself. -/
theorem le_refl
    (p : Position) :
    p ≤ p :=
  Or.inr ⟨rfl, Nat.le_refl _⟩

/- The order of positions is transitive. -/
theorem le_trans
    {p q r : Position}
    (hFirst : p ≤ q)
    (hSecond : q ≤ r) :
    p ≤ r := by
  rcases hFirst with hLine | ⟨hLine, hColumn⟩
  · rcases hSecond with hNext | ⟨hNext, _⟩
    · exact Or.inl (Nat.lt_trans hLine hNext)
    · exact Or.inl (hNext ▸ hLine)
  · rcases hSecond with hNext | ⟨hNext, hAfter⟩
    · exact Or.inl (hLine ▸ hNext)
    · exact Or.inr ⟨hLine.trans hNext,
        Nat.le_trans hColumn hAfter⟩

/- Of two positions, one is at or before the other. -/
theorem le_total
    (p q : Position) :
    p ≤ q ∨ q ≤ p := by
  rcases Nat.lt_trichotomy p.line q.line with
    hBefore | hSame | hAfter
  · exact Or.inl (Or.inl hBefore)
  · rcases Nat.le_total p.character q.character with
      hLe | hLe
    · exact Or.inl (Or.inr ⟨hSame, hLe⟩)
    · exact Or.inr (Or.inr ⟨hSame.symm, hLe⟩)
  · exact Or.inr (Or.inl hAfter)

end Position

namespace Range

/- A range that does not end before it starts. -/
def WellFormed
    (r : Range) : Prop :=
  r.start ≤ r.stop

/- A position lies in a range, whose ends belong to it. -/
def Holds
    (r : Range)
    (p : Position) : Prop :=
  r.start ≤ p ∧ p ≤ r.stop

/- Two ranges share a position. -/
def Meets
    (q r : Range) : Prop :=
  ∃ p, q.Holds p ∧ r.Holds p

/- The ends of a range lie in it. -/
theorem WellFormed.holds_ends
    {r : Range}
    (hOrder : r.WellFormed) :
    r.Holds r.start ∧ r.Holds r.stop :=
  ⟨⟨Position.le_refl _, hOrder⟩,
    ⟨hOrder, Position.le_refl _⟩⟩

/- Ranges that share a position overlap. -/
theorem Meets.overlaps
    {q r : Range}
    (hMeets : q.Meets r) :
    q.Overlaps r := by
  rcases hMeets with ⟨p, ⟨hFrom, hTo⟩, hBegin, hEnd⟩
  exact ⟨Position.le_trans hFrom hEnd,
    Position.le_trans hBegin hTo⟩

/- Ranges overlap exactly where they share a position. -/
theorem overlaps_iff_meets
    {q r : Range}
    (hQuery : q.WellFormed)
    (hRange : r.WellFormed) :
    q.Overlaps r ↔ q.Meets r := by
  constructor
  · rintro ⟨hFirst, hSecond⟩
    -- the later one of the two starts lies in both
    rcases Position.le_total q.start r.start with hLe | hLe
    · exact ⟨r.start, ⟨hLe, hSecond⟩,
        hRange.holds_ends.1⟩
    · exact ⟨q.start, hQuery.holds_ends.1, hLe, hFirst⟩
  · exact Meets.overlaps

/- A shared position can be told from the ends of the ranges. -/
theorem meets_iff
    (q r : Range) :
    q.Meets r ↔
      q.WellFormed ∧ r.WellFormed ∧ q.Overlaps r := by
  constructor
  · intro hMeets
    have hOverlap := hMeets.overlaps
    rcases hMeets with ⟨p, ⟨hFrom, hTo⟩, hBegin, hEnd⟩
    exact ⟨Position.le_trans hFrom hTo,
      Position.le_trans hBegin hEnd, hOverlap⟩
  · rintro ⟨hQuery, hRange, hOverlap⟩
    exact (overlaps_iff_meets hQuery hRange).mp hOverlap

instance
    (r : Range) :
    Decidable r.WellFormed := by
  unfold WellFormed
  infer_instance

instance
    (q r : Range) :
    Decidable (q.Meets r) :=
  decidable_of_iff' _ (meets_iff q r)

end Range

end ProseCheck

------------------------------------------------------------
-- Stored Replacements
------------------------------------------------------------

namespace ProseCheck

namespace Json

/- The items of a list.  Any other value has none. -/
def listed : Json → List Json
  | .arr items => items
  | _ => []

/- An empty value has as few items as an empty list. -/
theorem listed_orElse
    (v : Json) :
    (v.orElse (.arr [])).listed = v.listed := by
  unfold orElse
  split
  · rename_i hEmpty
    cases v with
    | arr items => exact (List.isEmpty_iff.mp hEmpty).symm
    | _ => rfl
  · rfl

end Json

namespace Diagnostic

/-
  The values that the data of a diagnostic list as its
  replacements.  Data of any other shape list none.
-/
def stored
    (d : Diagnostic) : List Json :=
  match d.data.field? "replacements" with
  | some v => v.listed
  | none => []

/- The replacements are the stored values, written as texts. -/
theorem replacements_eq_stored
    (d : Diagnostic) :
    d.replacements = d.stored.map Json.shown := by
  have hListed (v : Json) :
      (match v with
        | .arr items => items.map Json.shown
        | _ => []) = v.listed.map Json.shown := by
    cases v <;> rfl
  unfold replacements stored
  cases d.data with
  | obj fields =>
      dsimp only [Json.field?]
      refine (hListed _).trans ?_
      rw [Json.listed_orElse]
      cases Json.lookup fields "replacements" <;> rfl
  | _ => rfl

end Diagnostic

end ProseCheck

------------------------------------------------------------
-- Offered Commands
------------------------------------------------------------

namespace ProseCheck

/- A selection offers the commands of what it meets. -/
theorem codeActions_of_wellFormed
    (document : Document)
    {query : Range}
    (hQuery : query.WellFormed)
    {context : List Diagnostic}
    (hContext : ∀ d ∈ context, d.range.WellFormed) :
    codeActions document query context =
      (context.filter (fun d => query.Meets d.range)).flatMap
        (fun d => commandsFor d document.identifier) := by
  rw [codeActions, underSelection]
  congr 1
  apply List.filter_congr
  intro d hMem
  rw [decide_eq_decide]
  exact Range.overlaps_iff_meets hQuery (hContext d hMem)

/- The commands of a diagnostic, one for each stored value. -/
theorem commandsFor_eq_stored
    (d : Diagnostic)
    (document : DocumentId) :
    commandsFor d document =
      d.stored.map (fun v =>
        ⟨v.shown, ⟨document, [.plain d.range v.shown]⟩⟩) := by
  rw [commandsFor, d.replacements_eq_stored, List.map_map]
  rfl

/- More diagnostics offer what each part of them offers. -/
theorem codeActions_append
    (document : Document)
    (query : Range)
    (first second : List Diagnostic) :
    codeActions document query (first ++ second) =
      codeActions document query first ++
        codeActions document query second := by
  simp [codeActions, underSelection]

/- A caret at an end of a range meets the range. -/
theorem Range.meets_caret
    {r : Range}
    (hOrder : r.WellFormed)
    {caret : Position}
    (hEnd : caret = r.start ∨ caret = r.stop) :
    (Range.mk caret caret).Meets r := by
  refine ⟨caret,
    ⟨Position.le_refl caret, Position.le_refl caret⟩, ?_⟩
  rcases hEnd with rfl | rfl
  · exact hOrder.holds_ends.1
  · exact hOrder.holds_ends.2

/-
  A selection offers, for each of the diagnostics that it
  shares a position with, and in their order, one command for
  each replacement that the diagnostic stores, in the stored
  order.  A command carries one edit, of the range of the
  diagnostic in the version of the document.  A caret at
  either end of a range is enough, and diagnostics do not
  change what is offered for others.
-/
theorem codeActions_eq_meets
    (document : Document)
    (query : Range)
    (hQuery : query.WellFormed) :
    (∀ context : List Diagnostic,
      (∀ d ∈ context, d.range.WellFormed) →
        codeActions document query context =
          (context.filter
            (fun d => query.Meets d.range)).flatMap
              (fun d => d.stored.map (fun v =>
                ⟨v.shown, ⟨⟨document.uri, document.version⟩,
                  [.plain d.range v.shown]⟩⟩))) ∧
    (∀ context : List Diagnostic,
      ∀ c ∈ codeActions document query context,
        c.toJson.field? "command" =
          some (.str "languageTool.acceptSuggestion")) ∧
    (∀ (context : List Diagnostic),
      ∀ d ∈ context, d.range.WellFormed →
        ∀ caret,
          caret = d.range.start ∨ caret = d.range.stop →
            ∀ v ∈ d.stored,
              ⟨v.shown, ⟨⟨document.uri, document.version⟩,
                [.plain d.range v.shown]⟩⟩ ∈
                  codeActions document ⟨caret, caret⟩
                    context) ∧
    ∀ first second : List Diagnostic,
      codeActions document query (first ++ second) =
        codeActions document query first ++
          codeActions document query second := by
  refine ⟨?_, ?_, ?_, codeActions_append document query⟩
  · intro context hContext
    rw [codeActions_of_wellFormed document hQuery hContext]
    simp only [commandsFor_eq_stored, Document.identifier]
  · intro context c _
    rfl
  · intro context d hMem hOrder caret hEnd v hStored
    rw [codeActions, underSelection]
    refine List.mem_flatMap.mpr ⟨d, ?_, ?_⟩
    · have hOverlap :=
        (Range.meets_caret hOrder hEnd).overlaps
      exact List.mem_filter.mpr ⟨hMem, decide_eq_true hOverlap⟩
    · rw [commandsFor_eq_stored]
      exact List.mem_map.mpr ⟨v, hStored, rfl⟩

/-
  A caret at the start of a line: it touches a diagnostic that
  ends there, having started on the line before, and not one
  that starts a column later.  Replacements need not be texts.
-/
theorem codeActions_eq_meets_caret :
    let document : Document :=
      ⟨"file:///a.txt", some 2, [], "plaintext"⟩
    let caret : Position := ⟨1, 0⟩
    let stored : Json :=
      .obj [("replacements", .arr [.str "a", .bool true])]
    let d : Diagnostic :=
      { range := ⟨⟨0, 7⟩, caret⟩, message := "d",
        data := stored }
    let e : Diagnostic :=
      { range := ⟨⟨1, 1⟩, ⟨1, 4⟩⟩, message := "e",
        data := stored }
    (Range.mk caret caret).WellFormed ∧
      (∀ x ∈ [e, d], x.range.WellFormed) ∧
      codeActions document ⟨caret, caret⟩ [e, d] =
        [⟨"a", ⟨⟨"file:///a.txt", some 2⟩,
            [.plain ⟨⟨0, 7⟩, ⟨1, 0⟩⟩ "a"]⟩⟩,
          ⟨"True", ⟨⟨"file:///a.txt", some 2⟩,
            [.plain ⟨⟨0, 7⟩, ⟨1, 0⟩⟩ "True"]⟩⟩] ∧
      ⟨"True", ⟨⟨"file:///a.txt", some 2⟩,
          [.plain ⟨⟨0, 7⟩, ⟨1, 0⟩⟩ "True"]⟩⟩ ∈
        codeActions document ⟨caret, caret⟩ [e, d] := by
  intro document caret stored d e
  have hQuery : (Range.mk caret caret).WellFormed := by
    decide
  have hContext : ∀ x ∈ [e, d], x.range.WellFormed := by
    decide
  have hOffers := codeActions_eq_meets document _ hQuery
  refine ⟨hQuery, hContext, ?_, ?_⟩
  · rw [hOffers.1 [e, d] hContext]
    rfl
  · have hStored : .bool true ∈ d.stored :=
      List.mem_cons_of_mem _ List.mem_cons_self
    exact hOffers.2.2.1 [e, d] d (by simp)
      (hContext d (by simp)) caret (Or.inr rfl) _ hStored

end ProseCheck
