import ProseCheck.Edit.Command
import ProseCheck.Proofs.Diagnostic.Places
import ProseCheck.Proofs.Tree.Annotation
import ProseCheck.Tree.Select

/-
  This file follows an issue from the plain text to the edit
  that is offered for it.  Whoever applies the edit replaces
  the stretch of the document that the issue was found in,
  and nothing else.

  Main declarations:
    * `selectContent_covers`
    * `PositionTable.replace_place`
    * `Diagnostic.replacements_diagnosticAt`
    * `codeActions_toDiagnostic`
-/

------------------------------------------------------------
-- Contents
------------------------------------------------------------

namespace ProseCheck

/- The annotated text of a document covers the document. -/
theorem selectContent_covers
    {t : Text}
    {type : ContentType}
    {a : AnnotatedText}
    (hSelect : selectContent t type = .ok a) :
    a.Covers t.length := by
  cases type with
  | plainText =>
      cases hSelect
      exact AnnotatedText.covers_identity t
  | tex =>
      cases hSelect
      exact AnnotatedText.covers_identity t
  | markdown =>
      rw [selectContent, annotateMarkdown] at hSelect
      rcases annotate_settles t
        (between_locate t (Markdown.parse t)) with
        ⟨_, hFail⟩ | ⟨_, b, hOk, hCovers⟩
      · rw [hFail] at hSelect
        cases hSelect
      · rw [hOk] at hSelect
        cases hSelect
        exact hCovers

/- Only in Markdown is the plain text not the whole text. -/
theorem selectContent_eq_identity
    {t : Text}
    {type : ContentType}
    {a : AnnotatedText}
    (hType : type ≠ .markdown)
    (hSelect : selectContent t type = .ok a) :
    a = .identity t := by
  cases type with
  | plainText =>
      cases hSelect
      rfl
  | tex =>
      cases hSelect
      rfl
  | markdown => exact absurd rfl hType

end ProseCheck

------------------------------------------------------------
-- Checked Issues
------------------------------------------------------------

namespace ProseCheck

namespace Issue

/- A checked issue does not end before it starts. -/
theorem start_le_stop_of_checked
    {i j : Issue}
    (hChecked : checked i = .ok j) :
    j.start ≤ j.stop := by
  unfold checked at hChecked
  split at hChecked
  · cases hChecked
  split at hChecked
  · cases hChecked
  · rename_i hOrder _
    cases hChecked
    exact Nat.le_of_not_lt hOrder

/- An issue that is read does not end before it starts. -/
theorem start_le_stop_of_ofFields
    {fields : List (String × Json)}
    {i : Issue}
    (hRead : ofFields fields = .ok i) :
    i.start ≤ i.stop := by
  rw [ofFields] at hRead
  split at hRead
  · exact start_le_stop_of_checked hRead
  · cases hRead

end Issue

end ProseCheck

------------------------------------------------------------
-- Applied Edits
------------------------------------------------------------

namespace ProseCheck

/- A text with another one in the place of a stretch of it. -/
def Text.splice
    (t : Text)
    (start stop : Nat)
    (new : String) : Text :=
  t.take start ++ Text.ofString new ++ t.drop stop

namespace PositionTable

/-
  The text after an editor replaced a range of it, where the
  two positions are read back as offsets.
-/
def replace
    (p : PositionTable)
    (range : Range)
    (new : String) : Except Refusal Text := do
  let start ←
    p.offsetOf range.start.line range.start.character
  let stop ← p.offsetOf range.stop.line range.stop.character
  return p.text.splice start stop new

/-
  The range between the positions of two offsets is replaced
  from the one offset to the other.
-/
theorem replace_place
    (p : PositionTable)
    {start stop : Nat}
    (hStart : start ≤ p.text.length)
    (hStop : stop ≤ p.text.length)
    (new : String) :
    p.replace ⟨p.place start, p.place stop⟩ new =
      .ok (p.text.splice start stop new) := by
  rw [replace, p.offsetOf_place hStart,
    p.offsetOf_place hStop]
  rfl

end PositionTable

end ProseCheck

------------------------------------------------------------
-- Offered Edits
------------------------------------------------------------

namespace ProseCheck

namespace Diagnostic

/- The data of a diagnostic tell the replacements again. -/
theorem replacements_diagnosticAt
    (i : Issue)
    (range : Range) :
    (i.diagnosticAt range).replacements = i.replacements := by
  cases hTexts : i.replacements with
  | nil =>
      simp [replacements, Issue.diagnosticAt,
        replacementData, hTexts, Json.lookup, Json.orElse,
        Json.isEmpty]
  | cons r rs =>
      simp [replacements, Issue.diagnosticAt,
        replacementData, hTexts, Json.lookup, Json.orElse,
        Json.isEmpty, Json.shown, Function.comp_def]

end Diagnostic

/- A selection that touches a diagnostic offers its edits. -/
theorem codeActions_singleton
    (document : Document)
    {query : Range}
    {d : Diagnostic}
    (hOverlap : query.Overlaps d.range) :
    codeActions document query [d] =
      commandsFor d document.identifier := by
  simp [codeActions, underSelection, hOverlap]

/- Where the text is its own plain text, an issue stays put. -/
theorem originalOffsets_identity
    {t : Text}
    {i : Issue}
    (hOrder : i.start ≤ i.stop)
    (hStop :
      i.stop ≤ (AnnotatedText.identity t).plainText.length)
    {start last : Nat}
    (hStart :
      (AnnotatedText.identity t).originalOffset i.start =
        .ok (start : Int))
    (hLast :
      (AnnotatedText.identity t).originalOffset i.stop true =
        .ok (last : Int)) :
    start = i.start ∧ max start last = i.stop := by
  rw [AnnotatedText.plainText_identity] at hStop
  rw [AnnotatedText.originalOffset_identity
    (Nat.le_trans hOrder hStop)] at hStart
  rw [AnnotatedText.originalOffset_identity hStop] at hLast
  have hFirst := Except.ok.inj hStart
  have hSecond := Except.ok.inj hLast
  omega

end ProseCheck

------------------------------------------------------------
-- From an Issue to the Edited Document
------------------------------------------------------------

namespace ProseCheck

/-
  The annotated text of a document covers it, and is the
  document itself unless this is Markdown.

  In a covering text every issue has a diagnostic.  A
  selection that touches it offers one command for each of
  the replacements, in their order, and each command carries
  one edit of the version of the document.  The two positions
  of the edit are read back as the stretch of the document
  that the issue lies in, and this stretch is replaced.
-/
theorem codeActions_toDiagnostic
    (document : Document)
    (strict : Bool)
    (e : Encoding) :
    let t : Text := document.text
    let p : PositionTable := ⟨t, strict, e⟩
    (∀ type a, selectContent t type = .ok a →
      a.Covers t.length ∧
        (type ≠ .markdown → a = .identity t)) ∧
    ∀ (a : AnnotatedText) (i : Issue),
      a.Covers t.length → i.start ≤ i.stop →
      i.stop ≤ a.plainText.length →
        ∃ (d : Diagnostic) (start last : Nat),
          toDiagnostic i a p = .ok d ∧
            a.originalOffset i.start = .ok (start : Int) ∧
            a.originalOffset i.stop true =
              .ok (last : Int) ∧
            (a = .identity t →
              start = i.start ∧ max start last = i.stop) ∧
            p.offsetOf d.range.start.line
              d.range.start.character = .ok start ∧
            p.offsetOf d.range.stop.line
              d.range.stop.character =
                .ok (max start last) ∧
            (∀ r, p.replace d.range r =
              .ok (t.take start ++ r.toList ++
                t.drop (max start last))) ∧
            ∀ query : Range, query.Overlaps d.range →
              codeActions document query [d] =
                i.replacements.map (fun r =>
                  ⟨r, ⟨⟨document.uri, document.version⟩,
                    [.plain d.range r]⟩⟩) := by
  intro t p
  constructor
  · intro type a hSelect
    exact ⟨selectContent_covers hSelect,
      fun hType => selectContent_eq_identity hType hSelect⟩
  · intro a i hCovers hOrder hStop
    rcases exists_diagnostic_of_covers p hCovers
      (Nat.le_trans hOrder hStop) hStop with
      ⟨start, last, hStart, hLast, hFrom, hTo, hDiagnostic⟩
    refine ⟨_, start, last, hDiagnostic, hStart, hLast, ?_,
      p.offsetOf_place hFrom, p.offsetOf_place hTo,
      p.replace_place hFrom hTo, ?_⟩
    · intro hIdentity
      subst hIdentity
      exact originalOffsets_identity hOrder hStop hStart
        hLast
    · intro query hOverlap
      rw [codeActions_singleton document hOverlap,
        commandsFor, Diagnostic.replacements_diagnosticAt]
      rfl

/-
  A word between marks of Markdown, on the second line of a
  document, behind a break that is read as a space.  A caret
  behind the word offers to correct it, and the marks stay.
-/
theorem codeActions_toDiagnostic_emphasis :
    let t : Text :=
      ['😀', '\r', '\n', '*', 't', 'e', 'h', '*']
    let document : Document :=
      ⟨"file:///a.md", some 3, t, "markdown"⟩
    let p : PositionTable := ⟨t, false, .utf16⟩
    let a : AnnotatedText :=
      ⟨[⟨.text, 0, 1, ['😀']⟩, ⟨.text, 1, 3, [' ']⟩,
        ⟨.markup, 3, 4, ['*']⟩,
        ⟨.text, 4, 7, ['t', 'e', 'h']⟩,
        ⟨.markup, 7, 8, ['*']⟩], 8⟩
    let i : Issue :=
      ⟨2, 5, "Possible typo", ["the"], "TYPO", "Typo",
        "misspelling"⟩
    ∃ d : Diagnostic,
      toDiagnostic i a p = .ok d ∧
        d.range = ⟨⟨1, 1⟩, ⟨1, 4⟩⟩ ∧
        p.replace d.range "the" =
          .ok ['😀', '\r', '\n', '*', 't', 'h', 'e', '*'] ∧
        codeActions document ⟨⟨1, 4⟩, ⟨1, 4⟩⟩ [d] =
          [⟨"the", ⟨⟨"file:///a.md", some 3⟩,
            [.plain ⟨⟨1, 1⟩, ⟨1, 4⟩⟩ "the"]⟩⟩] := by
  intro t document p a i
  have hCovers : a.Covers t.length := by
    refine ⟨rfl, ?_⟩
    simp [Segment.Chain, a, t]
  rcases (codeActions_toDiagnostic document false .utf16).2 a
    i hCovers (by decide) (by decide) with
    ⟨d, start, last, hDiagnostic, hStart, hLast, _, _, _,
      hReplace, hActions⟩
  have hPlace :
      toDiagnostic i a p =
        .ok (i.diagnosticAt ⟨⟨1, 1⟩, ⟨1, 4⟩⟩) := by
    dsimp only [a, i, p, t]
    rfl
  have hFirst : a.originalOffset i.start = .ok 4 := by
    dsimp only [a, i]
    rfl
  have hSecond : a.originalOffset i.stop true = .ok 7 := by
    dsimp only [a, i]
    rfl
  obtain rfl : d = i.diagnosticAt ⟨⟨1, 1⟩, ⟨1, 4⟩⟩ :=
    Except.ok.inj (hDiagnostic.symm.trans hPlace)
  obtain rfl : start = 4 :=
    Int.ofNat.inj (Except.ok.inj (hStart.symm.trans hFirst))
  obtain rfl : last = 7 :=
    Int.ofNat.inj (Except.ok.inj (hLast.symm.trans hSecond))
  refine ⟨_, hDiagnostic, rfl, ?_, ?_⟩
  · rw [hReplace "the"]
    decide
  · exact hActions ⟨⟨1, 4⟩, ⟨1, 4⟩⟩ (by decide)

end ProseCheck
