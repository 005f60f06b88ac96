import ProseCheck.Check.Report
import ProseCheck.Proofs.Check.Attempts
import ProseCheck.Proofs.Edit.Suggestion
import ProseCheck.Proofs.Issue.Normal

/-
  This file says what a document is diagnosed with, for what
  a tool answers when it is asked about the text of it.  The
  findings of an answer are read if none of them has a number
  that is too large for an integer.  They are diagnosed if
  none of them lies beyond the text at an offset that is too
  long to be written.

  Main declarations:
    * `Finding.IsReadable`
    * `Finding.IsReportable`
    * `readFindings_of_readable`
    * `keptIssues`
    * `Document.ReadAs`
    * `readAnswer`
    * `diagnose_of_readAs`
    * `diagnose_of_readable`
    * `diagnose_of_not_readable`
    * `diagnose_of_not_readAs`
    * `Engine.answering`
-/

------------------------------------------------------------
-- Findings
------------------------------------------------------------

namespace ProseCheck

namespace Finding

/- Whether a finding is an issue, or is passed over. -/
def IsReadable
    (f : Finding) : Prop :=
  ∀ e, Issue.ofFinding f = .error e → e.isMalformed = true

/- Whether none of the attributes is an infinite number. -/
def IsFinite
    (f : Finding) : Prop :=
  ∀ a ∈ f.attributes, ∀ negative,
    a.2 ≠ .float (.infinite negative)

/- Where a finding lies is never an infinite number. -/
theorem between_isFinite
    (offset length : Int) :
    (between offset length).IsFinite := by
  intro a hMem negative hSame
  simp only [between, List.mem_cons, List.not_mem_nil,
    or_false] at hMem
  rcases hMem with rfl | rfl
  · cases hSame
  · cases hSame

end Finding

/- A text that is no numeral is no infinite number. -/
theorem Json.textFault_ne_infinite
    (s : String) :
    textFault s ≠ .infinite := by
  unfold textFault
  split
  · exact ConversionError.noConfusion
  · exact ConversionError.noConfusion

/- Only an infinite number is too large for an integer. -/
theorem Json.toInteger_eq_infinite
    {v : Json}
    (hError : v.toInteger = .error .infinite) :
    ∃ negative, v = .float (.infinite negative) := by
  unfold toInteger at hError
  split at hError
  · cases hError
  · cases hError
  · cases hError
  · rename_i x hNumber
    cases x with
    | finite negative mantissa exponent =>
        rw [Binary64.truncate?] at hError
        cases hError
    | infinite negative => exact ⟨negative, rfl⟩
    | nan => exact absurd rfl hNumber
  · split at hError
    · cases hError
    · exact absurd (Except.error.inj hError)
        (textFault_ne_infinite _)
  · cases hError

/- A value that is looked up is that of some field. -/
theorem Json.exists_mem_of_lookup
    {fields : List (String × Json)}
    {name : String}
    {v : Json}
    (hLookup : lookup fields name = some v) :
    ∃ a ∈ fields, a.2 = v := by
  rw [lookup, Option.map_eq_some_iff] at hLookup
  rcases hLookup with ⟨a, hFind, hValue⟩
  exact ⟨a, List.mem_of_find?_eq_some hFind, hValue⟩

namespace Finding

variable {f : Finding}

/- A finite finding has no attribute that is too large. -/
theorem IsFinite.integer_ne
    (hFinite : f.IsFinite)
    (name : String) :
    f.integer name ≠ .error .infinite := by
  intro hError
  rcases Json.toInteger_eq_infinite hError with
    ⟨negative, hValue⟩
  unfold Json.orElse value at hValue
  split at hValue
  · cases hValue
  · cases hLookup : Json.lookup f.attributes name with
    | none =>
        rw [hLookup] at hValue
        cases hValue
    | some v =>
        rcases Json.exists_mem_of_lookup hLookup with
          ⟨a, hMem, hSame⟩
        apply hFinite a hMem negative
        rw [hLookup] at hValue
        exact hSame.trans hValue

/- The replacements are no matter of numbers. -/
theorem replacements_ne :
    f.replacements ≠ .error .infinite := by
  intro hError
  unfold replacements Json.toItems at hError
  split at hError
  · cases hError
  · cases hError
  · cases hError
  · cases hError

/- A finite finding is an issue, or is passed over. -/
theorem IsFinite.isReadable
    (hFinite : f.IsFinite) :
    f.IsReadable := by
  intro e hError
  have hFields : f.issueFields ≠ .error .infinite := by
    unfold issueFields
    cases hStart : f.integer "offset" with
    | error e =>
        intro hSame
        cases hSame
        exact hFinite.integer_ne "offset" hStart
    | ok start =>
        cases hLength : f.integer "errorLength" with
        | error e =>
            intro hSame
            cases hSame
            exact hFinite.integer_ne "errorLength" hLength
        | ok length =>
            cases hItems : f.replacements with
            | error e =>
                intro hSame
                cases hSame
                exact replacements_ne hItems
            | ok items =>
                intro hSame
                cases hSame
  unfold Issue.ofFinding at hError
  split at hError
  · rename_i e' hFault
    cases hError
    cases e' with
    | infinite => exact absurd hFault hFields
    | _ => rfl
  · rename_i fields _
    cases hRead : Issue.ofFields fields with
    | ok i =>
        rw [hRead] at hError
        cases hError
    | error errors =>
        rw [hRead] at hError
        cases hError
        rfl

end Finding

/-
  The issues of findings that can be read are those of each
  of them.
-/
theorem readFindings_of_readable
    (length : Nat)
    {findings : List Finding}
    (hReadable : ∀ f ∈ findings, f.IsReadable) :
    (readFindings length findings).value =
      .ok (findings.filterMap
        (fun f => (Issue.ofFinding f).toOption)) := by
  induction findings with
  | nil => rfl
  | cons f fs ih =>
      have hRest :=
        ih (fun g hMem =>
          hReadable g (List.mem_cons_of_mem f hMem))
      unfold readFindings
      cases hRead : Issue.ofFinding f with
      | ok i => simp [hRest, hRead, Except.map, Except.toOption]
      | error e =>
          have hMalformed := hReadable f (by simp) e hRead
          simp [hRest, hRead, hMalformed, Except.toOption]

/- One finding that cannot be read spoils all of them. -/
theorem readFindings_of_not_readable
    (length : Nat)
    {findings : List Finding}
    {f : Finding}
    (hMem : f ∈ findings)
    (hReadable : ¬ f.IsReadable) :
    ∃ e, (readFindings length findings).value =
      .error e := by
  induction findings with
  | nil => cases hMem
  | cons g gs ih =>
      unfold readFindings
      by_cases hHead : g.IsReadable
      · have hOther : f ∈ gs := by
          refine (List.mem_cons.mp hMem).resolve_left ?_
          intro hSame
          exact hReadable (hSame ▸ hHead)
        rcases ih hOther with ⟨e, hRest⟩
        refine ⟨e, ?_⟩
        cases hRead : Issue.ofFinding g with
        | ok i => simp [hRest, Except.map]
        | error e' => simp [hHead e' hRead, hRest]
      · unfold Finding.IsReadable at hHead
        push Not at hHead
        rcases hHead with ⟨e, hRead, hOther⟩
        exact ⟨e, by simp [hRead, hOther]⟩

end ProseCheck

------------------------------------------------------------
-- Kept Issues
------------------------------------------------------------

namespace ProseCheck

/-
  Whether a finding can be reported if it lies beyond the
  text.  This does not matter if it is no issue, or is about
  a word to ignore.
-/
def Finding.IsReportable
    (words : List String)
    (plain : Text)
    (f : Finding) : Prop :=
  ∀ i, Issue.ofFinding f = .ok i →
    isIgnored (ignoredWords words) (i.matched plain) = false →
      i.IsReportable plain

/-
  The issues that findings are about, without those about
  words to ignore.
-/
def keptIssues
    (words : List String)
    (plain : Text)
    (findings : List Finding) : List Issue :=
  keepIssues (ignoredWords words) plain
    (findings.filterMap
      (fun f => (Issue.ofFinding f).toOption))

/- A kept issue is that of a finding. -/
theorem mem_keptIssues
    {words : List String}
    {plain : Text}
    {findings : List Finding}
    {i : Issue} :
    i ∈ keptIssues words plain findings ↔
      ∃ f ∈ findings,
        Issue.ofFinding f = .ok i ∧
          isIgnored (ignoredWords words)
            (i.matched plain) = false := by
  have hRead (f : Finding) :
      (Issue.ofFinding f).toOption = some i ↔
        Issue.ofFinding f = .ok i := by
    cases Issue.ofFinding f with
    | error e => simp [Except.toOption]
    | ok j => simp [Except.toOption]
  unfold keptIssues keepIssues
  simp only [List.mem_filter, List.mem_filterMap, hRead,
    Bool.not_eq_true']
  constructor
  · rintro ⟨⟨f, hMem, hIssue⟩, hWord⟩
    exact ⟨f, hMem, hIssue, hWord⟩
  · rintro ⟨f, hMem, hIssue, hWord⟩
    exact ⟨⟨f, hMem, hIssue⟩, hWord⟩

/-
  Kept issues have diagnostics exactly if each of the findings
  can be reported.
-/
theorem buildDiagnostics_keptIssues_ok_iff
    {a : AnnotatedText}
    {p : PositionTable}
    (hCovers : a.Covers p.text.length)
    (words : List String)
    (findings : List Finding) :
    (∃ ds,
      (buildDiagnostics a p
        (keptIssues words a.plainText
          findings)).value = .ok ds) ↔
      ∀ f ∈ findings, f.IsReportable words a.plainText := by
  rw [buildDiagnostics_ok_iff hCovers]
  constructor
  · intro hAll f hMem i hRead hWord
    exact hAll i (mem_keptIssues.mpr ⟨f, hMem, hRead, hWord⟩)
  · intro hAll i hMem
    rcases mem_keptIssues.mp hMem with
      ⟨f, hFinding, hRead, hWord⟩
    exact hAll f hFinding i hRead hWord

end ProseCheck

------------------------------------------------------------
-- Answers
------------------------------------------------------------

namespace ProseCheck

/- A document is read as a text that is not blank. -/
structure Document.ReadAs
    (document : Document)
    (annotated : AnnotatedText) : Prop where
  selected :
    selectText document.text document.languageId =
      .ok annotated
  notBlank : annotated.plainText.strip.isEmpty = false

/- What a document is read as covers the document. -/
theorem Document.ReadAs.covers
    {document : Document}
    {annotated : AnnotatedText}
    (hRead : document.ReadAs annotated) :
    annotated.Covers document.text.length := by
  have hSelect := hRead.selected
  unfold selectText selectDeclared at hSelect
  split at hSelect
  · exact selectContent_covers hSelect
  · cases hSelect

/-
  The issues of a plain text, for what a tool answered when
  it was asked about it.
-/
def readAnswer
    (plain : Text)
    (words : List String) :
    Except Failure (List Finding) →
    Except CheckError (List Issue)
  | .error e => .error (.tool e)
  | .ok findings =>
      match (readFindings plain.length findings).value with
      | .error e => .error (.finding e)
      | .ok issues =>
          .ok (keepIssues (ignoredWords words) plain issues)

variable
  {τ : Type}
  (engine : Engine τ)
  (backoff : Backoff Binary64)
  (tool : τ)
  (words : List String)

/- A plain text is checked by the last attempt. -/
theorem value_checkPlain
    (plain : Text) :
    (checkPlain engine backoff tool plain words).value.1 =
      readAnswer plain words
        (retry backoff engine.check tool plain).outcome := by
  unfold checkPlain readAnswer
  simp only [Recorded.value_bind]
  cases (retry backoff engine.check tool plain).outcome with
  | error e => rfl
  | ok findings =>
      simp only [Recorded.value_bind, Recorded.logged,
        Recorded.mapEntries]
      cases (readFindings plain.length findings).value with
      | error e => rfl
      | ok issues => rfl

variable
  {document : Document}
  {annotated : AnnotatedText}

/- The report on a document has the issues of the answer. -/
theorem checkDocument_of_readAs
    (hRead : document.ReadAs annotated) :
    (checkDocument engine backoff tool document
      words).value.1 =
        (readAnswer annotated.plainText words
          (retry backoff engine.check tool
            annotated.plainText).outcome).map
              (Report.mk document annotated) := by
  rw [← value_checkPlain]
  unfold checkDocument
  rw [hRead.selected]
  dsimp only
  rw [hRead.notBlank, if_neg Bool.false_ne_true]
  rfl

/- A document that is read is diagnosed by the answer. -/
theorem diagnose_of_readAs
    (encoding : Encoding)
    (hScheme : document.hasSupportedScheme = true)
    (hRead : document.ReadAs annotated) :
    (diagnose engine backoff (some tool) document words
      encoding).value.1 =
        match readAnswer annotated.plainText words
          (retry backoff engine.check tool
            annotated.plainText).outcome with
        | .ok issues =>
            (buildDiagnostics annotated
              ⟨document.text, false, encoding⟩
              issues).value.mapError .place
        | .error e => (recover document e).value := by
  have hReport :=
    checkDocument_of_readAs engine backoff tool words hRead
  rw [diagnose, if_pos hScheme]
  unfold diagnoseWith
  simp only [Recorded.value_bind, hReport]
  cases readAnswer annotated.plainText words
      (retry backoff engine.check tool
        annotated.plainText).outcome with
  | ok issues => rfl
  | error e => rfl

/- Findings that can be read give the kept issues. -/
theorem diagnose_of_readable
    (jitter : Nat → Binary64)
    (encoding : Encoding)
    (hScheme : document.hasSupportedScheme = true)
    (hRead : document.ReadAs annotated)
    {findings : List Finding}
    (hSettles :
      Settles engine.check annotated.plainText tool
        (.ok findings))
    (hReadable : ∀ f ∈ findings, f.IsReadable) :
    (diagnose engine (.standard jitter) (some tool) document
      words encoding).value.1 =
        (buildDiagnostics annotated
          ⟨document.text, false, encoding⟩
          (keptIssues words annotated.plainText
            findings)).value.mapError .place := by
  rw [← outcome_retry_iff jitter] at hSettles
  rw [diagnose_of_readAs engine _ tool words encoding hScheme
    hRead, hSettles, readAnswer,
    readFindings_of_readable _ hReadable]
  rfl

/- A finding that cannot be read leaves no diagnostics. -/
theorem diagnose_of_not_readable
    (jitter : Nat → Binary64)
    (encoding : Encoding)
    (hScheme : document.hasSupportedScheme = true)
    (hRead : document.ReadAs annotated)
    {findings : List Finding}
    (hSettles :
      Settles engine.check annotated.plainText tool
        (.ok findings))
    {f : Finding}
    (hMem : f ∈ findings)
    (hReadable : ¬ f.IsReadable) :
    ∃ e,
      (diagnose engine (.standard jitter) (some tool) document
        words encoding).value.1 = .error (.finding e) := by
  rw [← outcome_retry_iff jitter] at hSettles
  rcases readFindings_of_not_readable
    annotated.plainText.length hMem hReadable with
    ⟨e, hError⟩
  refine ⟨e, ?_⟩
  rw [diagnose_of_readAs engine _ tool words encoding hScheme
    hRead, hSettles, readAnswer, hError]
  rfl

/- A document without a text to check has no diagnostics. -/
theorem diagnose_of_not_readAs
    (encoding : Encoding)
    (hRead : ∀ annotated, ¬ document.ReadAs annotated) :
    (diagnose engine backoff (some tool) document words
      encoding).value.1 = .ok [] := by
  rw [diagnose]
  split
  · simp only [Recorded.value_bind]
    unfold diagnoseWith checkDocument
    cases hSelect :
        selectText document.text document.languageId with
    | error e =>
        cases e with
        | unsupported language => rfl
        | malformed e => rfl
    | ok annotated =>
        have hBlank :
            annotated.plainText.strip.isEmpty = true := by
          rw [← Bool.not_eq_false]
          exact fun hText =>
            hRead annotated ⟨hSelect, hText⟩
        simp only [hBlank, if_true]
        rfl
  · rfl

end ProseCheck

------------------------------------------------------------
-- Engines that Answer
------------------------------------------------------------

namespace ProseCheck

/- A tool that gives the same findings for every text. -/
def Engine.answering
    (findings : List Finding) : Engine Unit where
  create _ _ := .ok ()
  check _ _ := (.ok findings, ())

/- Asking it is settled at once. -/
theorem settles_answering
    (findings : List Finding)
    (t : Text) :
    Settles (Engine.answering findings).check t ()
      (.ok findings) :=
  settles_of_ok rfl

end ProseCheck

------------------------------------------------------------
-- A Line of Text
------------------------------------------------------------

namespace ProseCheck

/- A line of text in a file. -/
def typoLine : Document where
  uri := "file:///doc"
  version := none
  text := "teh cat".toList
  languageId := "plaintext"

/- The line is read as it stands. -/
theorem typoLine_readAs :
    typoLine.ReadAs (.identity typoLine.text) where
  selected := by
    dsimp only [typoLine]
    rfl
  notBlank := by decide

end ProseCheck
