import ProseCheck.Proofs.Check.Diagnosis

/-
  This file says which of the words to ignore are ignored.
  A word is compared as it stands, unless its letters make up
  an acronym.  Then only these letters are looked up, with or
  without the s at their end, and a word that holds anything
  else may be listed without being found.

  Main declarations:
    * `IsCovered`
    * `isIgnored_iff_isCovered`
    * `IsLeftOut`
    * `isLeftOut_iff_isCovered`
-/

------------------------------------------------------------
-- Covered Words
------------------------------------------------------------

namespace ProseCheck

/-
  A word whose letters make up an acronym is covered by a
  list if these letters are in it, or the ones without the s
  at the end.  Any other word covers itself.
-/
def IsCovered
    (words : List String)
    (w : String) : Prop :=
  let acronym := letters (Text.ofString w)
  isAcronym acronym = true →
    acronym.asString ∈ words ∨
      (singular acronym).asString ∈ words

instance
    (words : List String)
    (w : String) :
    Decidable (IsCovered words w) := by
  unfold IsCovered
  infer_instance

/- A word without blank ends is a text without them. -/
theorem strip_ofString
    {w : String}
    (hStrip : strip w = w) :
    (Text.ofString w).strip = Text.ofString w := by
  have hText :
      Text.ofString (Text.ofString w).strip.asString =
        (Text.ofString w).strip :=
    String.toList_ofList
  rw [← hText]
  exact congrArg Text.ofString hStrip

/- A word that holds something is no empty text. -/
theorem isEmpty_ofString
    {w : String}
    (hText : w ≠ "") :
    (Text.ofString w).isEmpty = false := by
  rw [List.isEmpty_eq_false_iff]
  intro hEmpty
  exact hText (String.toList_eq_nil_iff.mp hEmpty)

/-
  A text that is one of the words, but for its blank ends, is
  ignored exactly if that word is covered.
-/
theorem isIgnored_iff_isCovered
    {extra : List String}
    {w : String}
    (hMem : w ∈ defaultIgnoredWords ++ extra)
    (hText : w ≠ "")
    {matched : Text}
    (hStrip : matched.strip.asString = w) :
    isIgnored (ignoredWords extra) matched = true ↔
      IsCovered (defaultIgnoredWords ++ extra) w := by
  have hWord : Text.ofString w = matched.strip := by
    rw [← hStrip]
    exact String.toList_ofList
  have hBlank : matched.strip.isEmpty = false := by
    rw [← hWord]
    exact isEmpty_ofString hText
  have hContains :
      ∀ v, (ignoredWords extra).contains v = true ↔
        v ∈ defaultIgnoredWords ++ extra := by
    intro v
    rw [List.contains_iff_mem, ignoredWords, mem_wordSet]
  unfold isIgnored IsCovered
  simp only [hWord, hBlank, hStrip, if_false,
    Bool.false_eq_true]
  split
  · rename_i hAcronym
    rw [Bool.or_eq_true, hContains, hContains]
    simp only [hAcronym, forall_const]
  · rename_i hAcronym
    rw [hContains]
    exact iff_of_true hMem (fun h => absurd h hAcronym)

end ProseCheck

------------------------------------------------------------
-- Reports
------------------------------------------------------------

namespace ProseCheck

/- A plain text is read as it stands. -/
theorem Document.readAs_identity
    {document : Document}
    (hPlain :
      declaredContent (.str document.languageId) =
        .ok .plainText)
    (hText : document.text.strip.isEmpty = false) :
    document.ReadAs (.identity document.text) :=
  { selected := by
      rw [selectText, selectDeclared, hPlain]
      rfl
    notBlank := by
      rw [AnnotatedText.plainText_identity]
      exact hText }

/-
  The report on a plain text, for findings that are issues:
  those of them that are not about a word to ignore.  There
  are none if the text is blank.
-/
theorem checkDocument_plainText
    {τ : Type}
    {engine : Engine τ}
    {tool : τ}
    (jitter : Nat → Binary64)
    {document : Document}
    (words : List String)
    {findings : List Finding}
    (hPlain :
      declaredContent (.str document.languageId) =
        .ok .plainText)
    (hSettles :
      Settles engine.check document.text tool (.ok findings))
    (hIssues :
      ∀ f ∈ findings, ∃ i, Issue.ofFinding f = .ok i) :
    (checkDocument engine (.standard jitter) tool document
      words).value.1 =
        .ok ⟨document, .identity document.text,
          if document.text.strip.isEmpty then []
          else
            keepIssues (ignoredWords words) document.text
              (findings.filterMap
                (fun f => (Issue.ofFinding f).toOption))⟩ := by
  cases hText : document.text.strip.isEmpty with
  | true =>
      unfold checkDocument selectText selectDeclared
      rw [hPlain]
      dsimp only [selectContent]
      rw [AnnotatedText.plainText_identity, hText]
      rfl
  | false =>
      rw [← outcome_retry_iff jitter] at hSettles
      have hReadable : ∀ f ∈ findings, f.IsReadable := by
        intro f hMem e hError
        rcases hIssues f hMem with ⟨i, hRead⟩
        rw [hRead] at hError
        cases hError
      rw [checkDocument_of_readAs engine _ tool words
        (Document.readAs_identity hPlain hText),
        AnnotatedText.plainText_identity, hSettles,
        readAnswer, readFindings_of_readable _ hReadable]
      rfl

end ProseCheck

------------------------------------------------------------
-- Words Left Out
------------------------------------------------------------

namespace ProseCheck

/-
  Whether reports on plain texts leave a word out: whenever a
  tool gives well-formed findings, at once or after failures
  that pass, there is a report on the document, and none of
  its issues is about the word.
-/
def IsLeftOut
    (extra : List String)
    (w : String) : Prop :=
  ∀ (τ : Type) (engine : Engine τ) (tool : τ)
    (jitter : Nat → Binary64) (document : Document)
    (findings : List Finding),
    declaredContent (.str document.languageId) =
        .ok .plainText →
      Settles engine.check document.text tool
          (.ok findings) →
        (∀ f ∈ findings, ∃ i, Issue.ofFinding f = .ok i) →
          ∃ report,
            (checkDocument engine (.standard jitter) tool
                document extra).value.1 = .ok report ∧
              ∀ i ∈ report.issues,
                (i.matched
                  report.annotated.plainText).strip.asString ≠
                    w

/- A word to ignore that is covered is left out. -/
theorem IsCovered.isLeftOut
    {extra : List String}
    {w : String}
    (hMem : w ∈ defaultIgnoredWords ++ extra)
    (hText : w ≠ "")
    (hCovered : IsCovered (defaultIgnoredWords ++ extra) w) :
    IsLeftOut extra w := by
  intro τ engine tool jitter document findings hPlain
    hSettles hIssues
  refine ⟨_, checkDocument_plainText jitter extra hPlain
    hSettles hIssues, ?_⟩
  dsimp only
  intro i hIssue hSame
  rw [AnnotatedText.plainText_identity] at hSame
  split at hIssue
  · cases hIssue
  · have hKept := (List.mem_filter.mp hIssue).2
    rw [(isIgnored_iff_isCovered hMem hText hSame).mpr
      hCovered] at hKept
    cases hKept

end ProseCheck

------------------------------------------------------------
-- Words Reported
------------------------------------------------------------

namespace ProseCheck

/- A document whose whole text is one word. -/
def Document.ofWord
    (w : String) : Document :=
  ⟨"file:///word.txt", none, Text.ofString w, "plaintext"⟩

variable {w : String}

/- A document that is one word is a plain text. -/
theorem Document.ofWord_isPlain :
    declaredContent (.str (ofWord w).languageId) =
      .ok .plainText := by
  change declaredContent (.str "plaintext") = _
  decide

/- The finding of a whole word is an issue. -/
theorem ofFinding_whole :
    Issue.ofFinding (.between 0 w.length) =
      .ok (.bare 0 w.length) := by
  have hWhole := Issue.ofFinding_between 0 w.length
  rw [Nat.zero_add] at hWhole
  exact hWhole

/- So a tool that finds it gives nothing but issues. -/
theorem ofFinding_whole_of_mem :
    ∀ f ∈ [Finding.between 0 w.length],
      ∃ i, Issue.ofFinding f = .ok i := by
  intro f hMem
  rw [List.mem_singleton.mp hMem]
  exact ⟨_, ofFinding_whole⟩

/- The issue is about the whole word. -/
theorem matched_whole :
    (Issue.bare 0 w.length).matched (Text.ofString w) =
      Text.ofString w := by
  change ((Text.ofString w).take w.length).drop 0 = _
  rw [List.drop_zero]
  exact List.take_of_length_le (Nat.le_of_eq rfl)

/-
  A tool that finds a whole word has it reported, unless the
  word is ignored.
-/
theorem checkDocument_ofWord
    (jitter : Nat → Binary64)
    {extra : List String}
    (hStrip : strip w = w)
    (hText : w ≠ "")
    (hWord :
      isIgnored (ignoredWords extra) (Text.ofString w) =
        false) :
    (checkDocument (.answering [.between 0 w.length])
      (.standard jitter) () (.ofWord w) extra).value.1 =
        .ok ⟨.ofWord w, .identity (Text.ofString w),
          [.bare 0 w.length]⟩ := by
  have hShown :
      (Document.ofWord w).text.strip.isEmpty = false := by
    change (Text.ofString w).strip.isEmpty = false
    rw [strip_ofString hStrip]
    exact isEmpty_ofString hText
  rw [checkDocument_plainText jitter extra
    Document.ofWord_isPlain (settles_answering _ _)
    ofFinding_whole_of_mem, hShown,
    if_neg Bool.false_ne_true]
  dsimp only [Document.ofWord]
  simp only [List.filterMap_cons, List.filterMap_nil,
    ofFinding_whole, Except.toOption, keepIssues,
    List.filter_cons, List.filter_nil, matched_whole, hWord,
    Bool.not_false, if_true]

/- So a word that is left out is ignored. -/
theorem IsLeftOut.isIgnored
    {extra : List String}
    (hStrip : strip w = w)
    (hText : w ≠ "")
    (hLeftOut : IsLeftOut extra w) :
    isIgnored (ignoredWords extra) (Text.ofString w) =
      true := by
  rw [← Bool.not_eq_false]
  intro hWord
  rcases hLeftOut Unit _ () (fun _ => Binary64.ofNat 1) _ _
    Document.ofWord_isPlain (settles_answering _ _)
    ofFinding_whole_of_mem with ⟨report, hReport, hNone⟩
  rw [checkDocument_ofWord _ hStrip hText hWord] at hReport
  cases hReport
  apply hNone (.bare 0 w.length)
  · exact List.mem_singleton_self _
  · dsimp only
    rw [AnnotatedText.plainText_identity, matched_whole]
    exact hStrip

/-
  Of the words to ignore, exactly those that are covered are
  left out of the reports on plain texts.
-/
theorem isLeftOut_iff_isCovered
    (extra : List String)
    (hTidy : ∀ w ∈ extra, strip w = w ∧ w ≠ "") :
    ∀ w ∈ defaultIgnoredWords ++ extra,
      IsLeftOut extra w ↔
        IsCovered (defaultIgnoredWords ++ extra) w := by
  intro w hMem
  have hWord : strip w = w ∧ w ≠ "" := by
    rcases List.mem_append.mp hMem with hDefault | hExtra
    · simp only [defaultIgnoredWords, List.mem_cons,
        List.not_mem_nil, or_false] at hDefault
      rcases hDefault with rfl | rfl
      · decide
      · decide
    · exact hTidy w hExtra
  rcases hWord with ⟨hStrip, hText⟩
  constructor
  · intro hLeftOut
    exact (isIgnored_iff_isCovered hMem hText hStrip).mp
      (hLeftOut.isIgnored hStrip hText)
  · intro hCovered
    exact hCovered.isLeftOut hMem hText

/-
  A name, an acronym, and a word in mixed letters and digits
  are left out.
-/
theorem isLeftOut_iff_isCovered_names :
    let extra := ["Kubernetes", "CPU", "Log4j"]
    (∀ w ∈ extra, strip w = w ∧ w ≠ "") ∧
      ∀ w ∈ defaultIgnoredWords ++ extra,
        IsLeftOut extra w := by
  intro extra
  have hTidy : ∀ w ∈ extra, strip w = w ∧ w ≠ "" := by
    decide
  have hCovered :
      ∀ w ∈ defaultIgnoredWords ++ extra,
        IsCovered (defaultIgnoredWords ++ extra) w := by
    decide
  refine ⟨hTidy, ?_⟩
  intro w hMem
  exact (isLeftOut_iff_isCovered extra hTidy w hMem).mpr
    (hCovered w hMem)

/-
  An acronym with digits is reported although it is a word to
  ignore: of its text, only the letters are looked up.
-/
theorem checkDocument_ignored_digits :
    let w := "COVID-19"
    let issue := Issue.bare 0 w.length
    strip w = w ∧
      w ∈ defaultIgnoredWords ++ [w] ∧
      (checkDocument (.answering [.between 0 w.length])
          (.standard (fun _ => Binary64.ofNat 1)) ()
          (.ofWord w) [w]).value.1 =
        .ok ⟨.ofWord w, .identity (Text.ofString w),
          [issue]⟩ ∧
      (issue.matched
        (AnnotatedText.identity
          (Text.ofString w)).plainText).strip.asString = w := by
  intro w issue
  have hStrip : strip w = w := by decide
  have hWord :
      isIgnored (ignoredWords [w]) (Text.ofString w) =
        false := by
    decide
  refine ⟨hStrip, by simp, ?_, ?_⟩
  · exact checkDocument_ofWord _ hStrip (by decide) hWord
  · rw [AnnotatedText.plainText_identity, matched_whole]
    exact hStrip

end ProseCheck
