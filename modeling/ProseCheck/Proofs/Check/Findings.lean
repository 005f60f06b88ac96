import ProseCheck.Proofs.Check.Diagnosis
import ProseCheck.Proofs.Text.Trim

/-
  This file says that findings are dealt with one by one.  A
  finding gives one diagnostic, or none if it is malformed,
  is about a word to ignore, or reaches beyond the text.  The
  diagnostics of a document are those of its findings, one
  after the other.

  There is an exception: a finding that lies beyond the text
  at an offset of very many digits cannot be reported, and
  then there are no diagnostics at all.

  Main declarations:
    * `Finding.Counts`
    * `Finding.diagnostics`
    * `Document.DiagnosedFor`
    * `diagnose_findings`
-/

------------------------------------------------------------
-- Findings One by One
------------------------------------------------------------

namespace ProseCheck

namespace Finding

/-
  Whether a finding counts: it is an issue, it is not about a
  word to ignore, and it does not reach beyond the text.
-/
def Counts
    (words : List String)
    (plain : Text)
    (f : Finding) : Prop :=
  ∃ i, Issue.ofFinding f = .ok i ∧
    isIgnored (ignoredWords words) (i.matched plain) = false ∧
    i.stop ≤ plain.length

/- The diagnostics of a finding: one, or none. -/
def diagnostics
    (words : List String)
    (a : AnnotatedText)
    (p : PositionTable)
    (f : Finding) : List Diagnostic :=
  match Issue.ofFinding f with
  | .ok i =>
      if isIgnored (ignoredWords words)
          (i.matched a.plainText) then
        []
      else
        (toDiagnostic i a p).toOption.toList
  | .error _ => []

end Finding

variable
  {words : List String}
  {a : AnnotatedText}
  {p : PositionTable}

/- An issue that is read does not end before it starts. -/
theorem Issue.start_le_stop_of_ofFinding
    {f : Finding}
    {i : Issue}
    (hRead : ofFinding f = .ok i) :
    i.start ≤ i.stop := by
  unfold ofFinding at hRead
  split at hRead
  · cases hRead
  · rename_i fields _
    cases hFields : ofFields fields with
    | ok j =>
        rw [hFields] at hRead
        cases hRead
        exact start_le_stop_of_ofFields hFields
    | error errors =>
        rw [hFields] at hRead
        cases hRead

/- An issue that reaches beyond the text has no diagnostic. -/
theorem toDiagnostic_of_lt
    {i : Issue}
    (hStop : a.plainText.length < i.stop) :
    (toDiagnostic i a p).toOption = none := by
  have hBeyond :
      i.firstBeyond? a.plainText.length ≠ none := by
    intro hNone
    exact Nat.not_le.mpr hStop
      (Issue.firstBeyond?_eq_none_iff.mp hNone).2
  rcases Option.ne_none_iff_exists'.mp hBeyond with ⟨n, hN⟩
  rw [toDiagnostic, (Issue.sourceSpan_of_beyond hN).2]
  rfl

/-
  In a covering text, an issue that can be reported has its
  diagnostic, or none.
-/
theorem value_diagnosticsOf_of_reportable
    (hCovers : a.Covers p.text.length)
    {i : Issue}
    (hReportable : i.IsReportable a.plainText) :
    (diagnosticsOf a p i).value =
      .ok (toDiagnostic i a p).toOption.toList := by
  rcases (diagnosticsOf_ok_iff hCovers i).mpr hReportable with
    ⟨ds, hOk⟩
  unfold diagnosticsOf at hOk ⊢
  cases hDiagnostic : toDiagnostic i a p with
  | ok d => rfl
  | error e =>
      cases e with
      | outOfRange e => rfl
      | unwritable =>
          rw [hDiagnostic] at hOk
          cases hOk

namespace Finding

variable {f : Finding}

/- A finding that counts lies in the text. -/
theorem Counts.isReportable
    {plain : Text}
    (hCounts : f.Counts words plain) :
    f.IsReportable words plain := by
  rcases hCounts with ⟨i, hRead, _, hStop⟩
  intro j hOther _
  cases hRead.symm.trans hOther
  exact Issue.isReportable_of_le
    (Nat.le_trans (Issue.start_le_stop_of_ofFinding hRead)
      hStop)
    hStop

/- A finding that counts has one diagnostic. -/
theorem Counts.diagnostics_eq
    (hCounts : f.Counts words a.plainText)
    (hCovers : a.Covers p.text.length) :
    ∃ d, f.diagnostics words a p = [d] := by
  rcases hCounts with ⟨i, hRead, hWord, hStop⟩
  have hStart := Issue.start_le_stop_of_ofFinding hRead
  rcases exists_diagnostic_of_covers p hCovers
    (Nat.le_trans hStart hStop) hStop with
    ⟨_, _, _, _, _, _, hDiagnostic⟩
  rw [diagnostics, hRead]
  dsimp only
  rw [hWord, if_neg Bool.false_ne_true, hDiagnostic]
  exact ⟨_, rfl⟩

/- A finding that does not count has none. -/
theorem diagnostics_of_not_counts
    (hCounts : ¬ f.Counts words a.plainText) :
    f.diagnostics words a p = [] := by
  unfold diagnostics
  split
  · rename_i i hRead
    split
    · rfl
    · rename_i hWord
      rw [toDiagnostic_of_lt]
      · rfl
      rw [← Nat.not_le]
      intro hStop
      apply hCounts
      exact ⟨i, hRead, Bool.not_eq_true _ ▸ hWord, hStop⟩
  · rfl

/- A finding of few digits can be reported. -/
theorem between_isReportable
    (offset length : Nat)
    {digits : Nat}
    (hLt : offset + length < Nat.pow 10 digits)
    (hFew : digits ≤ digitLimit)
    (words : List String)
    (plain : Text) :
    (between offset length).IsReportable words plain := by
  intro i hRead _
  rw [Issue.ofFinding_between] at hRead
  cases hRead
  have hStop : IsWritable (offset + length : Nat) :=
    isWritable_of_lt_pow hLt hFew
  exact Issue.isReportable_of_writable
    (hStop.of_le (Nat.le_add_right offset length)) hStop plain

/-
  A finding with an end that cannot be written cannot be
  reported if all that follows its start is no word to ignore.
-/
theorem not_isReportable_of_long
    {plain : Text}
    {start stop : Nat}
    (hRead : Issue.ofFinding f = .ok (.bare start stop))
    (hLong : ¬ IsWritable stop)
    (hText : IsWritable plain.length)
    (hStart : start ≤ plain.length)
    (hWord :
      isIgnored (ignoredWords words) (plain.drop start) =
        false) :
    ¬ f.IsReportable words plain := by
  have hFar : plain.length < stop := by
    rw [← Nat.not_le]
    intro hLe
    exact hLong (hText.of_le hLe)
  have hMatched :
      (Issue.bare start stop).matched plain =
        plain.drop start := by
    change (plain.take stop).drop start = _
    rw [List.take_of_length_le (Nat.le_of_lt hFar)]
  have hBeyond :
      (Issue.bare start stop).firstBeyond? plain.length =
        some stop :=
    (if_neg (Nat.not_lt.mpr hStart)).trans (if_pos hFar)
  intro hAll
  rw [← hMatched] at hWord
  exact hLong (hAll _ hRead hWord stop hBeyond)

end Finding

/- The issues that are kept have the findings' diagnostics. -/
theorem value_buildDiagnostics_keptIssues
    (hCovers : a.Covers p.text.length)
    {findings : List Finding}
    (hReportable :
      ∀ f ∈ findings, f.IsReportable words a.plainText) :
    (buildDiagnostics a p
      (keptIssues words a.plainText findings)).value =
        .ok (findings.flatMap
          (Finding.diagnostics words a p)) := by
  have hEach :
      ∀ i ∈ keptIssues words a.plainText findings,
        (diagnosticsOf a p i).value =
          .ok (toDiagnostic i a p).toOption.toList := by
    intro i hMem
    rcases mem_keptIssues.mp hMem with
      ⟨f, hFinding, hRead, hWord⟩
    exact value_diagnosticsOf_of_reportable hCovers
      (hReportable f hFinding i hRead hWord)
  rw [value_buildDiagnostics hEach]
  clear hEach hReportable
  induction findings with
  | nil => rfl
  | cons f fs ih =>
      rw [List.flatMap_cons, ← Except.ok.inj ih,
        Finding.diagnostics, keptIssues, keptIssues,
        keepIssues, keepIssues, List.filterMap_cons]
      cases Issue.ofFinding f with
      | error e => rfl
      | ok i =>
          dsimp only [Except.toOption]
          rw [List.filter_cons]
          cases isIgnored (ignoredWords words)
              (i.matched a.plainText) with
          | true => rfl
          | false => rfl

end ProseCheck

------------------------------------------------------------
-- Long Numerals
------------------------------------------------------------

namespace ProseCheck

/- A numeral of nothing but nines. -/
def nines
    (n : Nat) : Text :=
  List.replicate n '9'

/- Each nine goes on with the number before it. -/
theorem numeralFrom_nines_succ
    (value n : Nat) :
    numeralFrom value (nines (n + 1)) =
      numeralFrom (10 * value + 9) (nines n) := by
  cases n with
  | zero => rfl
  | succ n => rfl

/- Nines make up one less than a power of ten. -/
theorem numeralFrom_nines
    (value n : Nat) :
    numeralFrom value (nines n) =
      some ((value + 1) * Nat.pow 10 n - 1) := by
  induction n generalizing value with
  | zero => simp [nines, numeralFrom]
  | succ n ih =>
      have hTen : 10 * value + 9 + 1 = (value + 1) * 10 := by
        omega
      have hPow :
          Nat.pow 10 (n + 1) = 10 * Nat.pow 10 n :=
        Nat.pow_succ'
      rw [numeralFrom_nines_succ, ih, hTen, Nat.mul_assoc,
        hPow]

/- There is no white space around nines. -/
theorem trim_nines
    (n : Nat) :
    (nines n).trim isWhiteSpace = nines n := by
  have hNine : isWhiteSpace '9' = false := by decide
  apply Text.trim_eq_self_iff.mpr
  constructor
  · intro c hMem
    rw [List.eq_of_mem_replicate (List.mem_of_head? hMem)]
    exact hNine
  · intro c hMem
    rw [List.eq_of_mem_replicate (List.mem_of_getLast? hMem)]
    exact hNine

/- Nines are too many digits only beyond the limit. -/
theorem excessDigits?_nines
    {n : Nat}
    (hLimit : n + 1 ≤ digitLimit) :
    excessDigits? (nines (n + 1)) = none := by
  have hDigits :
      (nines (n + 1)).takeWhile
        (fun c => (digitValue? c).isSome || c == '_') =
          nines (n + 1) := by
    rw [List.takeWhile_eq_self_iff]
    intro c hMem
    rw [List.eq_of_mem_replicate hMem]
    decide
  have hCount :
      (nines (n + 1)).countP (· != '_') ≤ n + 1 :=
    Nat.le_trans List.countP_le_length
      (Nat.le_of_eq List.length_replicate)
  have hSign :
      afterSign (nines (n + 1)) = nines (n + 1) := rfl
  unfold excessDigits?
  rw [trim_nines, hSign, hDigits]
  apply if_neg
  rintro ⟨_, hMany⟩
  exact Nat.not_le.mpr hMany (Nat.le_trans hCount hLimit)

/- Nines are the numeral of a number, if not too many. -/
theorem numeral?_nines
    {n : Nat}
    (hSome : 0 < n)
    (hLimit : n ≤ digitLimit) :
    numeral? (nines n) =
      some ((Nat.pow 10 n - 1 : Nat) : Int) := by
  obtain ⟨n, rfl⟩ := Nat.exists_eq_add_one.mpr hSome
  have hRead :
      signedNumeral? (nines (n + 1)) =
        (numeralFrom 9 (nines n)).map Int.ofNat := rfl
  have hPow :
      Nat.pow 10 (n + 1) = 10 * Nat.pow 10 n :=
    Nat.pow_succ'
  rw [numeral?, excessDigits?_nines hLimit, trim_nines]
  dsimp only
  rw [hRead, numeralFrom_nines, hPow]
  rfl

/-
  A finding at the second character of a text, with a length
  that is spelled as nines.
-/
def Finding.spelled
    (n : Nat) : Finding :=
  ⟨[("offset", .int 1),
    ("errorLength", .str (nines n).asString)]⟩

/- A length that is spelled is no infinite number. -/
theorem Finding.spelled_isFinite
    (n : Nat) :
    (spelled n).IsFinite := by
  intro a hMem negative hSame
  simp only [spelled, List.mem_cons, List.not_mem_nil,
    or_false] at hMem
  rcases hMem with rfl | rfl
  · cases hSame
  · cases hSame

/- It is about an issue that ends at a power of ten. -/
theorem ofFinding_spelled
    {n : Nat}
    (hSome : 0 < n)
    (hLimit : n ≤ digitLimit) :
    Issue.ofFinding (.spelled n) =
      .ok (.bare 1 (Nat.pow 10 n)) := by
  have hText : (nines n).asString.isEmpty = false := by
    rw [String.isEmpty_eq_false_iff]
    intro hEmpty
    have hNil := congrArg String.toList hEmpty
    rw [Text.asString, String.toList_ofList] at hNil
    rw [(List.replicate_eq_nil_iff _).mp hNil] at hSome
    exact Nat.lt_irrefl 0 hSome
  have hNumeral :
      numeral? (Text.ofString (nines n).asString) =
        some ((Nat.pow 10 n - 1 : Nat) : Int) := by
    rw [Text.ofString, Text.asString, String.toList_ofList]
    exact numeral?_nines hSome hLimit
  have hExtent :
      ((Json.str (nines n).asString).orElse
        (.int 0)).toInteger =
          .ok ((Nat.pow 10 n - 1 : Nat) : Int) := by
    rw [Json.orElse, Json.isEmpty, hText,
      if_neg Bool.false_ne_true, Json.toInteger, hNumeral]
  have hStop : 1 + (Nat.pow 10 n - 1) = Nat.pow 10 n :=
    Nat.add_sub_of_le (Nat.one_le_pow n 10 (by decide))
  have hIssue :=
    Issue.ofFinding_of_place (Json.toInteger_orElse_int 1)
      hExtent
  rw [hStop] at hIssue
  exact hIssue

/- The end of the issue may be one digit too long. -/
theorem not_isWritable_limit :
    ¬ IsWritable (Nat.pow 10 digitLimit) := by
  rw [IsWritable, Int.natAbs_natCast]
  exact Nat.lt_irrefl _

end ProseCheck

------------------------------------------------------------
-- Documents
------------------------------------------------------------

namespace ProseCheck

variable
  {document : Document}
  {annotated : AnnotatedText}

/-
  Something comes of a document whenever a tool gives some
  findings for it, at once or after failures that pass.
-/
def Document.DiagnosedFor
    (document : Document)
    (annotated : AnnotatedText)
    (words : List String)
    (encoding : Encoding)
    (findings : List Finding)
    (r : Except CheckError (List Diagnostic)) : Prop :=
  ∀ (τ : Type) (engine : Engine τ) (tool : τ)
    (jitter : Nat → Binary64),
    Settles engine.check annotated.plainText tool
      (.ok findings) →
        (diagnose engine (.standard jitter) (some tool)
          document words encoding).value.1 = r

/-
  Finite findings that can all be reported give their own
  diagnostics, and no other.
-/
theorem diagnosedFor_of_reportable
    (hScheme : document.hasSupportedScheme = true)
    (hRead : document.ReadAs annotated)
    (encoding : Encoding)
    {findings : List Finding}
    (hFinite : ∀ f ∈ findings, f.IsFinite)
    (hReportable :
      ∀ f ∈ findings,
        f.IsReportable words annotated.plainText) :
    document.DiagnosedFor annotated words encoding findings
      (.ok (findings.flatMap
        (Finding.diagnostics words annotated
          ⟨document.text, false, encoding⟩))) := by
  intro τ engine tool jitter hSettles
  rw [diagnose_of_readable engine tool words jitter encoding
      hScheme hRead hSettles
      (fun f hMem => (hFinite f hMem).isReadable),
    value_buildDiagnostics_keptIssues hRead.covers
      hReportable]
  rfl

/- One finding that cannot be reported spoils all of them. -/
theorem diagnosedFor_of_not_reportable
    (hScheme : document.hasSupportedScheme = true)
    (hRead : document.ReadAs annotated)
    (encoding : Encoding)
    {findings : List Finding}
    (hFinite : ∀ f ∈ findings, f.IsFinite)
    (hLong :
      ∃ f ∈ findings,
        ¬ f.IsReportable words annotated.plainText) :
    document.DiagnosedFor annotated words encoding findings
      (.error (.place .unwritable)) := by
  rcases hLong with ⟨f, hMem, hNot⟩
  intro τ engine tool jitter hSettles
  rw [diagnose_of_readable engine tool words jitter encoding
      hScheme hRead hSettles
      (fun f hMem => (hFinite f hMem).isReadable),
    buildDiagnostics_eq_error]
  · rfl
  intro hBuilt
  exact hNot
    ((buildDiagnostics_keptIssues_ok_iff hRead.covers words
      findings).mp hBuilt f hMem)

/-
  A document whose text is not blank is diagnosed with what
  each of the findings gives alone, in their order.  Alone, a
  finding gives one diagnostic if it counts, and else none.
  This is so exactly if each of the findings can be reported
  where it lies beyond the text.  If there is one that cannot,
  the document is not diagnosed, and an error is passed on.
-/
theorem diagnose_findings
    (hScheme : document.hasSupportedScheme = true)
    (hRead : document.ReadAs annotated)
    (words : List String)
    (encoding : Encoding)
    {findings : List Finding}
    (hFinite : ∀ f ∈ findings, f.IsFinite) :
    let plain := annotated.plainText
    ∃ alone : Finding → List Diagnostic,
      (∀ f ∈ findings,
        (f.IsReportable words plain →
            document.DiagnosedFor annotated words encoding
              [f] (.ok (alone f))) ∧
          (f.Counts words plain →
            f.IsReportable words plain ∧
              ∃ d, alone f = [d]) ∧
          (¬ f.Counts words plain → alone f = [])) ∧
        ((∀ f ∈ findings, f.IsReportable words plain) →
          document.DiagnosedFor annotated words encoding
            findings (.ok (findings.flatMap alone))) ∧
        ((∃ f ∈ findings, ¬ f.IsReportable words plain) →
          document.DiagnosedFor annotated words encoding
            findings (.error (.place .unwritable))) := by
  intro plain
  refine ⟨Finding.diagnostics words annotated
    ⟨document.text, false, encoding⟩, ?_,
    diagnosedFor_of_reportable hScheme hRead encoding hFinite,
    diagnosedFor_of_not_reportable hScheme hRead encoding
      hFinite⟩
  intro f hMem
  refine ⟨?_, ?_, Finding.diagnostics_of_not_counts⟩
  · intro hReportable
    rw [← List.flatMap_singleton (Finding.diagnostics _ _ _)]
    apply diagnosedFor_of_reportable hScheme hRead
    · intro g hOne
      rw [List.mem_singleton.mp hOne]
      exact hFinite f hMem
    · intro g hOne
      rw [List.mem_singleton.mp hOne]
      exact hReportable
  · intro hCounts
    exact ⟨hCounts.isReportable,
      hCounts.diagnostics_eq hRead.covers⟩

/-
  Two words, and four findings about them: one that starts
  nowhere, one about each of the words, and one that reaches
  beyond the text.  The second word is always ignored.
-/
theorem diagnose_findings_words :
    let document : Document :=
      ⟨"file:///a", some 1, "teh Markdown".toList, "text"⟩
    let annotated := AnnotatedText.identity document.text
    let plain := annotated.plainText
    let findings : List Finding :=
      [.between (-1) 3, .between 0 3, .between 4 8,
        .between 4 20]
    document.hasSupportedScheme = true ∧
      document.ReadAs annotated ∧
      (∀ f ∈ findings, f.IsFinite) ∧
      ∃ alone : Finding → List Diagnostic,
        (∀ f ∈ findings,
          document.DiagnosedFor annotated [] .utf16 [f]
              (.ok (alone f)) ∧
            (f.Counts [] plain → ∃ d, alone f = [d]) ∧
            (¬ f.Counts [] plain → alone f = [])) ∧
          document.DiagnosedFor annotated [] .utf16
            findings (.ok (findings.flatMap alone)) := by
  intro document annotated plain findings
  have hScheme : document.hasSupportedScheme = true := by
    decide
  have hRead : document.ReadAs annotated :=
    { selected := by
        dsimp only [document, annotated]
        rfl
      notBlank := by decide }
  have hFinite : ∀ f ∈ findings, f.IsFinite := by
    intro f hMem
    simp only [findings, List.mem_cons, List.not_mem_nil,
      or_false] at hMem
    rcases hMem with rfl | rfl | rfl | rfl
    all_goals exact Finding.between_isFinite _ _
  have hReportable :
      ∀ f ∈ findings, f.IsReportable [] plain := by
    intro f hMem
    simp only [findings, List.mem_cons, List.not_mem_nil,
      or_false] at hMem
    rcases hMem with rfl | rfl | rfl | rfl
    · intro i hIssue
      cases hIssue
    · exact Finding.between_isReportable 0 3
        (by decide : 3 < Nat.pow 10 2) (by decide) _ _
    · exact Finding.between_isReportable 4 8
        (by decide : 12 < Nat.pow 10 2) (by decide) _ _
    · exact Finding.between_isReportable 4 20
        (by decide : 24 < Nat.pow 10 2) (by decide) _ _
  rcases diagnose_findings hScheme hRead [] .utf16 hFinite
    with ⟨alone, hAlone, hAll, _⟩
  refine ⟨hScheme, hRead, hFinite, alone, ?_,
    hAll hReportable⟩
  intro f hMem
  rcases hAlone f hMem with ⟨hOne, hCounts, hNone⟩
  exact ⟨hOne (hReportable f hMem),
    fun hHere => (hCounts hHere).2, hNone⟩

/-
  A finding about the first of two words, and one that ends
  far beyond them.  The first one alone has a diagnostic.
  With the second one, there are none.
-/
theorem diagnose_findings_far :
    let annotated := AnnotatedText.identity typoLine.text
    let near := Finding.between 0 3
    let far := Finding.spelled digitLimit
    typoLine.hasSupportedScheme = true ∧
      typoLine.ReadAs annotated ∧
      (∀ f ∈ [near, far], f.IsFinite) ∧
      (∃ d, typoLine.DiagnosedFor annotated [] .utf16 [near]
        (.ok [d])) ∧
      (diagnose (Engine.answering [near, far])
        (.standard (fun _ => Binary64.ofNat 1)) (some ())
        typoLine [] .utf16).value.1 =
          .error (.place .unwritable) := by
  intro annotated near far
  have hScheme : typoLine.hasSupportedScheme = true := by
    decide
  have hNear : near.IsFinite := Finding.between_isFinite 0 3
  have hFinite : ∀ f ∈ [near, far], f.IsFinite := by
    intro f hMem
    rcases List.mem_cons.mp hMem with rfl | hLast
    · exact hNear
    · rw [List.mem_singleton.mp hLast]
      exact Finding.spelled_isFinite digitLimit
  refine ⟨hScheme, typoLine_readAs, hFinite, ?_, ?_⟩
  · have hCounts : near.Counts [] annotated.plainText :=
      ⟨_, Issue.ofFinding_between 0 3, by decide, by decide⟩
    rcases hCounts.diagnostics_eq
      (p := ⟨typoLine.text, false, .utf16⟩)
      typoLine_readAs.covers with ⟨d, hD⟩
    refine ⟨d, ?_⟩
    rw [← hD, ← List.flatMap_singleton
      (Finding.diagnostics _ _ _)]
    apply diagnosedFor_of_reportable hScheme typoLine_readAs
    · intro f hMem
      rw [List.mem_singleton.mp hMem]
      exact hNear
    · intro f hMem
      rw [List.mem_singleton.mp hMem]
      exact hCounts.isReportable
  · have hLong : ¬ far.IsReportable [] annotated.plainText :=
      Finding.not_isReportable_of_long
        (ofFinding_spelled (by decide) (Nat.le_refl _))
        not_isWritable_limit
        (isWritable_of_lt_ten (by decide)) (by decide)
        (by decide)
    exact diagnosedFor_of_not_reportable hScheme
      typoLine_readAs .utf16 hFinite ⟨far, by simp, hLong⟩
      Unit _ () _ (settles_answering _ _)

end ProseCheck
