import ProseCheck.Proofs.Check.Diagnosis
import ProseCheck.Proofs.Server.Workspace
import ProseCheck.Server.Basic

/-
  This file follows the diagnostics that a server publishes.
  With an engine that does what it is expected to do, a check
  gives diagnostics, leaves the tool as it was, and publishes
  nothing by itself; a document that is published has the
  diagnostics of this check.

  Of several addresses, those are published that come before
  the first one that nothing can be looked up at.

  Main declarations:
    * `publications`
    * `lastPublished`
    * `Setting.Steady`
    * `Server.view`
    * `Server.expected`
    * `Server.announced`
    * `Server.publishIssues_steady`
    * `Server.publishAll_steady`
-/

------------------------------------------------------------
-- Published Lists
------------------------------------------------------------

namespace ProseCheck

/- The address and the list of an effect that publishes one. -/
def Effect.publication? :
    Effect → Option (String × List Diagnostic)
  | .publish uri ds => some (uri, ds)
  | _ => none

/- The lists that are published, in their order. -/
def publications
    (es : List Effect) : List (String × List Diagnostic) :=
  es.filterMap Effect.publication?

/- The list that was published last for an address. -/
def lastPublished
    (uri : String)
    (es : List Effect) : Option (List Diagnostic) :=
  (publications es).reverse.lookup uri

@[simp]
theorem publications_nil : publications [] = [] := rfl

@[simp]
theorem publications_append
    (es fs : List Effect) :
    publications (es ++ fs) =
      publications es ++ publications fs :=
  List.filterMap_append

/- What was published last was published. -/
theorem mem_publications_of_lastPublished
    {uri : String}
    {es : List Effect}
    {ds : List Diagnostic}
    (hLast : lastPublished uri es = some ds) :
    (uri, ds) ∈ publications es := by
  rcases List.lookup_eq_some_iff.mp hLast with
    ⟨before, after, hSplit, _⟩
  rw [← List.mem_reverse, hSplit]
  simp

/- What is published later counts. -/
theorem lastPublished_append
    (uri : String)
    (es fs : List Effect) :
    lastPublished uri (es ++ fs) =
      (lastPublished uri fs).or (lastPublished uri es) := by
  rw [lastPublished, publications_append, List.reverse_append,
    List.lookup_append]
  rfl

/-
  What stands published for an address is something that was
  published later, if there is anything, and else what stood
  there before.
-/
theorem lastPublished_append_cases
    (uri : String)
    (es fs : List Effect) :
    (∃ ds, (uri, ds) ∈ publications fs ∧
        lastPublished uri (es ++ fs) = some ds) ∨
      ((∀ ds, (uri, ds) ∉ publications fs) ∧
        lastPublished uri (es ++ fs) =
          lastPublished uri es) := by
  rw [lastPublished_append]
  cases hLater : lastPublished uri fs with
  | some ds =>
      exact Or.inl
        ⟨ds, mem_publications_of_lastPublished hLater, rfl⟩
  | none =>
      refine Or.inr ⟨?_, rfl⟩
      intro ds hMem
      have hOther := List.lookup_eq_none_iff.mp hLater
        (uri, ds) (List.mem_reverse.mpr hMem)
      simp at hOther

/- Nothing changes while nothing is published. -/
theorem lastPublished_append_of_nil
    {fs : List Effect}
    (hNone : publications fs = [])
    (uri : String)
    (es : List Effect) :
    lastPublished uri (es ++ fs) = lastPublished uri es := by
  rw [lastPublished_append, lastPublished, hNone]
  rfl

/- A single list that is published is seen where it is. -/
theorem lastPublished_append_of_singleton
    {fs : List Effect}
    {uri : String}
    {ds : List Diagnostic}
    (hOne : publications fs = [(uri, ds)])
    (es : List Effect) :
    lastPublished uri (es ++ fs) = some ds := by
  rw [lastPublished_append, lastPublished, hOne]
  simp

/- Writing to the log publishes nothing. -/
@[simp]
theorem publications_map_log
    (records : List LogRecord) :
    publications (records.map Effect.log) = [] := by
  rw [publications, List.filterMap_map,
    List.filterMap_eq_nil_iff]
  intro record _
  rfl

end ProseCheck

------------------------------------------------------------
-- Quiet Steps
------------------------------------------------------------

namespace ProseCheck

variable {α β : Type}

/- A value comes about, and nothing is published on the way. -/
def Recorded.Quietly
    (x : Recorded Effect α)
    (a : α) : Prop :=
  x.value = a ∧ publications x.entries = []

/- A value that is there already comes about quietly. -/
theorem quietly_pure
    (a : α) :
    (pure a : Recorded Effect α).Quietly a :=
  ⟨rfl, rfl⟩

/- Two quiet steps are a quiet step. -/
theorem Recorded.Quietly.bind
    {x : Recorded Effect α}
    {f : α → Recorded Effect β}
    {a : α}
    {b : β}
    (hFirst : x.Quietly a)
    (hRest : (f a).Quietly b) :
    (x >>= f).Quietly b := by
  rcases hFirst with ⟨hValue, hNone⟩
  rw [Quietly, value_bind, entries_bind, hValue,
    publications_append, hNone]
  exact hRest

/- Writing to the log is quiet. -/
theorem quietly_logged
    (x : Recorded LogRecord α) :
    x.logged.Quietly x.value :=
  ⟨rfl, publications_map_log x.entries⟩

/- A message for the log is quiet. -/
theorem quietly_message
    (level : LogLevel)
    (text : String) :
    (Recorded.add (.message level text)).Quietly () :=
  ⟨rfl, rfl⟩

end ProseCheck

------------------------------------------------------------
-- Steady Engines
------------------------------------------------------------

namespace ProseCheck

variable {τ : Type}

/-
  The engine does what is expected of it.  A check gives
  findings that can be read or are malformed, and that can be
  reported where they lie beyond the text, and it leaves the
  tool as it was.  A tool that cannot be created fails for
  its language or for a reason that may pass.  The pauses
  between checks are the usual ones.
-/
structure Setting.Steady
    (setting : Setting τ) : Prop where
  backoff : ∃ jitter, setting.backoff = .standard jitter
  check : ∀ state text, ∃ findings,
    setting.engine.check state text = (.ok findings, state) ∧
      ∀ f ∈ findings, f.IsReadable ∧
        ∀ words, f.IsReportable words text
  create : ∀ serial request e,
    setting.engine.create serial request = .error e →
      e.kind.isA .value = true ∨ e.isTransient = true

/- A tool that works at once is asked only once. -/
theorem retry_of_ok
    {σ α β : Type}
    (jitter : Nat → Binary64)
    {f : σ → α → Except Failure β × σ}
    {s : σ}
    {arg : α}
    {b : β}
    (hOk : f s arg = (.ok b, s)) :
    retry (Backoff.standard jitter) f s arg =
      ⟨[.ok b], [], s⟩ := by
  rw [retry, if_neg (by simp [Backoff.standard])]
  change retryFrom _ f arg 0 2 s = _
  rw [retryFrom, hOk]

/- What is found in a plain text, without words to ignore. -/
theorem checkPlain_of_ok
    {engine : Engine τ}
    (jitter : Nat → Binary64)
    {state : τ}
    {plain : Text}
    {findings : List Finding}
    {issues : List Issue}
    (words : List String)
    (hCheck : engine.check state plain = (.ok findings, state))
    (hRead :
      (readFindings plain.length findings).value =
        .ok issues) :
    (checkPlain engine (.standard jitter) state plain
      words).Quietly
        (.ok (keepIssues (ignoredWords words) plain issues),
          state) := by
  rw [checkPlain, retry_of_ok jitter hCheck]
  refine Recorded.Quietly.bind (a := ()) ⟨rfl, rfl⟩ ?_
  refine (quietly_logged
    (readFindings plain.length findings)).bind ?_
  rw [hRead]
  exact quietly_pure _

/- What is found in a document that holds some text. -/
theorem checkDocument_of_ok
    {engine : Engine τ}
    {backoff : Backoff Binary64}
    {state : τ}
    {document : Document}
    {words : List String}
    {annotated : AnnotatedText}
    {issues : List Issue}
    (hSelect :
      selectText document.text document.languageId =
        .ok annotated)
    (hText : annotated.plainText.strip.isEmpty = false)
    (hPlain :
      (checkPlain engine backoff state annotated.plainText
        words).Quietly (.ok issues, state)) :
    (checkDocument engine backoff state document
      words).Quietly
        (.ok ⟨document, annotated, issues⟩, state) := by
  unfold checkDocument
  rw [hSelect]
  dsimp only
  rw [hText, if_neg Bool.false_ne_true]
  exact hPlain.bind (quietly_pure _)

/- A report gives the diagnostics of a document. -/
theorem diagnoseWith_of_report
    {engine : Engine τ}
    {backoff : Backoff Binary64}
    {state : τ}
    {document : Document}
    {words : List String}
    {encoding : Encoding}
    {report : Report}
    {ds : List Diagnostic}
    (hReport :
      (checkDocument engine backoff state document
        words).Quietly (.ok report, state))
    (hBuilt : (report.diagnostics encoding).value = .ok ds) :
    (diagnoseWith engine backoff state document words
      encoding).Quietly (.ok ds, state) := by
  unfold diagnoseWith
  apply hReport.bind
  apply (quietly_logged _).bind
  rw [hBuilt]
  exact quietly_pure _

namespace Setting

variable {setting : Setting τ}

/-
  A check of a plain text gives the issues of findings, and
  each of them can be reported.
-/
theorem Steady.checkPlain
    (hSteady : setting.Steady)
    (state : τ)
    (plain : Text)
    (words : List String) :
    ∃ findings,
      (ProseCheck.checkPlain setting.engine setting.backoff
        state plain words).Quietly
          (.ok (keptIssues words plain findings), state) ∧
        ∀ f ∈ findings, f.IsReportable words plain := by
  rcases hSteady.backoff with ⟨jitter, hBackoff⟩
  rcases hSteady.check state plain with
    ⟨findings, hCheck, hAll⟩
  have hRead :=
    readFindings_of_readable plain.length
      (fun f hMem => (hAll f hMem).1)
  rw [hBackoff]
  exact ⟨findings, checkPlain_of_ok jitter words hCheck hRead,
    fun f hMem => (hAll f hMem).2 words⟩

/-
  A check of a document reads no text, or gives a report that
  has diagnostics.
-/
theorem Steady.checkDocument
    (hSteady : setting.Steady)
    (state : τ)
    (document : Document)
    (words : List String)
    (encoding : Encoding) :
    (∃ e, (ProseCheck.checkDocument setting.engine
        setting.backoff state document words).Quietly
          (.error (.select e), state)) ∨
      ∃ report, (ProseCheck.checkDocument setting.engine
          setting.backoff state document words).Quietly
            (.ok report, state) ∧
        ∃ ds, (report.diagnostics encoding).value = .ok ds := by
  cases hSelect :
      selectText document.text document.languageId with
  | error e =>
      left
      refine ⟨e, ?_⟩
      unfold ProseCheck.checkDocument
      rw [hSelect]
      exact quietly_pure _
  | ok annotated =>
      right
      cases hText : annotated.plainText.strip.isEmpty with
      | true =>
          refine ⟨⟨document, annotated, []⟩, ?_, [], rfl⟩
          unfold ProseCheck.checkDocument
          rw [hSelect]
          dsimp only
          rw [if_pos hText]
          exact quietly_pure _
      | false =>
          rcases hSteady.checkPlain state annotated.plainText
            words with ⟨findings, hPlain, hReportable⟩
          have hRead : document.ReadAs annotated :=
            ⟨hSelect, hText⟩
          refine ⟨_, checkDocument_of_ok hSelect hText hPlain,
            ?_⟩
          exact (buildDiagnostics_keptIssues_ok_iff
            hRead.covers words findings).mpr hReportable

/- A document that a tool may check has diagnostics. -/
theorem Steady.diagnoseWith
    (hSteady : setting.Steady)
    (state : τ)
    (document : Document)
    (words : List String)
    (encoding : Encoding) :
    ∃ ds, (ProseCheck.diagnoseWith setting.engine
      setting.backoff state document words encoding).Quietly
        (.ok ds, state) := by
  rcases hSteady.checkDocument state document words encoding
    with ⟨e, hFail⟩ | ⟨report, hOk, ds, hBuilt⟩
  · unfold ProseCheck.diagnoseWith
    refine ⟨[], hFail.bind ?_⟩
    refine Recorded.Quietly.bind (a := .ok []) ?_
      (quietly_pure _)
    cases e with
    | unsupported language => exact quietly_pure _
    | malformed e => exact ⟨rfl, rfl⟩
  · exact ⟨ds, diagnoseWith_of_report hOk hBuilt⟩

/- Every document has diagnostics, and the tool is kept. -/
theorem Steady.diagnose
    (hSteady : setting.Steady)
    (tool : Option τ)
    (document : Document)
    (words : List String)
    (encoding : Encoding) :
    ∃ ds, (ProseCheck.diagnose setting.engine
      setting.backoff tool document words encoding).Quietly
        (.ok ds, tool) := by
  cases tool with
  | none => exact ⟨[], quietly_pure _⟩
  | some state =>
      rw [ProseCheck.diagnose]
      split
      · rcases hSteady.diagnoseWith state document words
          encoding with ⟨ds, hWith⟩
        exact ⟨ds, hWith.bind (quietly_pure _)⟩
      · exact ⟨[], quietly_pure _⟩

end Setting

end ProseCheck

------------------------------------------------------------
-- Views
------------------------------------------------------------

namespace ProseCheck

namespace Server

variable
  {τ ω : Type}
  [Workspace ω]
  {setting : Setting τ}

/-
  The diagnostics that a server would publish for a snapshot
  of a document, with the tool, the settings and the encoding
  that it has.  There are none if the check fails.
-/
def view
    (setting : Setting τ)
    (s : Server τ ω)
    (document : Document) : List Diagnostic :=
  (diagnose setting.engine setting.backoff
    (s.tool.map (·.state)) document s.settings.ignoredWords
    s.encoding).value.1.toOption.getD []

/- With a steady engine no check fails. -/
theorem diagnose_steady
    (hSteady : setting.Steady)
    (s : Server τ ω)
    (document : Document) :
    (diagnose setting.engine setting.backoff
      (s.tool.map (·.state)) document
      s.settings.ignoredWords s.encoding).Quietly
        (.ok (s.view setting document),
          s.tool.map (·.state)) := by
  rcases hSteady.diagnose (s.tool.map (·.state)) document
    s.settings.ignoredWords s.encoding with ⟨ds, hQuiet⟩
  have hView : s.view setting document = ds := by
    rw [view, hQuiet.1]
    rfl
  rw [hView]
  exact hQuiet

/- Without a tool there are no diagnostics. -/
theorem view_of_no_tool
    {s : Server τ ω}
    (hTool : s.tool = none)
    (document : Document) :
    s.view setting document = [] := by
  rw [view, hTool]
  rfl

/- A document under an address of its own kind has none. -/
theorem view_of_unchecked
    (s : Server τ ω)
    {document : Document}
    (hScheme : document.hasSupportedScheme = false) :
    s.view setting document = [] := by
  unfold view
  cases s.tool with
  | none => rfl
  | some t =>
      rw [Option.map_some, diagnose, hScheme]
      rfl

/- Taking back the state that a tool has changes nothing. -/
theorem withState_self
    (s : Server τ ω) :
    s.withState (s.tool.map (·.state)) = s := by
  cases s with
  | mk settings remoteServer tool requests workspace
      encodingName =>
      cases tool with
      | none => rfl
      | some t => rfl

/- A document is published with its diagnostics. -/
theorem publishDocument_steady
    (hSteady : setting.Steady)
    (s : Server τ ω)
    (uri : String)
    (document : Document) :
    let r := s.publishDocument setting uri document
    r.value = (.ok (), s) ∧
      publications r.entries =
        [(uri, s.view setting document)] := by
  rcases diagnose_steady hSteady s document with
    ⟨hValue, hQuiet⟩
  simp only [publishDocument, Recorded.value_bind,
    Recorded.entries_bind, hValue, withState_self,
    publications_append, hQuiet]
  exact ⟨rfl, rfl⟩

/- A document that is not open goes by the address it has. -/
theorem uri_of_snapshot
    {s : Server τ ω}
    {uri : String}
    {document : Document}
    (hSnapshot : s.snapshot setting uri = .ok document) :
    document.uri = Workspace.key uri := by
  unfold snapshot at hSnapshot
  split at hSnapshot
  · rename_i d hOpen
    cases hSnapshot
    exact Workspace.uri_of_get? _ uri document hOpen
  · dsimp only at hSnapshot
    cases hFile : setting.readFile (Workspace.key uri) with
    | error e =>
        rw [hFile] at hSnapshot
        cases hSnapshot
    | ok text =>
        rw [hFile] at hSnapshot
        cases hSnapshot
        rfl

/- An open document is looked up as it is. -/
theorem snapshot_of_open
    (setting : Setting τ)
    {s : Server τ ω}
    {uri : String}
    {document : Document}
    (hOpen :
      Workspace.get? s.workspace uri = some document) :
    s.snapshot setting uri = .ok document := by
  rw [snapshot, hOpen]

/- A document is published as it is looked up. -/
theorem publishIssues_of_ok
    (hSteady : setting.Steady)
    {s : Server τ ω}
    {uri : String}
    {document : Document}
    (hSnapshot : s.snapshot setting uri = .ok document) :
    let r := s.publishIssues setting uri
    r.value = (.ok (), s) ∧
      publications r.entries =
        [(uri, s.view setting document)] := by
  rw [publishIssues, hSnapshot]
  exact publishDocument_steady hSteady s uri document

/- Nothing is published where nothing can be looked up. -/
theorem publishIssues_of_error
    {s : Server τ ω}
    {uri : String}
    {e : Failure}
    (hSnapshot : s.snapshot setting uri = .error e) :
    (s.publishIssues setting uri).Quietly
      (.error (.file e), s) := by
  rw [publishIssues, hSnapshot]
  exact quietly_pure _

end Server

end ProseCheck

------------------------------------------------------------
-- Announcements
------------------------------------------------------------

namespace ProseCheck

namespace Server

variable
  {τ ω : Type}
  [Workspace ω]
  {setting : Setting τ}
  {s : Server τ ω}

/-
  The list that should stand published for an address: the
  diagnostics of the snapshot that is open there now.  There
  are none if no document is open.
-/
def expected
    (setting : Setting τ)
    (s : Server τ ω)
    (uri : String) : List Diagnostic :=
  match Workspace.get? s.workspace uri with
  | some document => s.view setting document
  | none => []

/-
  What is published for several addresses, one after the
  other.  This ends where nothing can be looked up.
-/
def announced
    (setting : Setting τ)
    (s : Server τ ω) :
    List String → List (String × List Diagnostic)
  | [] => []
  | uri :: uris =>
      match s.snapshot setting uri with
      | .ok document =>
          (uri, s.view setting document) ::
            announced setting s uris
      | .error _ => []

/- What is announced is what is looked up at some address. -/
theorem exists_snapshot_of_announced
    {uris : List String}
    {uri : String}
    {ds : List Diagnostic}
    (hMem : (uri, ds) ∈ s.announced setting uris) :
    uri ∈ uris ∧ ∃ document,
      s.snapshot setting uri = .ok document ∧
        ds = s.view setting document := by
  induction uris with
  | nil => cases hMem
  | cons first uris ih =>
      unfold announced at hMem
      split at hMem
      · rename_i document hSnapshot
        rcases List.mem_cons.mp hMem with hHere | hLater
        · cases hHere
          exact ⟨List.mem_cons_self, document, hSnapshot, rfl⟩
        · rcases ih hLater with ⟨hUri, hFound⟩
          exact ⟨List.mem_cons_of_mem first hUri, hFound⟩
      · cases hMem

/- Addresses that are all open are all announced. -/
theorem announced_of_open
    {uris : List String}
    (hOpen :
      ∀ uri ∈ uris,
        (Workspace.get? s.workspace uri).isSome) :
    s.announced setting uris =
      uris.map (fun uri =>
        (uri, s.expected setting uri)) := by
  induction uris with
  | nil => rfl
  | cons uri uris ih =>
      rcases List.forall_mem_cons.mp hOpen with
        ⟨hHere, hRest⟩
      rcases Option.isSome_iff_exists.mp hHere with
        ⟨document, hGet⟩
      rw [announced, snapshot_of_open setting hGet,
        List.map_cons, expected, hGet, ← ih hRest]

/- A single address is published as it was announced. -/
theorem publishIssues_steady
    (hSteady : setting.Steady)
    (uri : String)
    (s : Server τ ω) :
    let r := s.publishIssues setting uri
    r.value.2 = s ∧
      publications r.entries = s.announced setting [uri] := by
  unfold announced
  cases hSnapshot : s.snapshot setting uri with
  | ok document =>
      rcases publishIssues_of_ok hSteady hSnapshot with
        ⟨hValue, hOne⟩
      exact ⟨congrArg Prod.snd hValue, hOne⟩
  | error e =>
      rcases publishIssues_of_error hSnapshot with
        ⟨hValue, hNone⟩
      exact ⟨congrArg Prod.snd hValue, hNone⟩

/- So are several, one after the other. -/
theorem publishEach_steady
    (hSteady : setting.Steady)
    (uris : List String)
    (s : Server τ ω) :
    let r := publishEach setting uris s
    r.value.2 = s ∧
      publications r.entries = s.announced setting uris := by
  induction uris with
  | nil => exact ⟨rfl, rfl⟩
  | cons uri uris ih =>
      unfold announced
      cases hSnapshot : s.snapshot setting uri with
      | ok document =>
          rcases publishIssues_of_ok hSteady hSnapshot with
            ⟨hValue, hFirst⟩
          simp only [publishEach, Recorded.value_bind,
            Recorded.entries_bind, hValue,
            publications_append, hFirst, ih]
          exact ⟨trivial, rfl⟩
      | error e =>
          rcases publishIssues_of_error hSnapshot with
            ⟨hValue, hFirst⟩
          simp only [publishEach, Recorded.value_bind,
            Recorded.entries_bind, hValue,
            publications_append, hFirst]
          exact ⟨rfl, rfl⟩

/- So are the addresses of all open documents. -/
theorem publishAll_steady
    (hSteady : setting.Steady)
    (s : Server τ ω) :
    let r := s.publishAll setting
    r.value.2 = s ∧
      publications r.entries =
        s.announced setting (Workspace.uris s.workspace) :=
  publishEach_steady hSteady _ s

end Server

end ProseCheck
