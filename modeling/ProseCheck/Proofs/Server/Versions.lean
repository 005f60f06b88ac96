import ProseCheck.Proofs.Server.Drift

/-
  This file follows the diagnostics of one document to the
  edits that are offered for them.  An editor asks for the
  commands of diagnostics that the server published earlier,
  while the document may have changed in between.

  The edits carry the version that the document has when they
  are asked for.  This is the version of the snapshot that a
  diagnostic was made from exactly if the document was neither
  opened nor changed since the diagnostic was published.

  Main declarations:
    * `Move`
    * `Server.remarks`
    * `Server.standing`
    * `Server.mem_standing_iff`
    * `Server.edits_versions_iff`
    * `Server.edits_versions_stale`
-/

------------------------------------------------------------
-- Moves
------------------------------------------------------------

namespace ProseCheck

/-
  What an editor does with one document: it opens it, changes
  it, or asks for the commands of diagnostics.
-/
inductive Move where
  | opened
      (version : Int)
      (text : Text)
      (languageId : String)
  | changed
      (version : Int)
      (changes : List TextChange)
  | asked
      (selection : Range)
      (diagnostics : List Diagnostic)

namespace Move

/- The message that tells the server. -/
def message
    (uri : String) : Move → Message
  | .opened version text languageId =>
      .opened ⟨uri, some version, text, languageId⟩
  | .changed version changes =>
      .changed uri (some version) changes
  | .asked selection diagnostics =>
      .commands ⟨uri, selection, diagnostics⟩

/- The version that the document has from then on. -/
def version? : Move → Option Int
  | .opened version _ _ => some version
  | .changed version _ => some version
  | .asked _ _ => none

end Move

/- The versions that the document is given. -/
def versions
    (ms : List Move) : List Int :=
  ms.filterMap Move.version?

/- A request gives the document no version. -/
theorem versions_cons_of_none
    {m : Move}
    (hNone : m.version? = none)
    (ms : List Move) :
    versions (m :: ms) = versions ms :=
  List.filterMap_cons_none hNone

/- Any other move gives it one. -/
theorem versions_cons_of_some
    {m : Move}
    {version : Int}
    (hSome : m.version? = some version)
    (ms : List Move) :
    versions (m :: ms) = version :: versions ms :=
  List.filterMap_cons_some hSome

/-
  A diagnostic that was published for a document, with the
  version of the snapshot that it was made from.
-/
structure Remark where
  version : Option Int
  diagnostic : Diagnostic

end ProseCheck

------------------------------------------------------------
-- Published Remarks
------------------------------------------------------------

namespace ProseCheck

namespace Server

variable {τ ω : Type} [Workspace ω]

/- The state of a server after moves about a document. -/
def after
    (setting : Setting τ)
    (uri : String)
    (s : Server τ ω)
    (ms : List Move) : Server τ ω :=
  (run setting s (ms.map (Move.message uri))).value

/- The version of the snapshot that is open, if it has one. -/
def versionOf
    (s : Server τ ω)
    (uri : String) : Option Int :=
  (Workspace.get? s.workspace uri).bind (·.version)

/-
  What one move makes the server publish for the document.
  The snapshot that is checked is the one that is open then.
-/
def remarksAt
    (setting : Setting τ)
    (uri : String)
    (s : Server τ ω)
    (m : Move) : List Remark :=
  let r := s.handle setting (m.message uri)
  ((publications r.entries).filter (·.1 == uri)).flatMap
    (fun p => p.2.map (Remark.mk (r.value.2.versionOf uri)))

/- All that moves make the server publish for the document. -/
def remarks
    (setting : Setting τ)
    (uri : String)
    (s : Server τ ω) : List Move → List Remark
  | [] => []
  | m :: ms =>
      s.remarksAt setting uri m ++
        remarks setting uri (s.after setting uri [m]) ms

/-
  The remarks that are still up to date: those of moves after
  which the document was neither opened nor changed.
-/
def standing
    (setting : Setting τ)
    (uri : String)
    (s : Server τ ω) : List Move → List Remark
  | [] => []
  | m :: ms =>
      (if versions ms = [] then s.remarksAt setting uri m
        else []) ++
        standing setting uri (s.after setting uri [m]) ms

/- The moves are made one after the other. -/
theorem after_cons
    (setting : Setting τ)
    (uri : String)
    (s : Server τ ω)
    (m : Move)
    (ms : List Move) :
    s.after setting uri (m :: ms) =
      (s.after setting uri [m]).after setting uri ms := by
  rfl

/- The first move has the answer of the server to follow. -/
theorem after_singleton
    (setting : Setting τ)
    (uri : String)
    (s : Server τ ω)
    (m : Move) :
    s.after setting uri [m] =
      (s.handle setting (m.message uri)).value.2 := by
  rfl

/- The remarks that are up to date were published. -/
theorem mem_remarks_of_mem_standing
    {setting : Setting τ}
    {uri : String}
    {s : Server τ ω}
    {ms : List Move}
    {r : Remark}
    (hMem : r ∈ s.standing setting uri ms) :
    r ∈ s.remarks setting uri ms := by
  induction ms generalizing s with
  | nil => cases hMem
  | cons m ms ih =>
      rw [standing, List.mem_append] at hMem
      rw [remarks, List.mem_append]
      rcases hMem with hHere | hLater
      · split at hHere
        · exact Or.inl hHere
        · cases hHere
      · exact Or.inr (ih hLater)

end Server

end ProseCheck

------------------------------------------------------------
-- Snapshots
------------------------------------------------------------

namespace ProseCheck

namespace Server

variable {τ ω : Type} [Workspace ω]
variable {setting : Setting τ}

/- A check leaves the documents alone. -/
@[simp]
theorem workspace_withState
    (s : Server τ ω)
    (state : Option τ) :
    (s.withState state).workspace = s.workspace := by
  unfold withState
  split <;> rfl

/- So does publishing a document. -/
@[simp]
theorem workspace_publishIssues
    (setting : Setting τ)
    (uri : String)
    (s : Server τ ω) :
    (s.publishIssues setting uri).value.2.workspace =
      s.workspace := by
  unfold publishIssues
  split
  · simp only [publishDocument, Recorded.value_bind]
    split
    · simp
    · simp
  · rfl

/- The document once it is opened. -/
theorem get?_after_opened
    (setting : Setting τ)
    (uri : String)
    (s : Server τ ω)
    (version : Int)
    (text : Text)
    (languageId : String) :
    Workspace.get?
        (s.after setting uri
          [.opened version text languageId]).workspace uri =
      some ⟨Workspace.key uri, some version, text,
        languageId⟩ := by
  rw [after_singleton]
  simp only [Move.message, handle, Recorded.value_bind,
    Recorded.value_pure, plainAnswer_snd,
    workspace_publishIssues]
  rw [Workspace.get?_put, if_pos rfl]

/- The document once it is changed, if it is open. -/
theorem get?_after_changed
    (setting : Setting τ)
    (uri : String)
    (s : Server τ ω)
    (version : Int)
    (changes : List TextChange) :
    Workspace.get?
        (s.after setting uri
          [.changed version changes]).workspace uri =
      (Workspace.get? s.workspace uri).map
        (Workspace.changed s.encoding (some version)
          changes) := by
  rw [after_singleton]
  simp only [Move.message, handle, Recorded.value_bind,
    Recorded.value_pure, plainAnswer_snd,
    workspace_publishIssues]
  exact Workspace.get?_change_self _ _ uri _ _

/-
  A move that gives the document a version leaves it with the
  version, if it leaves it open.
-/
theorem version_after_singleton
    {uri : String}
    {s : Server τ ω}
    {m : Move}
    {version : Int}
    (hGiven : m.version? = some version)
    {document : Document}
    (hOpen :
      Workspace.get?
          (s.after setting uri [m]).workspace uri =
        some document) :
    document.version = some version := by
  cases m with
  | opened next text languageId =>
      rw [get?_after_opened] at hOpen
      cases hOpen
      exact hGiven
  | changed next changes =>
      rw [get?_after_changed, Option.map_eq_some_iff] at hOpen
      rcases hOpen with ⟨_, _, rfl⟩
      exact hGiven
  | asked selection diagnostics => cases hGiven

/- Requests leave the documents alone. -/
theorem workspace_after_of_none
    (setting : Setting τ)
    (uri : String)
    (s : Server τ ω)
    {m : Move}
    (hNone : m.version? = none) :
    (s.after setting uri [m]).workspace = s.workspace := by
  cases m with
  | opened version text languageId => cases hNone
  | changed version changes => cases hNone
  | asked selection diagnostics => rfl

/-
  After moves that leave it open, the document is as it was
  before, or it has the last version that it was given.
-/
theorem version_after
    {uri : String}
    {s : Server τ ω}
    {ms : List Move}
    {document : Document}
    (hOpen :
      Workspace.get?
          (s.after setting uri ms).workspace uri =
        some document) :
    (versions ms = [] ∧
        Workspace.get? s.workspace uri = some document) ∨
      ∃ version, document.version = some version ∧
        (versions ms).getLast? = some version := by
  induction ms generalizing s with
  | nil => exact Or.inl ⟨rfl, hOpen⟩
  | cons m ms ih =>
      rw [after_cons] at hOpen
      cases hGiven : m.version? with
      | none =>
          have hSame :=
            workspace_after_of_none setting uri s hGiven
          rw [versions_cons_of_none hGiven, ← hSame]
          exact ih hOpen
      | some given =>
          right
          rw [versions_cons_of_some hGiven]
          rcases ih hOpen with
            ⟨hNone, hHere⟩ | ⟨version, hVersion, hLast⟩
          · exact ⟨given, version_after_singleton hGiven hHere,
              by rw [hNone]; rfl⟩
          · refine ⟨version, hVersion, ?_⟩
            rw [List.getLast?_cons, hLast]
            rfl

end Server

end ProseCheck

------------------------------------------------------------
-- Remarks of a Snapshot
------------------------------------------------------------

namespace ProseCheck

namespace Server

variable {τ ω : Type} [Workspace ω]
variable {setting : Setting τ}

/- With a steady engine, no move changes tool or settings. -/
theorem after_singleton_steady
    (hSteady : setting.Steady)
    (uri : String)
    (s : Server τ ω)
    (m : Move) :
    (s.after setting uri [m]).tool = s.tool ∧
      (s.after setting uri [m]).settings = s.settings := by
  rw [after_singleton]
  cases m with
  | opened version text languageId =>
      rw [Move.message, (handle_opened hSteady s _).1]
      exact ⟨rfl, rfl⟩
  | changed version changes =>
      rw [Move.message,
        (handle_changed hSteady s uri _ changes).1]
      exact ⟨rfl, rfl⟩
  | asked selection diagnostics => exact ⟨rfl, rfl⟩

/-
  With a steady engine, what is published is what a check of
  the snapshot that is open then gives, with its version.
-/
theorem remarksAt_steady
    (hSteady : setting.Steady)
    {uri : String}
    {s : Server τ ω}
    {m : Move}
    (hGiven : m.version? ≠ none)
    {document : Document}
    (hOpen :
      Workspace.get?
          (s.after setting uri [m]).workspace uri =
        some document) :
    s.remarksAt setting uri m =
      ((s.after setting uri [m]).view setting document).map
        (Remark.mk document.version) := by
  have hLabel :
      (s.after setting uri [m]).versionOf uri =
        document.version := by
    rw [versionOf, hOpen]
    rfl
  have hAnnounced :
      publications
          (s.handle setting (m.message uri)).entries =
        (s.after setting uri [m]).announced setting
          [uri] := by
    rw [after_singleton]
    cases m with
    | opened version text languageId =>
        rcases handle_opened hSteady s
          ⟨uri, some version, text, languageId⟩ with
          ⟨hNext, hPublished⟩
        rw [Move.message, hNext, hPublished]
    | changed version changes =>
        rcases handle_changed hSteady s uri (some version)
          changes with ⟨hNext, hPublished⟩
        rw [Move.message, hNext, hPublished]
    | asked selection diagnostics => exact absurd rfl hGiven
  have hOne :
      (s.after setting uri [m]).announced setting [uri] =
        [(uri,
          (s.after setting uri [m]).view setting
            document)] := by
    rw [announced, snapshot_of_open setting hOpen]
    rfl
  rw [remarksAt, hAnnounced, hOne, ← after_singleton, hLabel]
  simp

end Server

end ProseCheck

------------------------------------------------------------
-- Versions of Remarks
------------------------------------------------------------

namespace ProseCheck

namespace Server

variable {τ ω : Type} [Workspace ω]
variable {setting : Setting τ}
variable {uri : String}

/-
  A remark has the version that the document has once it is
  published.
-/
theorem version_of_mem_remarksAt
    {s : Server τ ω}
    {m : Move}
    {r : Remark}
    (hMem : r ∈ s.remarksAt setting uri m) :
    r.version = (s.after setting uri [m]).versionOf uri := by
  simp only [remarksAt, List.mem_flatMap,
    List.mem_map] at hMem
  rcases hMem with ⟨_, _, _, _, rfl⟩
  rfl

/- Only moves that give a version have remarks published. -/
theorem given_of_mem_remarksAt
    {s : Server τ ω}
    {m : Move}
    {r : Remark}
    (hMem : r ∈ s.remarksAt setting uri m) :
    ∃ version, m.version? = some version := by
  cases m with
  | opened version text languageId => exact ⟨version, rfl⟩
  | changed version changes => exact ⟨version, rfl⟩
  | asked selection diagnostics => cases hMem

/- So there are no remarks without versions. -/
theorem versions_ne_nil_of_mem_remarks
    {s : Server τ ω}
    {ms : List Move}
    {r : Remark}
    (hMem : r ∈ s.remarks setting uri ms) :
    versions ms ≠ [] := by
  induction ms generalizing s with
  | nil => cases hMem
  | cons m ms ih =>
      rw [remarks, List.mem_append] at hMem
      cases hGiven : m.version? with
      | some version =>
          rw [versions_cons_of_some hGiven]
          exact List.cons_ne_nil version _
      | none =>
          rw [versions_cons_of_none hGiven]
          rcases hMem with hHere | hLater
          · rcases given_of_mem_remarksAt hHere with
              ⟨version, hSome⟩
            rw [hGiven] at hSome
            cases hSome
          · exact ih hLater

/-
  If no version is given twice, a remark about a document that
  is still open is up to date where it has the version that
  the document has in the end.
-/
theorem mem_standing_iff
    {s : Server τ ω}
    {ms : List Move}
    {document : Document}
    (hOpen :
      Workspace.get?
          (s.after setting uri ms).workspace uri =
        some document)
    (hVersions : (versions ms).Nodup)
    {r : Remark}
    (hMem : r ∈ s.remarks setting uri ms) :
    r ∈ s.standing setting uri ms ↔
      r.version = document.version := by
  induction ms generalizing s with
  | nil => cases hMem
  | cons m ms ih =>
      rw [remarks, List.mem_append] at hMem
      rw [after_cons] at hOpen
      rw [standing, List.mem_append]
      by_cases hLater :
          r ∈ (s.after setting uri [m]).remarks setting uri ms
      · -- then some version is given after the first move
        have hRest : (versions ms).Nodup :=
          hVersions.sublist
            ((List.sublist_cons_self m ms).filterMap _)
        rw [if_neg (versions_ne_nil_of_mem_remarks hLater),
          ih hOpen hRest hLater]
        simp
      · have hHere := hMem.resolve_right hLater
        have hLabel := version_of_mem_remarksAt hHere
        have hNone :
            r ∉ (s.after setting uri [m]).standing setting
              uri ms :=
          fun hStanding =>
            hLater (mem_remarks_of_mem_standing hStanding)
        rcases version_after hOpen with
          ⟨hQuiet, hSame⟩ | ⟨last, hVersion, hLast⟩
        · have hLatest : r.version = document.version := by
            rw [hLabel, versionOf, hSame]
            rfl
          simp [hQuiet, hHere, hLatest]
        · have hGivenLater := List.mem_of_getLast? hLast
          rw [if_neg (List.ne_nil_of_mem hGivenLater)]
          refine iff_of_false (by simp [hNone]) ?_
          intro hLatest
          -- the first move gave the last version, too
          rw [hLabel, hVersion, versionOf,
            Option.bind_eq_some_iff] at hLatest
          rcases hLatest with ⟨first, hFirst, hAlso⟩
          rcases given_of_mem_remarksAt hHere with
            ⟨version, hGiven⟩
          rw [version_after_singleton hGiven hFirst] at hAlso
          cases hAlso
          rw [versions_cons_of_some hGiven] at hVersions
          exact (List.nodup_cons.mp hVersions).1 hGivenLater

end Server

end ProseCheck

------------------------------------------------------------
-- Offered Edits
------------------------------------------------------------

namespace ProseCheck

/- The remarks whose diagnostics a selection touches. -/
def touched
    (selection : Range)
    (context : List Remark) : List Remark :=
  context.filter
    (fun r => selection.Overlaps r.diagnostic.range)

/- The commands are those of the diagnostics of the remarks. -/
theorem codeActions_remarks
    (document : Document)
    (selection : Range)
    (context : List Remark) :
    codeActions document selection
        (context.map (·.diagnostic)) =
      (touched selection context).flatMap
        (fun r =>
          commandsFor r.diagnostic document.identifier) := by
  rw [codeActions, underSelection, touched, List.filter_map,
    List.flatMap_map]
  rfl

/-
  The edits that are made for a remark carry the version of
  the snapshot that the remark was made from.
-/
def Remark.Tagged
    (r : Remark)
    (document : DocumentId) : Prop :=
  ∀ c ∈ commandsFor r.diagnostic document,
    c.edit.document.version = r.version

/- They do if it is the version that they are made with. -/
theorem Remark.tagged_iff
    (r : Remark)
    (document : DocumentId) :
    r.Tagged document ↔
      (r.diagnostic.replacements ≠ [] →
        r.version = document.version) := by
  unfold Tagged commandsFor
  cases r.diagnostic.replacements with
  | nil => simp
  | cons text texts =>
      simp only [List.mem_map, forall_exists_index, and_imp,
        forall_apply_eq_imp_iff₂, commandFor, editFor]
      constructor
      · intro hAll _
        exact (hAll text List.mem_cons_self).symm
      · intro hSame other _
        exact (hSame (List.cons_ne_nil text texts)).symm

namespace Server

variable {τ ω : Type} [Workspace ω]

/-
  The answer to a request about remarks.  All edits carry the
  version that the document has then.
-/
theorem handle_asked
    (setting : Setting τ)
    {uri : String}
    {s : Server τ ω}
    {document : Document}
    (hOpen :
      Workspace.get? s.workspace uri = some document)
    (selection : Range)
    (context : List Remark) :
    let request :=
      Move.asked selection (context.map (·.diagnostic))
    (s.handle setting (request.message uri)).value.1 =
      .ok (.commands
        ((touched selection context).flatMap
          (fun r =>
            commandsFor r.diagnostic
              document.identifier))) := by
  rw [← codeActions_remarks]
  change s.commandsAt setting _ = _
  rw [commandsAt, snapshot_of_open setting hOpen]

/-
  The editor may ask about any remarks that were published
  for a document that is open.  The edits carry the version
  that it has then.  This is the version of the snapshot that
  a remark was made from exactly if it still has the same
  version.

  If the editor gives no version twice, it is the right one
  exactly for the remarks that are up to date.
-/
theorem edits_versions_iff
    (setting : Setting τ)
    (uri : String)
    (s : Server τ ω)
    (ms : List Move)
    {document : Document}
    (hOpen :
      Workspace.get?
          (s.after setting uri ms).workspace uri =
        some document)
    (selection : Range)
    {context : List Remark}
    (hKnown :
      ∀ r ∈ context, r ∈ s.remarks setting uri ms) :
    let now := s.after setting uri ms
    let request :=
      Move.asked selection (context.map (·.diagnostic))
    let offering :=
      (touched selection context).filter
        (fun r => r.diagnostic.replacements ≠ [])
    (now.handle setting (request.message uri)).value.1 =
        .ok (.commands
          ((touched selection context).flatMap
            (fun r =>
              commandsFor r.diagnostic
                document.identifier))) ∧
      ((∀ r ∈ touched selection context,
          r.Tagged document.identifier) ↔
        ∀ r ∈ offering, r.version = document.version) ∧
      ((versions ms).Nodup →
        ((∀ r ∈ touched selection context,
            r.Tagged document.identifier) ↔
          ∀ r ∈ offering,
            r ∈ s.standing setting uri ms)) := by
  intro now request offering
  have hTagged :
      (∀ r ∈ touched selection context,
          r.Tagged document.identifier) ↔
        ∀ r ∈ offering, r.version = document.version := by
    simp only [Remark.tagged_iff, offering, List.mem_filter,
      decide_eq_true_eq, and_imp]
    rfl
  refine
    ⟨handle_asked setting hOpen selection context, hTagged, ?_⟩
  intro hVersions
  rw [hTagged]
  apply forall₂_congr
  intro r hOffers
  have hTouched := (List.mem_filter.mp hOffers).1
  have hMem : r ∈ context := (List.mem_filter.mp hTouched).1
  exact
    (mem_standing_iff hOpen hVersions (hKnown r hMem)).symm

end Server

end ProseCheck

------------------------------------------------------------
-- A Suggestion that Goes Stale
------------------------------------------------------------

namespace ProseCheck

/- A finding about the first character, with another one. -/
def suggestion : Finding :=
  ⟨[("offset", .int 0), ("errorLength", .int 1),
    ("replacements", .arr [.str "y"])]⟩

/- What the suggestion says, once it is read. -/
def suggestionIssue : Issue where
  start := 0
  stop := 1
  message := ""
  replacements := ["y"]
  ruleId := "UNKNOWN"
  ruleDescription := "UNKNOWN"
  issueType := "unknown"

/- An engine that always makes this suggestion. -/
def Setting.suggesting : Setting Unit :=
  .finding suggestion

/- The engine does what is expected of an engine. -/
theorem Setting.suggesting_steady :
    suggesting.Steady := by
  have hRead :
      Issue.ofFinding suggestion = .ok suggestionIssue := by
    rfl
  exact finding_steady hRead
    (isWritable_of_lt_ten (by decide))
    (isWritable_of_lt_ten (by decide))

namespace Server

/- A server for which a language was chosen. -/
def chosen : Server Unit OpenDocuments :=
  (({} : Server Unit OpenDocuments).handle
    Setting.suggesting (.configured english.toJson)).value.2

/- It has a tool, and the settings that were chosen. -/
theorem chosen_spec :
    chosen.tool.isSome ∧ chosen.settings = english := by
  rw [chosen, (handle_accepted Setting.suggesting_steady {}
    parse_english).1]
  exact ⟨toolFor_english suggestion none 0, rfl⟩

/- Nothing is found in a plain text that is empty. -/
theorem view_empty
    {τ ω : Type}
    [Workspace ω]
    (setting : Setting τ)
    (s : Server τ ω)
    (uri : String)
    (version : Option Int) :
    s.view setting ⟨uri, version, [], "plaintext"⟩ = [] := by
  let document : Document :=
    ⟨uri, version, [], "plaintext"⟩
  have hSelect :
      selectText document.text document.languageId =
        .ok (.identity []) := by
    dsimp only [document]
    rfl
  unfold view
  cases s.tool with
  | none => rfl
  | some t =>
      have hReport :
          (checkDocument setting.engine setting.backoff
            t.state document s.settings.ignoredWords).Quietly
              (.ok ⟨document, .identity [], []⟩,
                t.state) := by
        unfold checkDocument
        rw [hSelect]
        exact quietly_pure _
      have hBuilt :
          (Report.diagnostics
            ⟨document, .identity [], []⟩
            s.encoding).value = .ok [] :=
        rfl
      rw [Option.map_some, diagnose]
      split
      · simp only [Recorded.value_bind]
        rw [(diagnoseWith_of_report hReport hBuilt).1]
        rfl
      · rfl

/- The suggestion is published once the letter is opened. -/
theorem remarksAt_letter
    {uri : String}
    (hChecked : HasCheckedScheme (Workspace.key uri)) :
    ∃ range : Range,
      range.start ≤ range.stop ∧
        chosen.remarksAt Setting.suggesting uri
            (.opened 1 ['x'] "plaintext") =
          [⟨some 1, suggestionIssue.diagnosticAt range⟩] := by
  have hRead :
      (readFindings 1 [suggestion]).value =
        .ok [suggestionIssue] := by
    rfl
  have hKeep :
      keepIssues (ignoredWords []) ['x'] [suggestionIssue] =
        [suggestionIssue] := by
    decide
  have hScheme :
      (letter (Workspace.key uri)).hasSupportedScheme =
        true := by
    rw [hasSupportedScheme_iff]
    exact hChecked
  let m : Move := .opened 1 ['x'] "plaintext"
  have hOpen :
      Workspace.get?
          (chosen.after Setting.suggesting uri
            [m]).workspace uri =
        some (letter (Workspace.key uri)) :=
    get?_after_opened _ uri chosen 1 ['x'] "plaintext"
  rcases after_singleton_steady Setting.suggesting_steady uri
    chosen m with ⟨hTool, hSettings⟩
  have hSome :
      (chosen.after Setting.suggesting uri
        [m]).tool.isSome := by
    rw [hTool]
    exact chosen_spec.1
  rcases view_finding hRead hKeep (Nat.zero_le 1)
    (Nat.le_refl 1) hSome (hSettings.trans chosen_spec.2)
    hScheme with ⟨range, hOrder, hView⟩
  refine ⟨range, hOrder, ?_⟩
  have hGiven : m.version? ≠ none := by
    simp [m, Move.version?]
  rw [remarksAt_steady Setting.suggesting_steady hGiven hOpen]
  change (view (Setting.finding suggestion) _ _).map _ = _
  rw [hView]
  rfl

/- Where the suggestion was made, it is the only command. -/
theorem commandsFor_suggestion
    {range : Range}
    (hOrder : range.start ≤ range.stop)
    (version : Option Int)
    (document : DocumentId) :
    let d := suggestionIssue.diagnosticAt range
    touched d.range [⟨version, d⟩] = [⟨version, d⟩] ∧
      commandsFor d document = [commandFor d "y" document] := by
  intro d
  constructor
  · have hOverlap : d.range.Overlaps d.range :=
      ⟨hOrder, hOrder⟩
    simp [touched, hOverlap]
  · rw [commandsFor, Diagnostic.replacements_diagnosticAt]
    rfl

/- A file whose name needs no percent sequence is checked. -/
theorem checked_plain :
    HasCheckedScheme (Workspace.key "file:///ab") := by
  have hKey : Workspace.key "file:///ab" = "file:///ab" := by
    decide
  rw [hKey]
  exact ⟨"file:", by decide, by decide⟩

/-
  While the letter is as it was opened, the edit that is
  offered for it has the version of the letter.
-/
theorem edits_versions_iff_letter :
    let uri := "file:///ab"
    let ms : List Move := [.opened 1 ['x'] "plaintext"]
    let now := chosen.after Setting.suggesting uri ms
    ∃ (d : Diagnostic) (c : Command),
      chosen.remarks Setting.suggesting uri ms =
          [⟨some 1, d⟩] ∧
        (now.handle Setting.suggesting
            ((Move.asked d.range [d]).message
              uri)).value.1 =
          .ok (.commands [c]) ∧
        c.edit.document.version = some 1 := by
  intro uri ms now
  rcases remarksAt_letter checked_plain with
    ⟨range, hOrder, hFirst⟩
  let d := suggestionIssue.diagnosticAt range
  have hRemarks :
      chosen.remarks Setting.suggesting uri ms =
        [⟨some 1, d⟩] := by
    rw [remarks, remarks, hFirst]
    rfl
  have hKnown :
      ∀ r ∈ [Remark.mk (some 1) d],
        r ∈ chosen.remarks Setting.suggesting uri ms := by
    rw [hRemarks]
    exact fun r hMem => hMem
  have hStanding :
      Remark.mk (some 1) d ∈
        chosen.standing Setting.suggesting uri ms := by
    rw [standing, if_pos (by rfl), hFirst]
    exact List.mem_append_left _ List.mem_cons_self
  let document : Document := letter (Workspace.key uri)
  have hOpen :
      Workspace.get? now.workspace uri = some document :=
    get?_after_opened Setting.suggesting uri chosen 1 ['x']
      "plaintext"
  rcases edits_versions_iff Setting.suggesting uri chosen ms
    hOpen d.range hKnown with ⟨hAnswer, _, hFresh⟩
  rcases commandsFor_suggestion hOrder (some 1)
    document.identifier with ⟨hTouched, hCommands⟩
  have hTagged :
      (Remark.mk (some 1) d).Tagged document.identifier := by
    apply (hFresh (by decide)).mpr
    · intro r hMem
      have hTouch := (List.mem_filter.mp hMem).1
      rw [hTouched] at hTouch
      rw [List.mem_singleton.mp hTouch]
      exact hStanding
    · rw [hTouched]
      exact List.mem_cons_self
  refine ⟨d, commandFor d "y" document.identifier, hRemarks,
    ?_, hTagged _ ?_⟩
  · rw [hTouched, List.flatMap_singleton, hCommands]
      at hAnswer
    exact hAnswer
  · rw [hCommands]
    exact List.mem_cons_self

/-
  A letter is opened, and then its text is deleted.  Asked
  about the suggestion that was made for the letter, the
  server offers an edit of the empty text.
-/
theorem edits_versions_stale :
    let uri := "file:///ab"
    let ms : List Move :=
      [.opened 1 ['x'] "plaintext", .changed 2 [⟨none, []⟩]]
    let now := chosen.after Setting.suggesting uri ms
    (versions ms).Pairwise (· < ·) ∧
      ∃ (d : Diagnostic) (c : Command),
        chosen.remarks Setting.suggesting uri ms =
            [⟨some 1, d⟩] ∧
          (now.handle Setting.suggesting
              ((Move.asked d.range [d]).message
                uri)).value.1 =
            .ok (.commands [c]) ∧
          c.edit.document.version = some 2 := by
  intro uri ms now
  rcases remarksAt_letter checked_plain with
    ⟨range, hOrder, hFirst⟩
  let d := suggestionIssue.diagnosticAt range
  let opened :=
    chosen.after Setting.suggesting uri
      [.opened 1 ['x'] "plaintext"]
  let document : Document :=
    ⟨Workspace.key uri, some 2, [], "plaintext"⟩
  have hOpen :
      Workspace.get?
          (opened.after Setting.suggesting uri
            [.changed 2 [⟨none, []⟩]]).workspace uri =
        some document := by
    rw [get?_after_changed, get?_after_opened]
    rfl
  have hSecond :
      opened.remarksAt Setting.suggesting uri
        (.changed 2 [⟨none, []⟩]) = [] := by
    rw [remarksAt_steady Setting.suggesting_steady
      (by simp [Move.version?]) hOpen, view_empty]
    rfl
  have hRemarks :
      chosen.remarks Setting.suggesting uri ms =
        [⟨some 1, d⟩] := by
    rw [remarks, remarks, remarks, hFirst, hSecond]
    rfl
  have hLast :
      now = opened.after Setting.suggesting uri
        [.changed 2 [⟨none, []⟩]] :=
    after_cons _ _ _ _ _
  rw [← hLast] at hOpen
  rcases commandsFor_suggestion hOrder (some 1)
    document.identifier with ⟨hTouched, hCommands⟩
  refine ⟨by decide, d, commandFor d "y" document.identifier,
    hRemarks, ?_, rfl⟩
  have hAnswer :=
    handle_asked Setting.suggesting hOpen d.range
      [⟨some 1, d⟩]
  rw [hTouched, List.flatMap_singleton, hCommands] at hAnswer
  exact hAnswer

end Server

end ProseCheck
