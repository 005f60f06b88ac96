import ProseCheck.Proofs.Edit.Suggestion
import ProseCheck.Proofs.Server.Sync
import ProseCheck.Server.OpenDocuments

/-
  This file says for which documents a server stays in step
  with an editor, whatever the editor does.  These are the
  ones whose addresses are kept as they are, and beside which
  nothing is open that cannot be looked up again.

  Any other document is lost as soon as a language is chosen.
  Either its diagnostics come under the address that it is
  kept under, and the list that stands under its own address
  is not replaced.  Or another document comes before it that
  is looked up again without success, and that is the end of
  publishing.

  Main declarations:
    * `Server.not_inSync_of_unseen`
    * `Server.run_inSync_iff`
-/

------------------------------------------------------------
-- An Engine that Always Finds Something
------------------------------------------------------------

namespace ProseCheck

/- An engine that finds the same in every text. -/
def Setting.finding
    (f : Finding) : Setting Unit where
  engine :=
    { create := fun _ _ => .ok ()
      check := fun _ _ => (.ok [f], ()) }
  backoff := .standard (fun _ => Binary64.ofNat 1)

/- A finding about the first character of a text. -/
def remark : Finding :=
  ⟨[("offset", .int 0), ("errorLength", .int 1)]⟩

/- What the finding says, once it is read. -/
def remarkIssue : Issue where
  start := 0
  stop := 1
  message := ""
  replacements := []
  ruleId := "UNKNOWN"
  ruleDescription := "UNKNOWN"
  issueType := "unknown"

/- An engine that always finds this. -/
def Setting.remarking : Setting Unit :=
  .finding remark

namespace Setting

/- The finding is read as the issue. -/
theorem ofFinding_remark :
    Issue.ofFinding remark = .ok remarkIssue := by
  rfl

/-
  The engine does what is expected, if the finding is read as
  an issue whose ends can be written.
-/
theorem finding_steady
    {f : Finding}
    {i : Issue}
    (hRead : Issue.ofFinding f = .ok i)
    (hStart : IsWritable i.start)
    (hStop : IsWritable i.stop) :
    (finding f).Steady where
  backoff := ⟨_, rfl⟩
  check := by
    intro state text
    refine ⟨[f], rfl, ?_⟩
    intro g hMem
    rw [List.mem_singleton.mp hMem]
    constructor
    · intro e hError
      rw [hRead] at hError
      cases hError
    · intro words j hOther _
      rw [hRead] at hOther
      cases hOther
      exact Issue.isReportable_of_writable hStart hStop text
  create := by
    intro serial request e hError
    cases hError

/- The engine that finds the remark does so, too. -/
theorem remarking_steady :
    remarking.Steady :=
  finding_steady ofFinding_remark
    (isWritable_of_lt_ten (by decide))
    (isWritable_of_lt_ten (by decide))

end Setting

end ProseCheck

------------------------------------------------------------
-- A Letter
------------------------------------------------------------

namespace ProseCheck

/- A document of one letter. -/
def letter
    (uri : String) : Document where
  uri
  version := some 1
  text := ['x']
  languageId := "plaintext"

/- Settings that name a language and nothing else. -/
def english : Settings where
  language := some "en-US"

/- The settings are read as they were sent. -/
theorem parse_english :
    (Settings.parse english.toJson).value = some english := by
  decide

/- The letter is checked, and a finding in it is kept. -/
theorem checkDocument_letter
    {f : Finding}
    {i : Issue}
    (hRead : (readFindings 1 [f]).value = .ok [i])
    (hKeep : keepIssues (ignoredWords []) ['x'] [i] = [i])
    (uri : String) :
    (checkDocument (Setting.finding f).engine
      (Setting.finding f).backoff () (letter uri)
      english.ignoredWords).Quietly
        (.ok ⟨letter uri, .identity ['x'], [i]⟩, ()) := by
  have hSelect :
      selectText (letter uri).text (letter uri).languageId =
        .ok (.identity ['x']) := by
    dsimp only [letter]
    rfl
  have hPlain :
      (AnnotatedText.identity ['x']).plainText = ['x'] := by
    rfl
  have hText : Text.strip ['x'] = ['x'] := by
    decide
  apply checkDocument_of_ok hSelect
  · rw [hPlain, hText]
    rfl
  · rw [hPlain, ← hKeep]
    exact checkPlain_of_ok _ english.ignoredWords rfl hRead

variable {ω : Type} [Workspace ω]

/- The finding is the only diagnostic of the letter. -/
theorem view_finding
    {f : Finding}
    {i : Issue}
    (hRead : (readFindings 1 [f]).value = .ok [i])
    (hKeep : keepIssues (ignoredWords []) ['x'] [i] = [i])
    (hStart : i.start ≤ 1)
    (hStop : i.stop ≤ 1)
    {s : Server Unit ω}
    (hTool : s.tool.isSome)
    (hSettings : s.settings = english)
    {uri : String}
    (hScheme : (letter uri).hasSupportedScheme = true) :
    ∃ range : Range,
      range.start ≤ range.stop ∧
        s.view (Setting.finding f) (letter uri) =
          [i.diagnosticAt range] := by
  rcases Option.isSome_iff_exists.mp hTool with ⟨t, hSome⟩
  let table : PositionTable := ⟨['x'], false, s.encoding⟩
  rcases exists_diagnostic_of_covers table
      (AnnotatedText.covers_identity ['x']) hStart hStop with
    ⟨start, last, _, _, hFrom, hTo, hDiagnostic⟩
  let range : Range :=
    ⟨table.place start, table.place (max start last)⟩
  have hBuilt :
      (Report.diagnostics
        ⟨letter uri, .identity ['x'], [i]⟩
        s.encoding).value =
          .ok ([i].flatMap
            (fun _ => [i.diagnosticAt range])) := by
    apply value_buildDiagnostics
    intro j hMem
    rw [List.mem_singleton.mp hMem]
    exact value_diagnosticsOf hDiagnostic
  have hDiagnose :=
    diagnoseWith_of_report
      (checkDocument_letter hRead hKeep uri) hBuilt
  refine ⟨range, ?_, ?_⟩
  · exact (table.place_le_iff hFrom hTo).mpr
      (Nat.le_max_left start last)
  · unfold Server.view diagnose
    rw [hSome, hSettings, Option.map_some]
    simp only [hScheme, if_true, Recorded.value_bind]
    rw [hDiagnose.1]
    rfl

/- The letter has a diagnostic if it is checked at all. -/
theorem view_letter
    {s : Server Unit ω}
    (hTool : s.tool.isSome)
    (hSettings : s.settings = english)
    {uri : String}
    (hScheme : (letter uri).hasSupportedScheme = true) :
    s.view Setting.remarking (letter uri) ≠ [] := by
  have hRead :
      (readFindings 1 [remark]).value =
        .ok [remarkIssue] := by
    rfl
  have hKeep :
      keepIssues (ignoredWords []) ['x'] [remarkIssue] =
        [remarkIssue] := by
    decide
  rcases view_finding hRead hKeep (Nat.zero_le 1)
    (Nat.le_refl 1) hTool hSettings hScheme with
    ⟨range, _, hView⟩
  rw [Setting.remarking, hView]
  exact List.cons_ne_nil _ _

end ProseCheck

------------------------------------------------------------
-- Letters
------------------------------------------------------------

namespace ProseCheck

/- Letters are opened, and then a language is chosen. -/
def lettersThenLanguage
    (uris : List String) : List Message :=
  uris.map (fun uri => .opened (letter uri)) ++
    [.configured english.toJson]

/- The messages are about the letters. -/
theorem addresses_lettersThenLanguage
    (uris : List String) :
    addresses (lettersThenLanguage uris) = uris := by
  unfold addresses lettersThenLanguage
  rw [List.filterMap_append, List.filterMap_map]
  change uris.filterMap some ++ [] = uris
  rw [List.filterMap_some, List.append_nil]

/- Letters may be opened at any time. -/
theorem orderly_lettersThenLanguage
    (before uris : List String) :
    Orderly before (lettersThenLanguage uris) := by
  induction uris generalizing before with
  | nil => exact ⟨trivial, trivial⟩
  | cons uri uris ih => exact ⟨trivial, ih _⟩

/- The letters are held open after that. -/
theorem mem_heldAfter_lettersThenLanguage
    {uris : List String}
    {uri : String}
    (hMem : uri ∈ uris) :
    uri ∈ heldAfter (lettersThenLanguage uris) := by
  rw [lettersThenLanguage, heldAfter_concat]
  change uri ∈ heldAfter _
  induction uris using List.reverseRecOn with
  | nil => cases hMem
  | append_singleton uris last ih =>
      rw [List.map_append, List.map_singleton,
        heldAfter_concat]
      rcases List.mem_append.mp hMem with hBefore | hLast
      · exact List.mem_cons_of_mem _ (ih hBefore)
      · rw [List.mem_singleton.mp hLast]
        exact List.mem_cons_self

variable {ω : Type} [Workspace ω]

/- Open some letters. -/
def putLetters
    (w : ω)
    (uris : List String) : ω :=
  uris.foldl (fun w uri => Workspace.put w (letter uri)) w

/- Then each of them is open, under the address it is kept. -/
theorem get?_putLetters
    (w : ω)
    {uris : List String}
    {uri : String}
    (hMem : uri ∈ uris) :
    Workspace.get? (putLetters w uris) uri =
      some (letter (Workspace.key uri)) := by
  induction uris using List.reverseRecOn with
  | nil => cases hMem
  | append_singleton uris last ih =>
      have hSplit :
          putLetters w (uris ++ [last]) =
            Workspace.put (putLetters w uris)
              (letter last) := by
        rw [putLetters, List.foldl_append]
        rfl
      rw [hSplit, Workspace.get?_put]
      split
      · rename_i hSame
        rw [hSame]
        rfl
      · rename_i hOther
        apply ih
        rcases List.mem_append.mp hMem with hBefore | hLast
        · exact hBefore
        · exact absurd
            (congrArg Workspace.key (List.mem_singleton.mp hLast))
            hOther

end ProseCheck

------------------------------------------------------------
-- Runs about Letters
------------------------------------------------------------

namespace ProseCheck

/- The engine gives a tool for the language. -/
theorem toolFor_english
    (f : Finding)
    (remoteServer : Option String)
    (serial : Nat) :
    (toolFor (Setting.finding f).engine remoteServer serial
      english).isSome := by
  have hBuild :=
    (managerFor english remoteServer).buildTool_quietly
      (Setting.finding f).engine serial "en-US"
  change (((managerFor english remoteServer).buildTool
    (Setting.finding f).engine serial
    "en-US").value.1.toOption).isSome
  rw [hBuild.1]
  rfl

namespace Server

variable {τ ω : Type} [Workspace ω]

/- A run does what its parts do, one after the other. -/
theorem run_append
    (setting : Setting τ)
    (s : Server τ ω)
    (ms later : List Message) :
    let first := run setting s ms
    let rest := run setting first.value later
    (run setting s (ms ++ later)).value = rest.value ∧
      (run setting s (ms ++ later)).entries =
        first.entries ++ rest.entries := by
  induction ms generalizing s with
  | nil => exact ⟨rfl, rfl⟩
  | cons m ms ih =>
      rcases ih (s.handle setting m).value.2 with
        ⟨hValue, hEntries⟩
      rw [List.cons_append]
      constructor
      · rw [value_run_cons, hValue]
        rfl
      · rw [entries_run_cons, hEntries, entries_run_cons,
          List.append_assoc]
        rfl

/- Letters that are opened without a tool show nothing. -/
theorem run_putLetters
    {setting : Setting τ}
    (hSteady : setting.Steady)
    {s : Server τ ω}
    (hTool : s.tool = none)
    (uris : List String) :
    let r :=
      run setting s
        (uris.map (fun uri => .opened (letter uri)))
    r.value =
        { s with workspace := putLetters s.workspace uris } ∧
      publications r.entries = uris.map (·, []) := by
  induction uris generalizing s with
  | nil => exact ⟨rfl, rfl⟩
  | cons uri uris ih =>
      let workspace :=
        Workspace.put s.workspace (letter uri)
      let next : Server τ ω := { s with workspace }
      rcases handle_opened hSteady s (letter uri) with
        ⟨hNext, hPublished⟩
      have hGet :
          Workspace.get? workspace uri =
            some (letter (Workspace.key uri)) :=
        Workspace.get?_put_self _ (letter uri)
      have hNone : next.expected setting uri = [] := by
        rw [expected, hGet]
        exact view_of_no_tool hTool _
      have hFirst :
          next.announced setting [uri] = [(uri, [])] := by
        rw [announced_of_open, List.map_singleton, hNone]
        intro other hMem
        rw [List.mem_singleton.mp hMem, hGet]
        rfl
      have hRest := ih (s := next) hTool
      rw [List.map_cons]
      dsimp only
      rw [value_run_cons, entries_run_cons, hNext,
        publications_append, hPublished, hRest.2]
      exact ⟨hRest.1,
        congrArg (· ++ uris.map (·, [])) hFirst⟩

/- The state of a server that was asked for letters at once. -/
def lettered
    (ω : Type)
    [Workspace ω]
    (uris : List String) : Server Unit ω :=
  configured Setting.remarking.engine english
    { workspace := putLetters Workspace.empty uris }

/-
  What all of these messages do.  Nothing is shown until there
  is a tool, and then all letters are published.
-/
theorem run_lettersThenLanguage
    (uris : List String) :
    let chosen := lettered ω uris
    let r :=
      run Setting.remarking ({} : Server Unit ω)
        (lettersThenLanguage uris)
    r.value = chosen ∧
      publications r.entries =
        uris.map (·, []) ++
          chosen.announced Setting.remarking
            (Workspace.uris chosen.workspace) := by
  intro chosen r
  let opened : Server Unit ω :=
    { workspace := putLetters Workspace.empty uris }
  rcases run_putLetters Setting.remarking_steady
      (s := ({} : Server Unit ω)) rfl uris with
    ⟨hOpened, hFirst⟩
  rcases handle_accepted Setting.remarking_steady opened
      parse_english with ⟨hChosen, hSecond⟩
  rcases run_append Setting.remarking ({} : Server Unit ω)
      (uris.map (fun uri => .opened (letter uri)))
      [.configured english.toJson] with ⟨hValue, hEntries⟩
  rw [hOpened] at hValue hEntries
  dsimp only [r, lettersThenLanguage]
  constructor
  · rw [hValue, value_run_cons]
    exact hChosen
  · rw [hEntries, publications_append, hFirst,
      entries_run_cons, publications_append]
    change _ ++ (publications (opened.handle _ _).entries ++ _)
      = _
    rw [hSecond]
    exact congrArg _ (List.append_nil _)

/-
  A letter that is checked goes out of step if it is not seen
  when all letters are published.
-/
theorem not_inSync_of_unseen
    {uris : List String}
    {uri : String}
    (hMem : uri ∈ uris)
    (hChecked : HasCheckedScheme (Workspace.key uri))
    (hUnseen :
      ∀ ds, (uri, ds) ∉
        (lettered ω uris).announced Setting.remarking
          (Workspace.uris (lettered ω uris).workspace)) :
    let start : Server Unit ω := {}
    let r :=
      run Setting.remarking start (lettersThenLanguage uris)
    ¬ InSync Setting.remarking start
      (lettersThenLanguage uris) r.value r.entries := by
  intro start r hSync
  rcases run_lettersThenLanguage (ω := ω) uris with
    ⟨hValue, hPublished⟩
  have hShown :=
    hSync.shown uri (mem_heldAfter_lettersThenLanguage hMem)
  have hLast := mem_publications_of_lastPublished hShown
  rw [hPublished, List.mem_append] at hLast
  rcases hLast with hFirst | hSecond
  · rcases List.mem_map.mp hFirst with ⟨other, _, hSame⟩
    have hEmpty := (Prod.mk.inj hSame).2.symm
    have hGet :
        Workspace.get? r.value.workspace uri =
          some (letter (Workspace.key uri)) := by
      rw [hValue]
      exact get?_putLetters _ hMem
    rw [expected, hGet, hValue] at hEmpty
    refine view_letter (toolFor_english remark none 0) rfl ?_
      hEmpty
    rw [hasSupportedScheme_iff]
    exact hChecked
  · exact hUnseen _ hSecond

end Server

end ProseCheck

------------------------------------------------------------
-- Drift
------------------------------------------------------------

namespace ProseCheck

namespace Server

variable {ω : Type} [Workspace ω]

/-
  A document that is kept under another address than its own
  is not seen under its own.
-/
theorem unseen_of_key_ne
    {uri : String}
    (hKey : Workspace.key uri ≠ uri)
    (ds : List Diagnostic) :
    (uri, ds) ∉
      (lettered ω [uri]).announced Setting.remarking
        (Workspace.uris (lettered ω [uri]).workspace) := by
  intro hSeen
  have hMem := (exists_snapshot_of_announced hSeen).1
  have hUris :
      Workspace.uris (lettered ω [uri]).workspace =
        [Workspace.key uri] := by
    change Workspace.uris
      (Workspace.put Workspace.empty (letter uri)) = _
    rw [Workspace.uris_put, Workspace.uris_empty]
    rfl
  rw [hUris] at hMem
  exact hKey (List.mem_singleton.mp hMem).symm

/-
  Nothing is seen of two documents if the first of them is not
  found when it is looked up again.
-/
theorem unseen_of_not_foundBeside
    {beside uri : String}
    (hKey : Workspace.key beside = beside)
    (hFound : ¬ FoundBeside beside uri) :
    let chosen := lettered ω [uri, beside]
    chosen.announced Setting.remarking
      (Workspace.uris chosen.workspace) = [] := by
  intro chosen
  rcases not_or.mp hFound with ⟨hSame, hBeside⟩
  have hApart : Workspace.key beside ≠ Workspace.key uri := by
    intro hBoth
    rw [← hBoth, hKey, hKey] at hSame
    exact hSame rfl
  have hUris :
      Workspace.uris chosen.workspace =
        [Workspace.key uri, Workspace.key beside] := by
    change Workspace.uris
      (Workspace.put
        (Workspace.put Workspace.empty (letter uri))
        (letter beside)) = _
    rw [Workspace.uris_put, Workspace.uris_put,
      Workspace.uris_empty]
    simp [letter, hApart]
  have hNone :
      Workspace.get? chosen.workspace (Workspace.key uri) =
        none := by
    rw [← Option.not_isSome_iff_eq_none,
      ← Workspace.mem_uris_iff, hUris]
    simp [hSame, hBeside]
  rw [hUris, announced, snapshot, hNone]
  rfl

/-
  A server with a steady engine stays in step with an editor,
  in every orderly run about the documents of a set, exactly
  if the set is settled.

  Settings that cannot be used never change anything.  After
  settings that can be used, the open documents are looked up
  and published anew, under the addresses that they are kept
  under, up to one that is not found.  If all are found, each
  of them is published once.
-/
theorem run_inSync_iff
    (ω : Type)
    [Workspace ω]
    (U : String → Prop) :
    ((∀ (τ : Type) (setting : Setting τ)
        (remoteServer encodingName : Option String)
        (ms : List Message),
        setting.Steady → Orderly [] ms →
          (∀ uri ∈ addresses ms, U uri) →
            let start : Server τ ω :=
              { remoteServer, encodingName }
            let r := run setting start ms
            InSync setting start ms r.value r.entries) ↔
      Settled U) ∧
    ∀ (τ : Type) (setting : Setting τ) (s : Server τ ω)
      (payload : Json),
      let r := s.handle setting (.configured payload)
      match (Settings.parse payload).value with
      | none => r.value.2 = s ∧ publications r.entries = []
      | some settings =>
          setting.Steady →
            let next := s.configured setting.engine settings
            let kept := Workspace.uris s.workspace
            r.value.2 = next ∧
              kept.Nodup ∧
              publications r.entries =
                next.announced setting kept ∧
              ((∀ uri ∈ kept,
                  (Workspace.get? s.workspace uri).isSome) →
                publications r.entries =
                  kept.map (fun uri =>
                    (uri, next.expected setting uri))) := by
  refine ⟨⟨?_, ?_⟩, ?_⟩
  · intro hAll
    have hLetters :
        ∀ uris : List String, (∀ uri ∈ uris, U uri) →
          let start : Server Unit ω := {}
          let r :=
            run Setting.remarking start
              (lettersThenLanguage uris)
          InSync Setting.remarking start
            (lettersThenLanguage uris) r.value
            r.entries := by
      intro uris hMem
      apply hAll Unit Setting.remarking none none
      · exact Setting.remarking_steady
      · exact orderly_lettersThenLanguage [] uris
      · rw [addresses_lettersThenLanguage]
        exact hMem
    have hFaithful : ∀ uri, U uri → Faithful uri := by
      intro uri hUri hChecked
      by_contra hKey
      refine not_inSync_of_unseen List.mem_cons_self hChecked
        (unseen_of_key_ne hKey) (hLetters [uri] ?_)
      intro other hMem
      rw [List.mem_singleton.mp hMem]
      exact hUri
    refine ⟨hFaithful, ?_⟩
    intro beside uri hBeside hUri hChecked
    by_contra hFound
    have hLast : beside ∈ [uri, beside] :=
      List.mem_cons_of_mem uri List.mem_cons_self
    refine not_inSync_of_unseen hLast hChecked ?_
      (hLetters [uri, beside] ?_)
    · intro ds
      rw [unseen_of_not_foundBeside
        (hFaithful beside hBeside hChecked) hFound]
      exact List.not_mem_nil
    · intro other hMem
      rcases List.mem_cons.mp hMem with rfl | hOther
      · exact hUri
      · rw [List.mem_singleton.mp hOther]
        exact hBeside
  · intro hSettled τ setting remoteServer encodingName ms
      hSteady hOrderly hWithin
    have hStart :=
      tracked_start (ω := ω) setting remoteServer encodingName
    have hRun :=
      run_tracked hSteady hSettled ms hStart hWithin hOrderly
    exact hRun.inSync
  · intro τ setting s payload
    cases hParse : (Settings.parse payload).value with
    | none => exact handle_rejected setting s hParse
    | some settings =>
        intro r hSteady next kept
        rcases handle_accepted hSteady s hParse with
          ⟨hNext, hPublished⟩
        have hOnce := Workspace.uris_nodup s.workspace
        refine ⟨hNext, hOnce, hPublished, ?_⟩
        intro hOpen
        rw [hPublished]
        exact announced_of_open hOpen

/- A file whose name needs no percent sequence is shown. -/
theorem run_inSync_iff_plain :
    let uri := "file:///ab"
    let start : Server Unit OpenDocuments := {}
    let r :=
      run Setting.remarking start (lettersThenLanguage [uri])
    InSync Setting.remarking start
      (lettersThenLanguage [uri]) r.value r.entries := by
  intro uri start r
  have hKey : Workspace.key uri = uri := by
    decide
  have hSettled : Settled (· = uri) := by
    constructor
    · intro other hSame _
      rw [hSame]
      exact hKey
    · intro beside other _ hSame _
      rw [hSame, FoundBeside, hKey]
      exact Or.inl hKey
  refine (run_inSync_iff OpenDocuments (· = uri)).1.mpr
    hSettled Unit Setting.remarking none none
    (lettersThenLanguage [uri]) Setting.remarking_steady
    (orderly_lettersThenLanguage [] [uri]) ?_
  intro other hMem
  rw [addresses_lettersThenLanguage] at hMem
  exact List.mem_singleton.mp hMem

/-
  A file with a space in its name.  Its diagnostics come
  under another address than the one that it is open under.
-/
theorem run_not_inSync_space :
    let uri := "file:///a%20b"
    let start : Server Unit OpenDocuments := {}
    let r :=
      run Setting.remarking start (lettersThenLanguage [uri])
    Setting.remarking.Steady ∧
      Orderly [] (lettersThenLanguage [uri]) ∧
      ¬ InSync Setting.remarking start
        (lettersThenLanguage [uri]) r.value r.entries := by
  intro uri start r
  have hKey : Workspace.key uri = "file:///a b" := by
    decide
  have hChecked : HasCheckedScheme (Workspace.key uri) := by
    rw [hKey]
    exact ⟨"file:", by decide, by decide⟩
  have hOther : Workspace.key uri ≠ uri := by
    rw [hKey]
    decide
  exact ⟨Setting.remarking_steady,
    orderly_lettersThenLanguage [] [uri],
    not_inSync_of_unseen List.mem_cons_self hChecked
      (unseen_of_key_ne hOther)⟩

end Server

end ProseCheck
