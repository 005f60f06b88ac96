import Mathlib.Data.List.Induction
import ProseCheck.Proofs.Server.Configuration
import ProseCheck.Server.Session

/-
  This file relates what an editor sees to the state of the
  server.  After every message the list that was published
  last for a document is the one that a check of its current
  snapshot gives, and it is empty once the document is
  closed.

  Documents are kept under their addresses without percent
  sequences.  When the settings change, they are looked up
  again and published under these addresses.  So an address
  with a percent sequence in it goes out of step.  If nothing
  is found under what is left of it, it also keeps those that
  come after it from being published.

  Main declarations:
    * `Orderly`
    * `InSync`
    * `Settled`
    * `Server.handle_tracked`
    * `Server.run_tracked`
-/

------------------------------------------------------------
-- Messages
------------------------------------------------------------

namespace ProseCheck

namespace Message

/- The address of the document that a message is about. -/
def address? : Message → Option String
  | .opened document => some document.uri
  | .changed uri _ _ => some uri
  | .closed uri => some uri
  | _ => none

/- The settings of a message, if they can be used. -/
def settings? : Message → Option Settings
  | .configured payload => (Settings.parse payload).value
  | _ => none

/- The addresses that an editor holds open after a message. -/
def held
    (before : List String) : Message → List String
  | .opened document => document.uri :: before
  | .closed uri => before.filter (· ≠ uri)
  | _ => before

/-
  An editor changes and closes only documents that it holds
  open, and the session goes on.
-/
def Permitted
    (before : List String) : Message → Prop
  | .changed uri _ _ => uri ∈ before
  | .closed uri => uri ∈ before
  | .shutdown => False
  | _ => True

end Message

/- The addresses of the documents that messages are about. -/
def addresses
    (ms : List Message) : List String :=
  ms.filterMap Message.address?

/- The settings that messages bring and that can be used. -/
def acceptedSettings
    (ms : List Message) : List Settings :=
  ms.filterMap Message.settings?

/- The addresses that an editor holds open after messages. -/
def heldAfter
    (ms : List Message) : List String :=
  ms.foldl Message.held []

/- Each of the messages is permitted when it comes. -/
def Orderly
    (before : List String) : List Message → Prop
  | [] => True
  | m :: ms => m.Permitted before ∧ Orderly (m.held before) ms

/- What messages are about, they are about with others too. -/
theorem mem_addresses_append
    {ms : List Message}
    {uri : String}
    (hMem : uri ∈ addresses ms)
    (later : List Message) :
    uri ∈ addresses (ms ++ later) := by
  rw [addresses, List.filterMap_append]
  exact List.mem_append_left _ hMem

/- One more message may be about one more document. -/
theorem addresses_concat
    (ms : List Message)
    (m : Message) :
    addresses (ms ++ [m]) =
      addresses ms ++ m.address?.toList := by
  rw [addresses, List.filterMap_append]
  cases hAddress : m.address? with
  | none => simp [addresses, hAddress]
  | some uri => simp [addresses, hAddress]

/- One more message may bring other settings. -/
theorem acceptedSettings_concat
    (ms : List Message)
    (m : Message) :
    acceptedSettings (ms ++ [m]) =
      acceptedSettings ms ++ m.settings?.toList := by
  rw [acceptedSettings, List.filterMap_append]
  cases hSettings : m.settings? with
  | none => simp [acceptedSettings, hSettings]
  | some settings => simp [acceptedSettings, hSettings]

/- A message about no settings leaves the settings. -/
theorem acceptedSettings_concat_of_none
    (ms : List Message)
    {m : Message}
    (hSettings : m.settings? = none) :
    acceptedSettings (ms ++ [m]) = acceptedSettings ms := by
  rw [acceptedSettings_concat, hSettings]
  exact List.append_nil _

/- A message about another document leaves the others. -/
theorem mem_addresses_of_ne
    {ms : List Message}
    {m : Message}
    {uri other : String}
    (hAddress : m.address? = some uri)
    (hMem : other ∈ addresses (ms ++ [m]))
    (hNe : other ≠ uri) :
    other ∈ addresses ms := by
  rw [addresses_concat, hAddress] at hMem
  simpa [hNe] using hMem

/- One more message may open or close a document. -/
theorem heldAfter_concat
    (ms : List Message)
    (m : Message) :
    heldAfter (ms ++ [m]) = m.held (heldAfter ms) := by
  rw [heldAfter, List.foldl_append]
  rfl

/- What is held open was opened by some message. -/
theorem heldAfter_subset_addresses
    (ms : List Message) :
    heldAfter ms ⊆ addresses ms := by
  induction ms using List.reverseRecOn with
  | nil => exact List.nil_subset _
  | append_singleton ms m ih =>
      intro uri hMem
      rw [heldAfter_concat] at hMem
      rw [addresses_concat, List.mem_append]
      cases m with
      | opened document =>
          rcases List.mem_cons.mp hMem with hHere | hBefore
          · right
            simp [Message.address?, hHere]
          · exact Or.inl (ih hBefore)
      | closed other =>
          exact Or.inl (ih (List.mem_filter.mp hMem).1)
      | changed _ _ _ => exact Or.inl (ih hMem)
      | configured _ => exact Or.inl (ih hMem)
      | commands _ => exact Or.inl (ih hMem)
      | accepted _ _ => exact Or.inl (ih hMem)
      | shutdown => exact Or.inl (ih hMem)

end ProseCheck

------------------------------------------------------------
-- Being in Step
------------------------------------------------------------

namespace ProseCheck

variable {τ ω : Type} [Workspace ω]

/-
  The tool that is in use after settings were accepted: the
  one for the last of them, if there is one.
-/
def toolAfter
    (engine : Engine τ)
    (remoteServer : Option String)
    (accepted : List Settings) : Option (Tool τ) :=
  accepted.getLast?.bind
    (toolFor engine remoteServer
      (accepted.dropLast.countP (·.language.isSome)))

/-
  A server and what it did are in step with the messages that
  it handled since it started.

  The settings are those that were accepted last, and the
  tool is the one for them.  The documents that are checked
  are open exactly where the editor thinks so.  What was
  published last for an open document is what should stand
  there, and nothing stands where a document was closed.
-/
structure InSync
    (setting : Setting τ)
    (start : Server τ ω)
    (ms : List Message)
    (s : Server τ ω)
    (es : List Effect) : Prop where
  remoteServer_eq : s.remoteServer = start.remoteServer
  encodingName_eq : s.encodingName = start.encodingName
  settings_eq :
    s.settings = (acceptedSettings ms).getLast?.getD {}
  tool_eq :
    s.tool =
      toolAfter setting.engine start.remoteServer
        (acceptedSettings ms)
  open_iff :
    ∀ uri ∈ addresses ms,
      HasCheckedScheme (Workspace.key uri) →
        (uri ∈ heldAfter ms ↔
          (Workspace.get? s.workspace uri).isSome)
  shown :
    ∀ uri ∈ heldAfter ms,
      lastPublished uri es = some (s.expected setting uri)
  cleared :
    ∀ uri ∈ addresses ms, uri ∉ heldAfter ms →
      lastPublished uri es = some []

/-
  The address of a document that is checked is the one that
  the document is kept under.
-/
def Faithful
    (uri : String) : Prop :=
  HasCheckedScheme (Workspace.key uri) →
    Workspace.key uri = uri

/-
  What a document is kept under is an address that leads to
  the same document, or else to that of another address.
-/
def FoundBeside
    (beside uri : String) : Prop :=
  let again := Workspace.key (Workspace.key uri)
  again = Workspace.key uri ∨ again = Workspace.key beside

/-
  All addresses in a set are faithful, and beside one that is
  checked, every other one can be looked up again.
-/
structure Settled
    (U : String → Prop) : Prop where
  faithful : ∀ uri, U uri → Faithful uri
  found :
    ∀ beside uri, U beside → U uri →
      HasCheckedScheme (Workspace.key beside) →
        FoundBeside beside uri

/- Two faithful addresses of one checked document are equal. -/
theorem Faithful.eq_of_key_eq
    {uri other : String}
    (hFaithful : Faithful uri)
    (hOther : Faithful other)
    (hKey : Workspace.key uri = Workspace.key other)
    (hChecked : HasCheckedScheme (Workspace.key uri)) :
    uri = other := by
  rw [← hFaithful hChecked, hKey]
  exact hOther (hKey ▸ hChecked)

/- The tool is replaced when settings are accepted. -/
theorem toolAfter_concat
    (engine : Engine τ)
    (remoteServer : Option String)
    (accepted : List Settings)
    (settings : Settings) :
    toolAfter engine remoteServer (accepted ++ [settings]) =
      toolFor engine remoteServer
        (accepted.countP (·.language.isSome)) settings := by
  rw [toolAfter, List.getLast?_concat, List.dropLast_concat]
  rfl

namespace Server

variable {setting : Setting τ}

/- Nothing is found in a document that is not checked. -/
theorem view_of_snapshot
    {s : Server τ ω}
    {uri : String}
    (hUnchecked : ¬ HasCheckedScheme (Workspace.key uri))
    {document : Document}
    (hSnapshot : s.snapshot setting uri = .ok document) :
    s.view setting document = [] := by
  apply view_of_unchecked s
  rw [← Bool.not_eq_true, hasSupportedScheme_iff,
    uri_of_snapshot hSnapshot]
  exact hUnchecked

/- Nothing is expected of a document that is not checked. -/
theorem expected_of_unchecked
    (s : Server τ ω)
    {uri : String}
    (hUnchecked : ¬ HasCheckedScheme (Workspace.key uri)) :
    s.expected setting uri = [] := by
  unfold expected
  split
  · rename_i document hOpen
    exact view_of_snapshot hUnchecked
      (snapshot_of_open setting hOpen)
  · rfl

/- Nothing is expected where no document is open. -/
theorem expected_of_none
    {s : Server τ ω}
    {uri : String}
    (hClosed : Workspace.get? s.workspace uri = none) :
    s.expected setting uri = [] := by
  rw [expected, hClosed]

/- What is expected depends on the document that is open. -/
theorem expected_of_get?_eq
    {s : Server τ ω}
    {workspace : ω}
    {uri : String}
    (hSame :
      Workspace.get? workspace uri =
        Workspace.get? s.workspace uri) :
    ({ s with workspace }).expected setting uri =
      s.expected setting uri := by
  rw [expected, expected, hSame]
  rfl

end Server

end ProseCheck

------------------------------------------------------------
-- Publishing Documents
------------------------------------------------------------

namespace ProseCheck

namespace Server

variable
  {τ ω : Type}
  [Workspace ω]
  {setting : Setting τ}
  {s : Server τ ω}
  {uri : String}
  {uris : List String}
  {es fs : List Effect}

/-
  An address that is not checked shows nothing, whatever is
  published, if it showed nothing before.
-/
theorem shown_of_unchecked
    (hUnchecked : ¬ HasCheckedScheme (Workspace.key uri))
    (hPublished :
      publications fs = s.announced setting uris)
    (hBefore : lastPublished uri es = some []) :
    lastPublished uri (es ++ fs) =
      some (s.expected setting uri) := by
  rw [expected_of_unchecked s hUnchecked]
  rcases lastPublished_append_cases uri es fs with
    ⟨ds, hNew, hShown⟩ | ⟨_, hShown⟩
  · rw [hPublished] at hNew
    rcases exists_snapshot_of_announced hNew with
      ⟨_, document, hSnapshot, hView⟩
    rw [hShown, hView, view_of_snapshot hUnchecked hSnapshot]
  · exact hShown.trans hBefore

/-
  An open address shows what it should once it is published
  among addresses that are all open.
-/
theorem shown_of_open
    (hMem : uri ∈ uris)
    (hOpen :
      ∀ other ∈ uris,
        (Workspace.get? s.workspace other).isSome)
    (hPublished :
      publications fs = s.announced setting uris)
    (es : List Effect) :
    lastPublished uri (es ++ fs) =
      some (s.expected setting uri) := by
  rw [announced_of_open hOpen] at hPublished
  rcases lastPublished_append_cases uri es fs with
    ⟨ds, hNew, hShown⟩ | ⟨hNone, _⟩
  · rw [hPublished] at hNew
    rcases List.mem_map.mp hNew with ⟨other, _, hSame⟩
    cases hSame
    exact hShown
  · refine absurd ?_ (hNone (s.expected setting uri))
    rw [hPublished]
    exact List.mem_map.mpr ⟨uri, hMem, rfl⟩

/-
  If a document is checked and open, all documents are found
  when they are looked up again.
-/
theorem isSome_of_settled
    {U : String → Prop}
    (hSettled : Settled U)
    (hKept :
      ∀ address ∈ Workspace.uris s.workspace,
        ∃ other, U other ∧ Workspace.key other = address)
    (hUri : U uri)
    (hChecked : HasCheckedScheme (Workspace.key uri))
    (hOpen : (Workspace.get? s.workspace uri).isSome) :
    ∀ address ∈ Workspace.uris s.workspace,
      (Workspace.get? s.workspace address).isSome := by
  intro address hMem
  rcases hKept address hMem with ⟨other, hOther, rfl⟩
  rw [← Workspace.mem_uris_iff]
  rcases hSettled.found uri other hUri hOther hChecked with
    hSame | hBeside
  · rw [hSame]
    exact hMem
  · rw [hBeside, Workspace.mem_uris_iff]
    exact hOpen

/-
  Once all open documents are published anew, an address of a
  settled set shows what it should, if nothing was left where
  no document is published.
-/
theorem shown_of_announced
    {U : String → Prop}
    (hSettled : Settled U)
    (hKept :
      ∀ address ∈ Workspace.uris s.workspace,
        ∃ other, U other ∧ Workspace.key other = address)
    (hUri : U uri)
    (hPublished :
      publications fs =
        s.announced setting (Workspace.uris s.workspace))
    (hBefore :
      Workspace.get? s.workspace uri = none ∨
          ¬ HasCheckedScheme (Workspace.key uri) →
        lastPublished uri es = some []) :
    lastPublished uri (es ++ fs) =
      some (s.expected setting uri) := by
  by_cases hChecked : HasCheckedScheme (Workspace.key uri)
  · have hMem :
        uri ∈ Workspace.uris s.workspace ↔
          (Workspace.get? s.workspace uri).isSome := by
      rw [← Workspace.mem_uris_iff,
        hSettled.faithful uri hUri hChecked]
    cases hGet : Workspace.get? s.workspace uri with
    | some document =>
        have hOpen :
            (Workspace.get? s.workspace uri).isSome := by
          rw [hGet]
          rfl
        exact shown_of_open (hMem.mpr hOpen)
          (isSome_of_settled hSettled hKept hUri hChecked
            hOpen)
          hPublished es
    | none =>
        rw [expected_of_none hGet]
        rcases lastPublished_append_cases uri es fs with
          ⟨ds, hNew, _⟩ | ⟨_, hShown⟩
        · rw [hPublished] at hNew
          have hOpen :=
            hMem.mp (exists_snapshot_of_announced hNew).1
          rw [hGet] at hOpen
          cases hOpen
        · exact hShown.trans (hBefore (Or.inl hGet))
  · exact shown_of_unchecked hChecked hPublished
      (hBefore (Or.inr hChecked))

end Server

end ProseCheck

------------------------------------------------------------
-- Handled Messages
------------------------------------------------------------

namespace ProseCheck

namespace Server

variable
  {τ ω : Type}
  [Workspace ω]
  {setting : Setting τ}

/- A document that is opened is published. -/
theorem handle_opened
    (hSteady : setting.Steady)
    (s : Server τ ω)
    (document : Document) :
    let workspace := Workspace.put s.workspace document
    let next : Server τ ω := { s with workspace }
    let r := s.handle setting (.opened document)
    r.value.2 = next ∧
      publications r.entries =
        next.announced setting [document.uri] := by
  intro workspace next
  rcases publishIssues_steady hSteady document.uri next with
    ⟨hValue, hPublished⟩
  simp only [handle, Recorded.value_bind,
    Recorded.entries_bind, publications_append,
    Recorded.value_pure, plainAnswer_snd]
  refine ⟨hValue, ?_⟩
  rw [hPublished]
  exact List.append_nil _

/- A document that is changed is published. -/
theorem handle_changed
    (hSteady : setting.Steady)
    (s : Server τ ω)
    (uri : String)
    (version : Option Int)
    (changes : List TextChange) :
    let workspace :=
      Workspace.change s.workspace s.encoding uri version
        changes
    let next : Server τ ω := { s with workspace }
    let r := s.handle setting (.changed uri version changes)
    r.value.2 = next ∧
      publications r.entries =
        next.announced setting [uri] := by
  intro workspace next
  rcases publishIssues_steady hSteady uri next with
    ⟨hValue, hPublished⟩
  simp only [handle, Recorded.value_bind,
    Recorded.entries_bind, publications_append,
    Recorded.value_pure, plainAnswer_snd]
  refine ⟨hValue, ?_⟩
  rw [hPublished]
  exact List.append_nil _

/- Edits that are accepted are not published. -/
theorem publications_accepted
    (s : Server τ ω)
    (arguments : List Json)
    (reply : ApplyReply) :
    publications
      (s.handle setting
        (.accepted arguments reply)).entries = [] := by
  simp only [handle, Recorded.entries_bind,
    publications_append]
  unfold accept
  split
  · rfl
  · rfl
  · dsimp only
    split <;> rfl

/- Settings that cannot be used change nothing. -/
theorem handle_rejected
    (setting : Setting τ)
    (s : Server τ ω)
    {payload : Json}
    (hRejected : (Settings.parse payload).value = none) :
    let r := s.handle setting (.configured payload)
    r.value.2 = s ∧ publications r.entries = [] := by
  have hParse := quietly_logged (Settings.parse payload)
  rw [hRejected] at hParse
  have hQuiet :
      (s.handle setting (.configured payload)).Quietly
        (.ok .nothing, s) :=
    hParse.bind (quietly_pure _)
  exact ⟨congrArg Prod.snd hQuiet.1, hQuiet.2⟩

/-
  Settings that can be used are taken over, and then the open
  documents are published.
-/
theorem handle_accepted
    (hSteady : setting.Steady)
    (s : Server τ ω)
    {payload : Json}
    {settings : Settings}
    (hAccepted :
      (Settings.parse payload).value = some settings) :
    let next := s.configured setting.engine settings
    let r := s.handle setting (.configured payload)
    r.value.2 = next ∧
      publications r.entries =
        next.announced setting
          (Workspace.uris s.workspace) := by
  intro next
  have hParse := quietly_logged (Settings.parse payload)
  rw [hAccepted] at hParse
  have hConfigure := configure_steady hSteady s settings
  rcases publishAll_steady hSteady next with
    ⟨hValue, hPublished⟩
  simp only [handle, reconfigure, Recorded.value_bind,
    Recorded.entries_bind, publications_append, hParse.1,
    hParse.2, hConfigure.1, hConfigure.2,
    Recorded.value_pure, plainAnswer_snd]
  refine ⟨hValue, ?_⟩
  rw [hPublished]
  exact List.append_nil _

end Server

end ProseCheck

------------------------------------------------------------
-- Staying in Step
------------------------------------------------------------

namespace ProseCheck

variable {τ ω : Type} [Workspace ω]

/-
  What every message keeps.  It says more than being in step:
  documents are kept only for addresses that messages were
  about, the tools that were asked for are counted, and every
  address shows what is expected there, whether it is held
  open or not.
-/
structure Tracked
    (setting : Setting τ)
    (start : Server τ ω)
    (ms : List Message)
    (s : Server τ ω)
    (es : List Effect) : Prop where
  remoteServer_eq : s.remoteServer = start.remoteServer
  encodingName_eq : s.encodingName = start.encodingName
  settings_eq :
    s.settings = (acceptedSettings ms).getLast?.getD {}
  tool_eq :
    s.tool =
      toolAfter setting.engine start.remoteServer
        (acceptedSettings ms)
  requests_eq :
    s.requests =
      (acceptedSettings ms).countP (·.language.isSome)
  kept :
    ∀ address ∈ Workspace.uris s.workspace,
      ∃ uri, uri ∈ addresses ms ∧
        Workspace.key uri = address
  open_iff :
    ∀ uri ∈ addresses ms,
      HasCheckedScheme (Workspace.key uri) →
        (uri ∈ heldAfter ms ↔
          (Workspace.get? s.workspace uri).isSome)
  shown :
    ∀ uri ∈ addresses ms,
      lastPublished uri es = some (s.expected setting uri)

namespace Tracked

variable
  {setting : Setting τ}
  {start s : Server τ ω}
  {U : String → Prop}
  {ms : List Message}
  {es : List Effect}

/- What every message keeps implies that all is in step. -/
theorem inSync
    (hTracked : Tracked setting start ms s es) :
    InSync setting start ms s es := by
  refine
    { remoteServer_eq := hTracked.remoteServer_eq
      encodingName_eq := hTracked.encodingName_eq
      settings_eq := hTracked.settings_eq
      tool_eq := hTracked.tool_eq
      open_iff := hTracked.open_iff
      shown := ?_
      cleared := ?_ }
  · intro uri hHeld
    apply hTracked.shown
    exact heldAfter_subset_addresses ms hHeld
  · intro uri hMem hClosed
    rw [hTracked.shown uri hMem]
    by_cases hChecked : HasCheckedScheme (Workspace.key uri)
    · have hOpen := hTracked.open_iff uri hMem hChecked
      have hNone : Workspace.get? s.workspace uri = none := by
        simpa [hClosed] using hOpen
      rw [Server.expected_of_none hNone]
    · rw [Server.expected_of_unchecked s hChecked]

/-
  A message that is about a document, and after which no other
  document is published, keeps the server in step.  Other
  documents are as before; only one that is not checked may
  share its place with this document.
-/
theorem publish
    (hTracked : Tracked setting start ms s es)
    {m : Message}
    {uri : String}
    (hAddress : m.address? = some uri)
    (hSettings : m.settings? = none)
    (hSettled : Settled U)
    (hWithin : ∀ other ∈ addresses (ms ++ [m]), U other)
    {workspace : ω}
    (hKept :
      ∀ address ∈ Workspace.uris workspace,
        address ∈ Workspace.uris s.workspace ∨
          address = Workspace.key uri)
    (hElsewhere :
      ∀ other, Workspace.key other ≠ Workspace.key uri →
        Workspace.get? workspace other =
          Workspace.get? s.workspace other)
    (hHeld :
      ∀ other, other ≠ uri →
        (other ∈ m.held (heldAfter ms) ↔
          other ∈ heldAfter ms))
    (hOpen :
      HasCheckedScheme (Workspace.key uri) →
        (uri ∈ m.held (heldAfter ms) ↔
          (Workspace.get? workspace uri).isSome))
    {fs : List Effect}
    (hOnly : ∀ p ∈ publications fs, p.1 = uri)
    (hShown :
      lastPublished uri (es ++ fs) =
        some (({ s with workspace }).expected setting uri)) :
    Tracked setting start (ms ++ [m]) { s with workspace }
      (es ++ fs) := by
  have hAccepted :=
    acceptedSettings_concat_of_none ms hSettings
  have hHere : uri ∈ addresses (ms ++ [m]) := by
    rw [addresses_concat, hAddress]
    simp
  have hUri := hSettled.faithful uri (hWithin uri hHere)
  -- a checked document elsewhere is not affected
  have hOther :
      ∀ other ∈ addresses ms, other ≠ uri →
        HasCheckedScheme (Workspace.key other) →
          Workspace.get? workspace other =
            Workspace.get? s.workspace other := by
    intro other hMem hNe hChecked
    have hBefore : Faithful other :=
      hSettled.faithful other
        (hWithin other (mem_addresses_append hMem _))
    apply hElsewhere
    intro hKey
    exact hNe (hBefore.eq_of_key_eq hUri hKey hChecked)
  refine
    { remoteServer_eq := hTracked.remoteServer_eq
      encodingName_eq := hTracked.encodingName_eq
      settings_eq := hAccepted ▸ hTracked.settings_eq
      tool_eq := hAccepted ▸ hTracked.tool_eq
      requests_eq := hAccepted ▸ hTracked.requests_eq
      kept := ?_
      open_iff := ?_
      shown := ?_ }
  · intro address hMem
    rcases hKept address hMem with hOld | hNew
    · rcases hTracked.kept address hOld with
        ⟨other, hBefore, hKey⟩
      exact ⟨other, mem_addresses_append hBefore _, hKey⟩
    · exact ⟨uri, hHere, hNew.symm⟩
  · intro other hMem hChecked
    rw [heldAfter_concat]
    by_cases hSame : other = uri
    · rw [hSame] at hChecked ⊢
      exact hOpen hChecked
    · have hBefore := mem_addresses_of_ne hAddress hMem hSame
      rw [hHeld other hSame,
        hOther other hBefore hSame hChecked]
      exact hTracked.open_iff other hBefore hChecked
  · intro other hMem
    by_cases hSame : other = uri
    · rw [hSame]
      exact hShown
    · have hBefore := mem_addresses_of_ne hAddress hMem hSame
      have hOld :
          lastPublished other (es ++ fs) =
            lastPublished other es := by
        rcases lastPublished_append_cases other es fs with
          ⟨ds, hNew, _⟩ | ⟨_, hOld⟩
        · exact absurd (hOnly _ hNew) hSame
        · exact hOld
      rw [hOld, hTracked.shown other hBefore]
      by_cases hChecked :
          HasCheckedScheme (Workspace.key other)
      · rw [Server.expected_of_get?_eq
          (hOther other hBefore hSame hChecked)]
      · rw [Server.expected_of_unchecked s hChecked,
          Server.expected_of_unchecked _ hChecked]

/-
  A message that is about no document, and after which none is
  published, keeps the server in step.
-/
theorem quiet
    (hTracked : Tracked setting start ms s es)
    {m : Message}
    (hAddress : m.address? = none)
    (hSettings : m.settings? = none)
    (hHeld : m.held (heldAfter ms) = heldAfter ms)
    {fs : List Effect}
    (hQuiet : publications fs = []) :
    Tracked setting start (ms ++ [m]) s (es ++ fs) := by
  have hAccepted :=
    acceptedSettings_concat_of_none ms hSettings
  have hAddresses : addresses (ms ++ [m]) = addresses ms := by
    rw [addresses_concat, hAddress]
    exact List.append_nil _
  refine
    { remoteServer_eq := hTracked.remoteServer_eq
      encodingName_eq := hTracked.encodingName_eq
      settings_eq := hAccepted ▸ hTracked.settings_eq
      tool_eq := hAccepted ▸ hTracked.tool_eq
      requests_eq := hAccepted ▸ hTracked.requests_eq
      kept := hAddresses ▸ hTracked.kept
      open_iff := ?_
      shown := ?_ }
  · rw [heldAfter_concat, hHeld, hAddresses]
    exact hTracked.open_iff
  · intro uri hMem
    rw [hAddresses] at hMem
    rw [lastPublished_append_of_nil hQuiet,
      hTracked.shown uri hMem]

/-
  Settings that can be used keep the server in step, as the
  open documents are published.
-/
theorem accept
    (hTracked : Tracked setting start ms s es)
    (hSettled : Settled U)
    (hWithin : ∀ uri ∈ addresses ms, U uri)
    {payload : Json}
    {settings : Settings}
    (hAccepted :
      (Settings.parse payload).value = some settings)
    {fs : List Effect}
    (hPublished :
      publications fs =
        (s.configured setting.engine settings).announced
          setting (Workspace.uris s.workspace)) :
    Tracked setting start (ms ++ [.configured payload])
      (s.configured setting.engine settings) (es ++ fs) := by
  have hSettings :
      acceptedSettings (ms ++ [.configured payload]) =
        acceptedSettings ms ++ [settings] := by
    rw [acceptedSettings_concat, Message.settings?, hAccepted]
    rfl
  have hAddresses :
      addresses (ms ++ [.configured payload]) =
        addresses ms := by
    rw [addresses_concat]
    exact List.append_nil _
  refine
    { remoteServer_eq := hTracked.remoteServer_eq
      encodingName_eq := hTracked.encodingName_eq
      settings_eq := ?_
      tool_eq := ?_
      requests_eq := ?_
      kept := hAddresses ▸ hTracked.kept
      open_iff := ?_
      shown := ?_ }
  · rw [hSettings, List.getLast?_concat]
    rfl
  · rw [hSettings, toolAfter_concat, ← hTracked.requests_eq,
      ← hTracked.remoteServer_eq]
    rfl
  · rw [hSettings, List.countP_append, ← hTracked.requests_eq]
    simp [Server.configured, requestsFor,
      List.countP_cons]
  · rw [heldAfter_concat, hAddresses]
    exact hTracked.open_iff
  · intro uri hMem
    rw [hAddresses] at hMem
    have hKept :
        ∀ address ∈ Workspace.uris s.workspace,
          ∃ other, U other ∧
            Workspace.key other = address := by
      intro address hIn
      rcases hTracked.kept address hIn with
        ⟨other, hOther, hKey⟩
      exact ⟨other, hWithin other hOther, hKey⟩
    apply Server.shown_of_announced
      (s := s.configured setting.engine settings) hSettled
      hKept (hWithin uri hMem) hPublished
    rw [hTracked.shown uri hMem]
    rintro (hClosed | hUnchecked)
    · exact congrArg some (Server.expected_of_none hClosed)
    · exact congrArg some
        (Server.expected_of_unchecked s hUnchecked)

end Tracked

end ProseCheck

------------------------------------------------------------
-- Runs
------------------------------------------------------------

namespace ProseCheck

namespace Server

variable
  {τ ω : Type}
  [Workspace ω]
  {setting : Setting τ}
  {start s : Server τ ω}
  {U : String → Prop}
  {ms : List Message}
  {es : List Effect}

/- A run ends where the run after its first message does. -/
theorem value_run_cons
    (setting : Setting τ)
    (s : Server τ ω)
    (m : Message)
    (later : List Message) :
    (run setting s (m :: later)).value =
      (run setting (s.handle setting m).value.2 later).value :=
  rfl

/- A run does what its first message does, and then the rest. -/
theorem entries_run_cons
    (setting : Setting τ)
    (s : Server τ ω)
    (m : Message)
    (later : List Message) :
    (run setting s (m :: later)).entries =
      (s.handle setting m).entries ++
        (run setting (s.handle setting m).value.2
          later).entries :=
  rfl

/- A server has nothing to be out of step with at first. -/
theorem tracked_start
    (setting : Setting τ)
    (remoteServer encodingName : Option String) :
    let start : Server τ ω := { remoteServer, encodingName }
    Tracked setting start [] start [] :=
  { remoteServer_eq := rfl
    encodingName_eq := rfl
    settings_eq := rfl
    tool_eq := rfl
    requests_eq := rfl
    kept := by simp [Workspace.uris_empty]
    open_iff := by simp [addresses]
    shown := by simp [addresses] }

/- All that is announced for an address is about it. -/
theorem fst_of_announced_singleton
    {uri : String}
    {fs : List Effect}
    (hPublished :
      publications fs = s.announced setting [uri]) :
    ∀ p ∈ publications fs, p.1 = uri := by
  intro p hMem
  rw [hPublished] at hMem
  exact List.mem_singleton.mp
    (exists_snapshot_of_announced hMem).1

/- Opening a document keeps the server in step. -/
theorem handle_opened_tracked
    (hSteady : setting.Steady)
    (hSettled : Settled U)
    (hTracked : Tracked setting start ms s es)
    (document : Document)
    (hWithin :
      ∀ uri ∈ addresses (ms ++ [.opened document]), U uri) :
    let r := s.handle setting (.opened document)
    Tracked setting start (ms ++ [.opened document])
      r.value.2 (es ++ r.entries) := by
  intro r
  rcases handle_opened hSteady s document with
    ⟨hNext, hPublished⟩
  have hOpen :
      (Workspace.get? (Workspace.put s.workspace document)
        document.uri).isSome := by
    rw [Workspace.get?_put_self]
    rfl
  rw [hNext]
  refine hTracked.publish rfl rfl hSettled hWithin ?_ ?_ ?_ ?_
    (fst_of_announced_singleton hPublished) ?_
  · intro address hMem
    rw [Workspace.uris_put] at hMem
    split at hMem
    · exact Or.inl hMem
    · simpa using hMem
  · intro other hKey
    rw [Workspace.get?_put, if_neg hKey]
  · intro other hNe
    simp [Message.held, hNe]
  · intro _
    exact iff_of_true List.mem_cons_self hOpen
  · apply shown_of_open List.mem_cons_self ?_ hPublished
    intro other hMem
    rw [List.mem_singleton.mp hMem]
    exact hOpen

/-
  Changing a document that the editor holds open keeps the
  server in step.  The server may have lost a document that
  is not checked, and then may find it in a file.
-/
theorem handle_changed_tracked
    (hSteady : setting.Steady)
    (hSettled : Settled U)
    (hTracked : Tracked setting start ms s es)
    {uri : String}
    (version : Option Int)
    (changes : List TextChange)
    (hWithin :
      ∀ other ∈
        addresses (ms ++ [.changed uri version changes]),
          U other)
    (hHeld : uri ∈ heldAfter ms) :
    let r := s.handle setting (.changed uri version changes)
    Tracked setting start
      (ms ++ [.changed uri version changes]) r.value.2
      (es ++ r.entries) := by
  intro r
  have hMem := heldAfter_subset_addresses ms hHeld
  have hSame :
      (Workspace.get?
          (Workspace.change s.workspace s.encoding uri
            version changes) uri).isSome ↔
        (Workspace.get? s.workspace uri).isSome := by
    rw [Workspace.get?_change_self, Option.isSome_map]
  rcases handle_changed hSteady s uri version changes with
    ⟨hNext, hPublished⟩
  rw [hNext]
  refine hTracked.publish rfl rfl hSettled hWithin ?_ ?_ ?_ ?_
    (fst_of_announced_singleton hPublished) ?_
  · intro address hKept
    rw [Workspace.uris_change] at hKept
    exact Or.inl hKept
  · intro other hKey
    rw [Workspace.get?_change, if_neg hKey]
  · intro other _
    rfl
  · intro hChecked
    rw [hSame]
    exact hTracked.open_iff uri hMem hChecked
  · by_cases hOpen : (Workspace.get? s.workspace uri).isSome
    · apply shown_of_open List.mem_cons_self ?_ hPublished
      intro other hOther
      rw [List.mem_singleton.mp hOther]
      exact hSame.mpr hOpen
    · have hUnchecked :
          ¬ HasCheckedScheme (Workspace.key uri) :=
        fun hChecked => hOpen
          ((hTracked.open_iff uri hMem hChecked).mp hHeld)
      apply shown_of_unchecked hUnchecked hPublished
      rw [hTracked.shown uri hMem,
        expected_of_unchecked s hUnchecked]

/- Closing a document keeps the server in step. -/
theorem handle_closed_tracked
    (hSettled : Settled U)
    (hTracked : Tracked setting start ms s es)
    (uri : String)
    (hWithin :
      ∀ other ∈ addresses (ms ++ [.closed uri]), U other) :
    let r := s.handle setting (.closed uri)
    Tracked setting start (ms ++ [.closed uri]) r.value.2
      (es ++ r.entries) := by
  intro r
  have hClosed := Workspace.get?_erase_self s.workspace uri
  refine hTracked.publish rfl rfl hSettled hWithin ?_ ?_ ?_ ?_
    ?_ ?_
  · intro address hMem
    rw [Workspace.uris_erase] at hMem
    exact Or.inl (List.mem_filter.mp hMem).1
  · intro other hKey
    rw [Workspace.get?_erase, if_neg hKey]
  · intro other hNe
    simp [Message.held, hNe]
  · intro _
    rw [hClosed]
    simp [Message.held]
  · intro p hMem
    rw [List.mem_singleton.mp hMem]
  · rw [expected_of_none hClosed]
    exact lastPublished_append_of_singleton rfl es

/- Settings of any kind keep the server in step. -/
theorem handle_configured_tracked
    (hSteady : setting.Steady)
    (hSettled : Settled U)
    (hTracked : Tracked setting start ms s es)
    (payload : Json)
    (hWithin : ∀ uri ∈ addresses ms, U uri) :
    let r := s.handle setting (.configured payload)
    Tracked setting start (ms ++ [.configured payload])
      r.value.2 (es ++ r.entries) := by
  intro r
  cases hParse : (Settings.parse payload).value with
  | none =>
      rcases handle_rejected setting s hParse with
        ⟨hNext, hQuiet⟩
      have hSettings :
          (Message.configured payload).settings? = none :=
        hParse
      rw [hNext]
      exact hTracked.quiet rfl hSettings rfl hQuiet
  | some settings =>
      rcases handle_accepted hSteady s hParse with
        ⟨hNext, hPublished⟩
      rw [hNext]
      exact hTracked.accept hSettled hWithin hParse hPublished

/- Every permitted message keeps the server in step. -/
theorem handle_tracked
    (hSteady : setting.Steady)
    (hSettled : Settled U)
    (hTracked : Tracked setting start ms s es)
    {m : Message}
    (hWithin : ∀ uri ∈ addresses (ms ++ [m]), U uri)
    (hPermitted : m.Permitted (heldAfter ms)) :
    let r := s.handle setting m
    Tracked setting start (ms ++ [m]) r.value.2
      (es ++ r.entries) := by
  intro r
  cases m with
  | opened document =>
      exact handle_opened_tracked hSteady hSettled hTracked
        document hWithin
  | changed uri version changes =>
      exact handle_changed_tracked hSteady hSettled hTracked
        version changes hWithin hPermitted
  | closed uri =>
      exact handle_closed_tracked hSettled hTracked uri
        hWithin
  | configured payload =>
      apply handle_configured_tracked hSteady hSettled
        hTracked
      intro uri hMem
      exact hWithin uri (mem_addresses_append hMem _)
  | commands request =>
      exact hTracked.quiet rfl rfl rfl rfl
  | accepted arguments reply =>
      exact hTracked.quiet rfl rfl rfl
        (publications_accepted s arguments reply)
  | shutdown => exact hPermitted.elim

/- Every orderly run keeps the server in step. -/
theorem run_tracked
    (hSteady : setting.Steady)
    (hSettled : Settled U)
    (later : List Message)
    (hTracked : Tracked setting start ms s es)
    (hWithin : ∀ uri ∈ addresses (ms ++ later), U uri)
    (hOrderly : Orderly (heldAfter ms) later) :
    Tracked setting start (ms ++ later)
      (run setting s later).value
      (es ++ (run setting s later).entries) := by
  induction later generalizing ms s es with
  | nil =>
      unfold run
      rw [Recorded.value_pure, Recorded.entries_pure,
        List.append_nil, List.append_nil]
      exact hTracked
  | cons m later ih =>
      rcases hOrderly with ⟨hPermitted, hRest⟩
      have hSplit : ms ++ m :: later = ms ++ [m] ++ later := by
        simp
      rw [hSplit] at hWithin ⊢
      have hHere : ∀ uri ∈ addresses (ms ++ [m]), U uri := by
        intro uri hMem
        exact hWithin uri (mem_addresses_append hMem later)
      have hNext :=
        handle_tracked hSteady hSettled hTracked hHere
          hPermitted
      rw [← heldAfter_concat] at hRest
      rw [value_run_cons, entries_run_cons,
        ← List.append_assoc es]
      exact ih hNext hWithin hRest

end Server

end ProseCheck
