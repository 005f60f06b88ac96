import ProseCheck.Proofs.Engine.Spellings
import ProseCheck.Proofs.Text.Trim
import ProseCheck.Proofs.Text.WordSet

/-
  This file says what a manager asks for, and what it makes of
  the tools that it gets, whatever it was asked for before.

  A tool leaves out the rules of its manager and those of the
  call that it was built for.  The engine is told the same
  address or the same options every time.  Only the spellings
  depend on the calls before: they are passed with the first
  request for a language, and never again.  They are a set of
  words, so it does not matter in which order, how often, and
  with which blank ends the words were given.

  Main declarations:
    * `Tool.LeavesOut`
    * `ToolRequest.TellsOf`
    * `Rearranged`
    * `Manager.length_registrations_le`
    * `Manager.make_rearranged`
    * `Manager.attempts_independent`
-/

------------------------------------------------------------
-- Rules
------------------------------------------------------------

namespace ProseCheck

variable {τ : Type}

/-
  A tool leaves out exactly some rules, each of them once.  It
  was never told so if there are none.
-/
def Tool.LeavesOut
    (t : Tool τ)
    (rules : List String) : Prop :=
  match t.disabledRules with
  | none => rules = []
  | some rs =>
      rules ≠ [] ∧ rs.Nodup ∧ ∀ rule, rule ∈ rs ↔ rule ∈ rules

namespace Manager

/- The rules for a tool are those of the manager and its own. -/
theorem mem_rules
    {m : Manager}
    {rules : List String}
    (hRules : m.disabledRules = wordSet rules)
    (extra : List String)
    (rule : String) :
    rule ∈ m.rules extra ↔ rule ∈ rules ++ extra := by
  rw [Manager.rules, mem_wordSet, hRules, List.mem_append,
    mem_wordSet, List.mem_append]

/- A new tool leaves these rules out. -/
theorem leavesOut_toolOf
    {m : Manager}
    {rules : List String}
    (hRules : m.disabledRules = wordSet rules)
    (serial : Nat)
    (extra : List String)
    (state : τ) :
    (m.toolOf serial extra state).LeavesOut
      (rules ++ extra) := by
  have hMem := mem_rules hRules extra
  have hNone : m.rules extra = [] ↔ rules ++ extra = [] := by
    simp only [List.eq_nil_iff_forall_not_mem, hMem]
  unfold Tool.LeavesOut toolOf
  by_cases hEmpty : m.rules extra = []
  · simp only [hEmpty, List.isEmpty_nil, if_true]
    exact hNone.mp hEmpty
  · simp only [List.isEmpty_iff, hEmpty, if_false]
    exact ⟨fun h => hEmpty (hNone.mpr h),
      (pairwise_wordSet _).nodup, hMem⟩

/- So does any tool that an engine answers a call with. -/
theorem leavesOut_of_created
    {m : Manager}
    {rules : List String}
    (hRules : m.disabledRules = wordSet rules)
    {serial : Nat}
    {extra : List String}
    {answer : Except Failure τ}
    {t : Tool τ}
    (hCreated :
      answer.map (m.toolOf serial extra) = .ok t) :
    t.LeavesOut (rules ++ extra) := by
  cases answer with
  | error f => cases hCreated
  | ok state =>
      cases hCreated
      exact leavesOut_toolOf hRules serial extra state

/- The tool starts in the state that the engine gave it. -/
theorem map_state_toolOf
    (m : Manager)
    (serial : Nat)
    (extra : List String)
    (answer : Except Failure τ) :
    (answer.map (m.toolOf serial extra)).map Tool.state =
      answer := by
  cases answer with
  | error f => rfl
  | ok state => rfl

end Manager

end ProseCheck

------------------------------------------------------------
-- Addresses and Options
------------------------------------------------------------

namespace ProseCheck

/-
  What a request tells of the engine: that it is elsewhere, if
  an address is known, and nothing else.  If it is here, then
  the options that it is to run with, if there are any.
-/
structure ToolRequest.TellsOf
    (r : ToolRequest)
    (remote : Option String)
    (config : List (String × Json)) : Prop where
  elsewhere :
    ∀ address, remote = some address → address ≠ "" →
      r.remoteServer = some address ∧
        r.config = none ∧ r.spellings = none
  here :
    (∀ address, remote = some address → address = "") →
      r.remoteServer = none ∧
        (config = [] → r.config = none) ∧
        (config ≠ [] → r.config = some config)

namespace Manager

/- An address that holds something is kept. -/
theorem address?_of_ne
    {address : String}
    (hText : address ≠ "") :
    address? (some address) = some address := by
  simp [address?, hText]

/- There is no address if none was given, or an empty one. -/
theorem address?_eq_none
    {remote : Option String}
    (hNone : ∀ address, remote = some address → address = "") :
    address? remote = none := by
  cases remote with
  | none => rfl
  | some address => simp [address?, hNone address rfl]

/- Requests tell what the manager was made with. -/
theorem tellsOf_request
    {m : Manager}
    {remote : Option String}
    {config : List (String × Json)}
    (hRemote : m.remoteServer = address? remote)
    (hConfig : m.config = config)
    (language : String) :
    (m.request language).TellsOf remote config := by
  constructor
  · rintro address rfl hText
    rw [address?_of_ne hText] at hRemote
    simp [request, registers, hRemote]
  · intro hNone
    rw [address?_eq_none hNone] at hRemote
    refine ⟨hRemote, ?_, ?_⟩
    · intro hEmpty
      simp [request, hConfig, hEmpty]
    · intro hSome
      simp [request, hRemote, hConfig, hSome]

end Manager

end ProseCheck

------------------------------------------------------------
-- Registrations
------------------------------------------------------------

namespace ProseCheck

variable {τ : Type}

/- A request for a language that passes spellings. -/
def ToolRequest.passesFor
    (language : String)
    (r : ToolRequest) : Bool :=
  r.language == language && r.spellings.isSome

/- The requests of a run that pass spellings for a language. -/
def registrations
    (language : String)
    (run : List (ToolAttempt τ)) : List ToolRequest :=
  (run.flatMap (fun a => a.requests)).filter
    (ToolRequest.passesFor language)

namespace Manager

/- Spellings are passed where they are to be registered. -/
theorem passesFor_request_iff
    (m : Manager)
    (other language : String) :
    (m.request other).passesFor language = true ↔
      other = language ∧ m.registers other = true := by
  rw [ToolRequest.passesFor, Bool.and_eq_true,
    Option.isSome_iff_exists]
  simp only [spellings_request_iff]
  simp [request]

/- The registrations of a run are those of each attempt. -/
theorem registrations_attempts_cons
    (engine : Engine τ)
    (m : Manager)
    (serial : Nat)
    (c : ToolCall)
    (cs : List ToolCall)
    (language : String) :
    registrations language
        (m.attempts engine serial (c :: cs)) =
      let rest :=
        registrations language
          ((m.register c.language).attempts engine
            (serial + 1) cs)
      if (m.request c.language).passesFor language then
        m.request c.language :: rest
      else
        rest := by
  rw [attempts_cons, registrations, List.flatMap_cons,
    List.singleton_append, List.filter_cons]
  rfl

/- What is registered stays so, and so does what is new. -/
theorem mem_registered_of_registers
    {m : Manager}
    {language other : String}
    (hKnown :
      other ∈ m.registered ∨
        (m.registers language = true ∧ other = language)) :
    other ∈ (m.register language).registered := by
  unfold register
  split
  · rename_i hRegisters
    rw [List.mem_append, List.mem_singleton]
    exact hKnown.imp_right (fun h => h.2)
  · rename_i hOld
    rcases hKnown with hMem | ⟨hRegisters, _⟩
    · exact hMem
    · exact absurd hRegisters hOld

/-
  Spellings are passed at most once for a language, and not at
  all if they are registered for it already.
-/
theorem length_registrations_le
    (engine : Engine τ)
    (m : Manager)
    (serial : Nat)
    (calls : List ToolCall)
    (language : String) :
    (registrations language
        (m.attempts engine serial calls)).length ≤
      if language ∈ m.registered then 0 else 1 := by
  induction calls generalizing m serial with
  | nil => exact Nat.zero_le _
  | cons c cs ih =>
      have hRest := ih (m.register c.language) (serial + 1)
      rw [registrations_attempts_cons]
      dsimp only
      split
      · rename_i hPasses
        rcases (passesFor_request_iff m _ _).mp hPasses with
          ⟨rfl, hRegisters⟩
        have hNew := (registers_iff.mp hRegisters).2.2
        have hMem :
            c.language ∈
              (m.register c.language).registered :=
          mem_registered_of_registers
            (.inr ⟨hRegisters, rfl⟩)
        -- from here on, the language is registered
        rw [if_pos hMem] at hRest
        rw [if_neg hNew, List.length_cons]
        omega
      · refine hRest.trans ?_
        split
        · exact Nat.zero_le _
        · rename_i hOut
          have hNew : language ∉ m.registered :=
            fun hMem =>
              hOut (mem_registered_of_registers (.inl hMem))
          rw [if_neg hNew]

end Manager

end ProseCheck

------------------------------------------------------------
-- Words
------------------------------------------------------------

namespace ProseCheck

/-
  Lists of words that differ in nothing that counts: neither
  order nor repetitions do, nor blank characters around a word.
-/
inductive Rearranged :
    List (Option String) → List (Option String) → Prop where
  | permuted
      {ws vs : List (Option String)}
      (hPerm : ws.Perm vs) :
      Rearranged ws vs
  | repeated
      {ws : List (Option String)}
      {w : Option String}
      (hMem : w ∈ ws) :
      Rearranged ws (w :: ws)
  | padded
      (ws : List (Option String))
      (w before after : String)
      (hBefore : ∀ c ∈ before.toList, isBlank c = true)
      (hAfter : ∀ c ∈ after.toList, isBlank c = true) :
      Rearranged (some w :: ws)
        (some (before ++ w ++ after) :: ws)
  | symm
      {ws vs : List (Option String)}
      (h : Rearranged ws vs) :
      Rearranged vs ws
  | trans
      {us ws vs : List (Option String)}
      (hFirst : Rearranged us ws)
      (hSecond : Rearranged ws vs) :
      Rearranged us vs

namespace Manager

/- The spellings are the words that are left of those given. -/
theorem mem_spellings
    (words : List (Option String))
    (w : String) :
    w ∈ spellings words ↔
      w ≠ "" ∧ ∃ v, some v ∈ words ∧ strip v = w := by
  rw [spellings, mem_wordSet, List.mem_filter,
    List.mem_filterMap, and_comm]
  simp

/- Rearranged words leave the same words. -/
theorem exists_strip_of_rearranged
    {words others : List (Option String)}
    (hSame : Rearranged words others)
    (w : String) :
    (∃ v, some v ∈ words ∧ strip v = w) ↔
      ∃ v, some v ∈ others ∧ strip v = w := by
  induction hSame with
  | permuted hPerm => simp only [hPerm.mem_iff]
  | repeated hMem =>
      constructor
      · rintro ⟨v, hOld, hWord⟩
        exact ⟨v, List.mem_cons_of_mem _ hOld, hWord⟩
      · rintro ⟨v, hNew, hWord⟩
        rcases List.mem_cons.mp hNew with rfl | hOld
        · exact ⟨v, hMem, hWord⟩
        · exact ⟨v, hOld, hWord⟩
  | padded ws u before after hBefore hAfter =>
      simp only [List.mem_cons, Option.some_inj, or_and_right,
        exists_or, exists_eq_left,
        strip_padded u hBefore hAfter]
  | symm _ ih => exact ih.symm
  | trans _ _ ihFirst ihSecond =>
      exact ihFirst.trans ihSecond

/- A manager is the same for words that are rearranged. -/
theorem make_rearranged
    {words others : List (Option String)}
    (hSame : Rearranged words others)
    (rules : List String)
    (remote : Option String)
    (config : Option (List (String × Json))) :
    make others rules remote config =
      make words rules remote config := by
  have hSpellings : spellings others = spellings words := by
    rw [spellings, spellings, wordSet_eq_iff]
    intro w
    have hWords := mem_spellings words w
    have hOthers := mem_spellings others w
    rw [spellings, mem_wordSet] at hWords hOthers
    rw [hOthers, hWords, exists_strip_of_rearranged hSame]
  rw [make, make, hSpellings]

end Manager

end ProseCheck

------------------------------------------------------------
-- Runs
------------------------------------------------------------

namespace ProseCheck

variable {τ : Type}

namespace Manager

/- There is an attempt for each call, in their order. -/
theorem map_call_attempts
    (engine : Engine τ)
    (m : Manager)
    (serial : Nat)
    (calls : List ToolCall) :
    (m.attempts engine serial calls).map (fun a => a.call) =
      calls := by
  induction calls generalizing m serial with
  | nil => rfl
  | cons c cs ih =>
      rw [attempts_cons, List.map_cons, ih]

/-
  In any run of calls, each call makes one request, and the
  engine answers it.  The request tells of the engine what the
  manager was made with.  A tool that is created leaves out
  the rules of the manager and of its own call.

  The words are passed with the first request for a language
  on this machine, so at most once for each.  They are what is
  left of the words given, each once, in the order of their
  code points, and the same for words that are rearranged.
-/
theorem attempts_independent
    (engine : Engine τ)
    (words : List (Option String))
    (rules : List String)
    (remote : Option String)
    (config : Option (List (String × Json)))
    (serial : Nat)
    (calls : List ToolCall) :
    let m := make words rules remote config
    let run := m.attempts engine serial calls
    run.map (fun a => a.call) = calls ∧
      (∀ front a back, run = front ++ a :: back →
        ∃ r, a.requests = [r] ∧
          r.language = a.call.language ∧
          r.TellsOf remote (config.getD defaultConfig) ∧
          (∀ ws, r.spellings = some ws ↔
            m.words = ws ∧ m.words ≠ [] ∧
              address? remote = none ∧
              ∀ b ∈ front, ¬ b.SameLanguage a) ∧
          a.outcome.map Tool.state =
            engine.create (serial + front.length) r ∧
          ∀ t, a.outcome = .ok t →
            t.LeavesOut (rules ++ a.call.extra)) ∧
      (∀ language,
        (registrations language run).length ≤ 1) ∧
      (m.words.map codePoints).Pairwise (· < ·) ∧
      (∀ w, w ∈ m.words ↔
        w ≠ "" ∧ ∃ v, some v ∈ words ∧ strip v = w) ∧
      ∀ others, Rearranged words others →
        make others rules remote config = m := by
  intro m run
  refine ⟨map_call_attempts engine m serial calls, ?_, ?_,
    pairwise_codePoints_wordSet _, mem_spellings words,
    fun others hSame =>
      make_rearranged hSame rules remote config⟩
  · intro front a back hRun
    let languages := front.map (fun b => b.call.language)
    let n := m.registerAll languages
    rcases m.registerAll_eq languages with ⟨known, hSame⟩
    rcases attempt_of_split hRun with ⟨hRequests, hOutcome⟩
    have hFirst :
        a.call.language ∉ languages ↔
          ∀ b ∈ front, ¬ b.SameLanguage a := by
      simp [languages, ToolAttempt.SameLanguage]
    have hRules : n.disabledRules = wordSet rules :=
      congrArg Manager.disabledRules hSame
    have hRemote : n.remoteServer = address? remote :=
      congrArg Manager.remoteServer hSame
    have hConfig : n.config = config.getD defaultConfig :=
      congrArg Manager.config hSame
    refine ⟨n.request a.call.language, hRequests, rfl,
      tellsOf_request hRemote hConfig _, ?_, ?_, ?_⟩
    · intro ws
      rw [← hFirst]
      exact spellings_request_registerAll_iff rfl languages
        a.call.language ws
    · rw [hOutcome]
      exact map_state_toolOf n _ _ _
    · intro t hCreated
      rw [hOutcome] at hCreated
      exact leavesOut_of_created hRules hCreated
  · intro language
    have hNew : language ∉ m.registered := List.not_mem_nil
    have hBound :=
      length_registrations_le engine m serial calls language
    rwa [if_neg hNew] at hBound

/-
  The first of three requests is refused.  The rule of its
  call is not left out by the tool of the next one, which is
  for the same language and gets no spellings.  The third
  call is for another language, so these are passed again.
  An engine elsewhere gets neither options nor spellings.
-/
theorem attempts_independent_refused :
    let words := [some "b", none, some "a"]
    let others :=
      [none, some (" " ++ "b" ++ ""), some "b", some "a"]
    let m := make words ["R"] (some "") none
    make others ["R"] (some "") none = m ∧
      ∃ a b c,
        m.attempts (Engine.refusing [0]) 0
            [⟨"en", ["X"]⟩, ⟨"en", []⟩, ⟨"fr", ["Y"]⟩] =
          [a, b, c] ∧
        (∀ t, a.outcome ≠ .ok t) ∧
        (∃ r t, b.requests = [r] ∧ b.outcome = .ok t ∧
          r.config = some defaultConfig ∧
          r.spellings = none ∧ t.LeavesOut ["R"]) ∧
        (∃ r t, c.requests = [r] ∧ c.outcome = .ok t ∧
          r.spellings = some m.words ∧
          t.LeavesOut ["R", "Y"]) ∧
        ∃ d r,
          (make words ["R"] (some "host") none).attempts
              (Engine.refusing []) 0 [⟨"en", []⟩] = [d] ∧
            d.requests = [r] ∧
            r.remoteServer = some "host" ∧
            r.config = none ∧ r.spellings = none := by
  intro words others m
  obtain ⟨_, hAttempts, _, _, _, hOthers⟩ :=
    attempts_independent (Engine.refusing [0]) words ["R"]
      (some "") none 0
      [⟨"en", ["X"]⟩, ⟨"en", []⟩, ⟨"fr", ["Y"]⟩]
  have hRepeated : Rearranged words (some "b" :: words) :=
    .repeated (by decide)
  have hBefore : ∀ c ∈ " ".toList, isBlank c = true :=
    List.all_eq_true.mp (by decide)
  have hAfter : ∀ c ∈ "".toList, isBlank c = true :=
    List.all_eq_true.mp (by decide)
  have hPadded :=
    hRepeated.trans
      (.padded words "b" " " "" hBefore hAfter)
  have hSame : Rearranged words others :=
    hPadded.trans (.permuted (by decide))
  obtain ⟨a, b, c, hRun, hFirst, hEnglish, hFrench, hRefused,
      ⟨s, hSecond⟩, t, hThird⟩ :
      ∃ a b c,
        m.attempts (Engine.refusing [0]) 0
            [⟨"en", ["X"]⟩, ⟨"en", []⟩, ⟨"fr", ["Y"]⟩] =
          [a, b, c] ∧
        a.call = ⟨"en", ["X"]⟩ ∧ b.call = ⟨"en", []⟩ ∧
        c.call = ⟨"fr", ["Y"]⟩ ∧
        a.outcome = .error ⟨.system, "no engine"⟩ ∧
        b.Succeeds ∧ c.Succeeds :=
    ⟨_, _, _, rfl, rfl, rfl, rfl, rfl, ⟨_, rfl⟩, ⟨_, rfl⟩⟩
  have hOther : ¬ a.SameLanguage c ∧ ¬ b.SameLanguage c := by
    simp [ToolAttempt.SameLanguage, hFirst, hEnglish, hFrench]
  have hAgain : a.SameLanguage b := by
    simp [ToolAttempt.SameLanguage, hFirst, hEnglish]
  refine
    ⟨hOthers others hSame, a, b, c, hRun, ?_, ?_, ?_, ?_⟩
  · intro t hCreated
    rw [hRefused] at hCreated
    cases hCreated
  · rcases hAttempts [a] b [c] hRun with
      ⟨r, hRequests, _, hTells, hPassed, _, hRules⟩
    have hLeft := hRules s hSecond
    rw [hEnglish] at hLeft
    have hConfig : r.config = some defaultConfig :=
      (hTells.here (by simp)).2.2 (by simp [defaultConfig])
    have hNone : r.spellings = none := by
      rw [Option.eq_none_iff_forall_ne_some]
      intro ws hSome
      exact ((hPassed ws).mp hSome).2.2.2 a (by simp) hAgain
    exact ⟨r, s, hRequests, hSecond, hConfig, hNone, hLeft⟩
  · rcases hAttempts [a, b] c [] hRun with
      ⟨r, hRequests, _, _, hPassed, _, hRules⟩
    have hLeft := hRules t hThird
    rw [hFrench] at hLeft
    have hWords : m.words ≠ [] :=
      spellings_ne_nil ⟨"b", by decide, by decide⟩
    have hSome : r.spellings = some m.words :=
      (hPassed m.words).mpr
        ⟨rfl, hWords, rfl, by simpa using hOther⟩
    exact ⟨r, t, hRequests, hThird, hSome, hLeft⟩
  · obtain ⟨_, hElsewhere, _⟩ :=
      attempts_independent (Engine.refusing []) words ["R"]
        (some "host") none 0 [⟨"en", []⟩]
    rcases hElsewhere [] _ [] rfl with
      ⟨r, hRequests, _, hTells, _⟩
    exact ⟨_, r, rfl, hRequests,
      hTells.elsewhere "host" rfl (by decide)⟩

end Manager

end ProseCheck
