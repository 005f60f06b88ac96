import ProseCheck.Proofs.Text.Trim
import ProseCheck.Settings

/-
  This file says which payloads hold settings, and which
  settings these are.

  A list of words is read from whatever lists items: nothing,
  null, a single string or a list.  The items are shown and
  trimmed, and those that are not blank are kept in order.
  A payload without a section of settings, or with a list that
  is anything else, holds none.  All words of settings that
  were read are tidy, so they are read back as they are.

  Main declarations:
    * `Json.Lists`
    * `Settings.ReadFrom`
    * `Settings.IsNormal`
    * `Settings.parse_eq_some_iff`
    * `Settings.parse_eq_none_iff`
    * `Settings.parse_exact`
-/

------------------------------------------------------------
-- Lists of Items
------------------------------------------------------------

namespace ProseCheck

namespace Json

/- The items that a field lists, if it is there. -/
inductive Lists : Option Json → List Json → Prop where
  | absent : Lists none []
  | null : Lists (some .null) []
  | single (s : String) : Lists (some (.str s)) [.str s]
  | several (items : List Json) :
      Lists (some (.arr items)) items

/- A value that is neither null, nor a string, nor a list. -/
def IsUnlistable
    (v : Json) : Prop :=
  v ≠ .null ∧ (∀ s, v ≠ .str s) ∧ ∀ items, v ≠ .arr items

/- What lists items is not of another kind. -/
theorem Lists.not_unlistable
    {v : Json}
    {items : List Json}
    (hLists : Lists (some v) items) :
    ¬ v.IsUnlistable := by
  rintro ⟨hNull, hString, hList⟩
  cases hLists with
  | null => exact hNull rfl
  | single s => exact hString s rfl
  | several => exact hList items rfl

/- The items that are listed are known. -/
theorem Lists.unique
    {o : Option Json}
    {items others : List Json}
    (hLists : Lists o items)
    (hOthers : Lists o others) :
    items = others := by
  cases hLists <;> cases hOthers <;> rfl

/- A value that is there and is not null. -/
def present? : Option Json → Option Json
  | some .null => none
  | o => o

end Json

end ProseCheck

------------------------------------------------------------
-- Settings as They Are Read
------------------------------------------------------------

namespace ProseCheck

/- The words among items that are not blank, in order. -/
def tidyWords
    (items : List Json) : List String :=
  items.filterMap (fun v => tidy? v.shown)

namespace Settings

/- A field under its usual name, or else under its long one. -/
def chosen?
    (fields : List (String × Json))
    (usual long : String) : Option Json :=
  (Json.lookup fields usual).or (Json.lookup fields long)

/- The rules that are not checked, as they are given. -/
def rulesGiven
    (fields : List (String × Json)) : Option Json :=
  chosen? fields "disabledRules" "disabled_rules"

/- The words to leave alone, as they are given. -/
def wordsGiven
    (fields : List (String × Json)) : Option Json :=
  chosen? fields "ignoredWords" "ignored_words"

/- The settings are those of the fields of a section. -/
structure ReadFrom
    (s : Settings)
    (fields : List (String × Json)) : Prop where
  language :
    s.language =
      (Json.present? (Json.lookup fields "language")).bind
        (fun v => tidy? v.shown)
  disabledRules :
    ∃ items, Json.Lists (rulesGiven fields) items ∧
      s.disabledRules = tidyWords items
  ignoredWords :
    ∃ items, Json.Lists (wordsGiven fields) items ∧
      s.ignoredWords = tidyWords items

/- All words of the settings are tidy. -/
structure IsNormal
    (s : Settings) : Prop where
  language : ∀ w ∈ s.language, IsTidy w
  disabledRules : ∀ w ∈ s.disabledRules, IsTidy w
  ignoredWords : ∀ w ∈ s.ignoredWords, IsTidy w

end Settings

end ProseCheck

------------------------------------------------------------
-- Fields
------------------------------------------------------------

namespace ProseCheck

/- What is empty is the empty string. -/
theorem tidy?_eq_ite
    (s : String) :
    tidy? s =
      if (strip s).isEmpty then none else some (strip s) := by
  rw [tidy?]
  exact if_congr String.isEmpty_iff.symm rfl rfl

/- The words that are kept are tidy. -/
theorem isTidy_of_mem_tidyWords
    {items : List Json}
    {w : String}
    (hMem : w ∈ tidyWords items) :
    IsTidy w := by
  rcases List.mem_filterMap.mp hMem with ⟨v, _, hWord⟩
  exact isTidy_of_tidy? hWord

/- A tidy word that is there is read as it is. -/
theorem IsTidy.bind_present?
    {w : String}
    (hTidy : IsTidy w) :
    (Json.present? (some (.str w))).bind
      (fun v => tidy? v.shown) = some w := by
  have hPresent :
      Json.present? (some (.str w)) = some (.str w) := rfl
  rw [hPresent, Option.bind_some, Json.shown]
  exact hTidy.tidy?_eq

/- Tidy words are kept as they are. -/
theorem tidyWords_strings
    {ws : List String}
    (hTidy : ∀ w ∈ ws, IsTidy w) :
    tidyWords (ws.map .str) = ws := by
  have hKept :
      ∀ w ∈ ws,
        ((fun v => tidy? v.shown) ∘ Json.str) w = some w := by
    intro w hMem
    rw [Function.comp_apply, Json.shown]
    exact (hTidy w hMem).tidy?_eq
  rw [tidyWords, List.filterMap_map,
    List.filterMap_congr hKept, List.filterMap_some]

namespace Settings

/- Words are read from items by keeping the tidy ones. -/
theorem wordsOf_eq
    (items : List Json) :
    wordsOf items = tidyWords items := by
  induction items with
  | nil => rfl
  | cons v vs ih =>
      have hRest :
          (vs.map (fun v => strip v.shown)).filter
            (fun w => !w.isEmpty) = tidyWords vs := ih
      rw [wordsOf, tidyWords, List.map_cons,
        List.filter_cons, List.filterMap_cons, hRest,
        tidy?_eq_ite]
      by_cases hEmpty : (strip v.shown).isEmpty = true
      · rw [hEmpty]
        rfl
      · rw [Bool.not_eq_true] at hEmpty
        rw [hEmpty]
        rfl

/- A field that was found is the one that was chosen. -/
theorem either?_map_snd
    (fields : List (String × Json))
    (usual long : String) :
    (either? fields usual long).map (·.2) =
      chosen? fields usual long := by
  unfold either? chosen?
  cases Json.lookup fields usual with
  | none =>
      rw [Option.none_or, Option.map_map]
      exact congrFun Option.map_id _
  | some v => rfl

/-
  A field of words lists items, whose tidy words are read, or
  it is of another kind, and is refused.
-/
theorem wordField_cases
    (fields : List (String × Json))
    (usual long : String) :
    (∃ items, Json.Lists (chosen? fields usual long) items ∧
        wordField fields usual long =
          .ok (tidyWords items)) ∨
      ∃ v e, chosen? fields usual long = some v ∧
        v.IsUnlistable ∧
        wordField fields usual long = .error e := by
  rw [← either?_map_snd]
  unfold wordField
  cases either? fields usual long with
  | none => exact Or.inl ⟨[], .absent, rfl⟩
  | some f =>
      rcases f with ⟨name, v⟩
      cases v with
      | null => exact Or.inl ⟨[], .null, rfl⟩
      | str s =>
          refine Or.inl ⟨[.str s], .single s, ?_⟩
          rw [← wordsOf_eq]
          rfl
      | arr items =>
          refine Or.inl ⟨items, .several items, ?_⟩
          rw [← wordsOf_eq]
          rfl
      | _ =>
          exact Or.inr ⟨_, _, rfl,
            by simp [Json.IsUnlistable], rfl⟩

/- The words of a field are those of the items that it lists. -/
theorem wordField_eq_ok_iff
    {fields : List (String × Json)}
    {usual long : String}
    {ws : List String} :
    wordField fields usual long = .ok ws ↔
      ∃ items, Json.Lists (chosen? fields usual long) items ∧
        ws = tidyWords items := by
  rcases wordField_cases fields usual long with
    ⟨items, hLists, hWords⟩ | ⟨v, e, hChosen, hOther, hWords⟩
  · rw [hWords, Except.ok.injEq]
    constructor
    · rintro rfl
      exact ⟨items, hLists, rfl⟩
    · rintro ⟨others, hOthers, rfl⟩
      rw [hLists.unique hOthers]
  · rw [hWords, hChosen]
    refine iff_of_false (by simp) ?_
    rintro ⟨items, hLists, _⟩
    exact hLists.not_unlistable hOther

/- A field is refused exactly if it is of another kind. -/
theorem wordField_eq_error_iff
    {fields : List (String × Json)}
    {usual long : String} :
    (∃ e, wordField fields usual long = .error e) ↔
      ∃ v, chosen? fields usual long = some v ∧
        v.IsUnlistable := by
  rcases wordField_cases fields usual long with
    ⟨items, hLists, hWords⟩ | ⟨v, e, hChosen, hOther, hWords⟩
  · rw [hWords]
    refine iff_of_false (by simp) ?_
    rintro ⟨v, hChosen, hOther⟩
    rw [hChosen] at hLists
    exact hLists.not_unlistable hOther
  · exact iff_of_true ⟨e, hWords⟩ ⟨v, hChosen, hOther⟩

/- The language is the tidy word of its field. -/
theorem languageOf_eq
    (o : Option Json) :
    languageOf (o.getD .null) =
      (Json.present? o).bind (fun v => tidy? v.shown) := by
  rcases o with _ | v
  · rfl
  by_cases hNull : v = .null
  · rw [hNull]
    rfl
  have hPresent : Json.present? (some v) = some v := by
    unfold Json.present?
    split
    · rename_i hSome
      exact absurd (Option.some.inj hSome) hNull
    · rfl
  rw [hPresent, Option.bind_some, tidy?_eq_ite,
    Option.getD_some]
  unfold languageOf
  split
  · contradiction
  · rfl

end Settings

end ProseCheck

------------------------------------------------------------
-- Sections
------------------------------------------------------------

namespace ProseCheck

namespace Settings

/- The settings of a section are those that are read from it. -/
theorem ofFields_eq_ok_iff
    {fields : List (String × Json)}
    {s : Settings} :
    ofFields fields = .ok s ↔ s.ReadFrom fields := by
  have hRules :=
    @wordField_eq_ok_iff fields "disabledRules"
      "disabled_rules"
  have hWords :=
    @wordField_eq_ok_iff fields "ignoredWords"
      "ignored_words"
  constructor
  · intro hOk
    unfold ofFields at hOk
    dsimp only at hOk
    split at hOk
    · rename_i rules words hRulesOk hWordsOk
      cases hOk
      exact
        { language := languageOf_eq _
          disabledRules := hRules.mp hRulesOk
          ignoredWords := hWords.mp hWordsOk }
    all_goals cases hOk
  · intro hRead
    rw [ofFields, hRules.mpr hRead.disabledRules,
      hWords.mpr hRead.ignoredWords]
    dsimp only
    rw [languageOf_eq, ← hRead.language]

/- A section is refused exactly if one of its lists is none. -/
theorem ofFields_eq_error_iff
    {fields : List (String × Json)} :
    (∃ es, ofFields fields = .error es) ↔
      (∃ v, rulesGiven fields = some v ∧ v.IsUnlistable) ∨
        ∃ v, wordsGiven fields = some v ∧
          v.IsUnlistable := by
  rw [rulesGiven, wordsGiven, ← wordField_eq_error_iff,
    ← wordField_eq_error_iff]
  unfold ofFields
  cases wordField fields "disabledRules" "disabled_rules" with
  | ok rules =>
      cases wordField fields "ignoredWords"
          "ignored_words" with
      | ok words => simp
      | error e => simp
  | error e =>
      cases wordField fields "ignoredWords"
          "ignored_words" with
      | ok words => simp
      | error f => simp

end Settings

end ProseCheck

------------------------------------------------------------
-- Payloads
------------------------------------------------------------

namespace ProseCheck

namespace Settings

/-
  A payload has no section of settings, or has one, and then
  its settings are those of the section, unless this is
  refused.
-/
theorem parse_cases
    (payload : Json) :
    ((∀ fields,
        payload.field? sectionName ≠ some (.obj fields)) ∧
      (parse payload).value = none) ∨
    ∃ fields,
      payload.field? sectionName = some (.obj fields) ∧
        ((∃ s, ofFields fields = .ok s ∧
            (parse payload).value = some s) ∨
          ∃ es, ofFields fields = .error es ∧
            (parse payload).value = none) := by
  unfold parse
  split
  · rename_i outer
    split
    · rename_i fields hSection
      refine Or.inr ⟨fields, hSection, ?_⟩
      cases ofFields fields with
      | ok s => exact Or.inl ⟨s, rfl, rfl⟩
      | error es => exact Or.inr ⟨es, rfl, rfl⟩
    · rename_i hNone
      exact Or.inl ⟨hNone, rfl⟩
  · rename_i hOther
    refine Or.inl ⟨?_, rfl⟩
    intro fields hSection
    cases payload with
    | obj outer => exact hOther outer rfl
    | _ => cases hSection

variable
  {payload : Json}
  {s : Settings}

/- The settings of a payload are those of its section. -/
theorem parse_eq_some_iff :
    (parse payload).value = some s ↔
      ∃ fields,
        payload.field? sectionName = some (.obj fields) ∧
          s.ReadFrom fields := by
  rcases parse_cases payload with
    ⟨hNone, hValue⟩ | ⟨fields, hSection, hRead⟩
  · rw [hValue]
    refine iff_of_false (by simp) ?_
    rintro ⟨fields, hSection, _⟩
    exact hNone fields hSection
  · simp only [hSection, Option.some.injEq, Json.obj.injEq,
      exists_eq_left', ← ofFields_eq_ok_iff]
    rcases hRead with ⟨r, hOk, hValue⟩ | ⟨es, hError, hValue⟩
    · rw [hValue, hOk, Option.some.injEq, Except.ok.injEq]
    · rw [hValue, hError]
      exact iff_of_false (by simp) (by simp)

/-
  A payload holds no settings exactly if it has no section of
  them, or if one of the lists in it is of another kind.
-/
theorem parse_eq_none_iff :
    (parse payload).value = none ↔
      (∀ fields,
        payload.field? sectionName ≠ some (.obj fields)) ∨
      ∃ fields,
        payload.field? sectionName = some (.obj fields) ∧
          ((∃ v, rulesGiven fields = some v ∧
              v.IsUnlistable) ∨
            ∃ v, wordsGiven fields = some v ∧
              v.IsUnlistable) := by
  simp only [← ofFields_eq_error_iff]
  rcases parse_cases payload with
    ⟨hNone, hValue⟩ | ⟨fields, hSection, hRead⟩
  · exact iff_of_true hValue (Or.inl hNone)
  rcases hRead with ⟨r, hOk, hValue⟩ | ⟨es, hError, hValue⟩
  · rw [hValue]
    refine iff_of_false (by simp) ?_
    rintro (hNone | ⟨others, hOther, es, hError⟩)
    · exact hNone fields hSection
    · rw [hSection] at hOther
      cases hOther
      rw [hOk] at hError
      cases hError
  · exact iff_of_true hValue
      (Or.inr ⟨fields, hSection, es, hError⟩)

end Settings

end ProseCheck

------------------------------------------------------------
-- Settings Written and Read
------------------------------------------------------------

namespace ProseCheck

namespace Settings

variable
  {payload : Json}
  {s : Settings}

/- What is read from a section is normal. -/
theorem ReadFrom.isNormal
    {fields : List (String × Json)}
    (hRead : s.ReadFrom fields) :
    s.IsNormal := by
  constructor
  · intro w hMem
    rw [hRead.language] at hMem
    rcases Option.mem_bind_iff.mp hMem with ⟨v, _, hWord⟩
    exact isTidy_of_tidy? hWord
  · intro w hMem
    rcases hRead.disabledRules with ⟨items, _, hWords⟩
    rw [hWords] at hMem
    exact isTidy_of_mem_tidyWords hMem
  · intro w hMem
    rcases hRead.ignoredWords with ⟨items, _, hWords⟩
    rw [hWords] at hMem
    exact isTidy_of_mem_tidyWords hMem

/- Normal settings are read back from what is written. -/
theorem IsNormal.parse_toJson
    (hNormal : s.IsNormal) :
    (parse s.toJson).value = some s := by
  refine parse_eq_some_iff.mpr ⟨_, rfl, ?_⟩
  constructor
  · cases hLanguage : s.language with
    | none => rfl
    | some l =>
        have hTidy := hNormal.language l hLanguage
        exact hTidy.bind_present?.symm
  · exact ⟨_, .several _,
      (tidyWords_strings hNormal.disabledRules).symm⟩
  · exact ⟨_, .several _,
      (tidyWords_strings hNormal.ignoredWords).symm⟩

/-
  Every payload either holds no settings, as it has no section
  of them or a list in it is of another kind, or it holds the
  settings that are read from its section.  These are normal,
  and are read back from what is written of them.
-/
theorem parse_exact
    (payload : Json) :
    ((parse payload).value = none ↔
      (∀ fields,
        payload.field? sectionName ≠ some (.obj fields)) ∨
      ∃ fields,
        payload.field? sectionName = some (.obj fields) ∧
          ((∃ v, rulesGiven fields = some v ∧
              v.IsUnlistable) ∨
            ∃ v, wordsGiven fields = some v ∧
              v.IsUnlistable)) ∧
    ∀ s, (parse payload).value = some s →
      (∃ fields,
        payload.field? sectionName = some (.obj fields) ∧
          s.ReadFrom fields) ∧
      s.IsNormal ∧
      (parse s.toJson).value = some s := by
  refine ⟨parse_eq_none_iff, ?_⟩
  intro s hSome
  rcases parse_eq_some_iff.mp hSome with
    ⟨fields, hSection, hRead⟩
  have hNormal := hRead.isNormal
  exact ⟨⟨fields, hSection, hRead⟩, hNormal,
    hNormal.parse_toJson⟩

/-
  A section with a language between blanks, with rules under
  both of their names, of which the second are no list, and
  with words of which one is blank and one is a number.
-/
theorem parse_exact_mixed :
    let payload : Json :=
      .obj [("languageTool", .obj
        [("language", .str " en-US "),
          ("disabled_rules", .bool true),
          ("disabledRules", .str "RULE"),
          ("ignoredWords",
            .arr [.str "b", .str " ", .bool true,
              .str " b"])])]
    let s : Settings :=
      ⟨some "en-US", ["RULE"], ["b", "True", "b"]⟩
    (parse payload).value = some s ∧ s.IsNormal ∧
      (parse s.toJson).value = some s := by
  intro payload s
  have hSome : (parse payload).value = some s := by decide
  exact ⟨hSome, ((parse_exact payload).2 s hSome).2⟩

end Settings

end ProseCheck
