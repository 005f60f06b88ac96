import ProseCheck.Proofs.Issue.Normal
import ProseCheck.Proofs.Text.Trim

/-
  This file says which issues are read from the fields of a
  form, and from findings.

  All texts of such an issue are trimmed, and what has to be
  there is there.  Of the replacements this holds with one
  exception.  Empty items of a list are dropped, but a single
  value is taken as it is, so that an empty string, given by
  itself, becomes an empty replacement.  Such an issue is not
  the one that is read back from its own fields.  A finding
  always gives a list, so its issue is normal.

  Main declarations:
    * `Json.shown_eq_empty_iff`
    * `Issue.ReadFrom`
    * `Issue.ofFields_eq_ok_iff`
    * `Issue.ReadFrom.isNormal_iff`
    * `Issue.ReadFrom.readBack_iff`
    * `Issue.ofFields_normal_iff`
-/

------------------------------------------------------------
-- Shown Values
------------------------------------------------------------

namespace ProseCheck

/- A number with a point or an exponent is not left out. -/
theorem Binary64.layOut_ne_empty
    (cs : List Char)
    (point : Int) :
    layOut cs point ≠ "" := by
  unfold layOut
  dsimp only
  split
  · simp [String.append_eq_empty_iff]
  split
  · simp [String.append_eq_empty_iff]
  split
  · simp [String.append_eq_empty_iff]
  · simp [String.append_eq_empty_iff]

/- A number is shown as something. -/
theorem Binary64.display_ne_empty
    (x : Binary64) :
    x.display ≠ "" := by
  unfold display
  split
  · split
    · simp [String.append_eq_empty_iff]
    · simp [String.append_eq_empty_iff, layOut_ne_empty]
  · simp [String.append_eq_empty_iff]
  · decide

namespace Json

/- Inside of another value, a value is shown as something. -/
theorem inner_ne_empty
    (v : Json) :
    v.inner ≠ "" := by
  cases v with
  | null => decide
  | bool b => cases b <;> decide
  | int n =>
      rw [inner, Int.toString_eq_repr, Int.repr_eq_if]
      split
      · exact Nat.repr_ne_empty
      · simp [String.append_eq_empty_iff]
  | float x =>
      rw [inner]
      exact x.display_ne_empty
  | str s => simp [inner, Text.quoted, Text.asString]
  | arr items =>
      simp [inner, String.append_eq_empty_iff]
  | obj fields =>
      simp [inner, String.append_eq_empty_iff]

/- Only the empty string is shown as nothing. -/
theorem shown_eq_empty_iff
    (v : Json) :
    v.shown = "" ↔ v = .str "" := by
  cases v with
  | str s => simp [shown]
  | _ =>
      rw [shown]
      · exact iff_of_false (inner_ne_empty _) (by simp)
      · simp

/- Of a list, all items are shown that are not empty. -/
theorem shownItems_arr
    (items : List Json) :
    (arr items).shownItems =
      (items.map shown).filter (· ≠ "") := by
  rw [shownItems]
  apply List.filter_congr
  intro s _
  rw [Bool.eq_iff_iff]
  simp

/-
  None of the replacements of a field is empty, unless it is
  the empty string by itself.
-/
theorem shownItems_ne_empty_iff
    (v : Json) :
    (∀ s ∈ v.shownItems, s ≠ "") ↔ v ≠ .str "" := by
  unfold shownItems
  split
  · simp
  · rename_i items
    refine iff_of_true ?_ (by simp)
    intro s hMem
    have hText := (List.mem_filter.mp hMem).2
    simpa using hText
  · rename_i hNull hList
    simp only [List.mem_singleton, forall_eq]
    exact not_congr v.shown_eq_empty_iff

/- A field is read without blank ends. -/
theorem strip_textField
    (v : Json) :
    strip v.textField = v.textField :=
  strip_strip _

/- A field that stands for nothing is read as no text. -/
theorem textField_of_isEmpty
    {v : Json}
    (hEmpty : v.isEmpty = true) :
    v.textField = "" := by
  rw [textField, orElse, if_pos hEmpty]
  decide

end Json

end ProseCheck

------------------------------------------------------------
-- Reading a Form
------------------------------------------------------------

namespace ProseCheck

namespace Issue

/- The text that a field holds, if it is there. -/
def textOf
    (fields : List (String × Json))
    (name : String) : String :=
  ((Json.lookup fields name).getD .null).textField

/- The issue is the one that the fields of a form describe. -/
structure ReadFrom
    (i : Issue)
    (fields : List (String × Json)) : Prop where
  start :
    ∃ v, Json.lookup fields "start" = some v ∧
      v.offsetField = .ok i.start
  stop :
    ∃ v, Json.lookup fields "end" = some v ∧
      v.offsetField = .ok i.stop
  message :
    ∃ v, Json.lookup fields "message" = some v ∧
      v.textField = i.message
  ruleId :
    ∃ v, Json.lookup fields "rule_id" = some v ∧
      v.textField = i.ruleId
  replacements :
    i.replacements =
      ((Json.lookup fields "replacements").getD
        .null).shownItems
  ruleDescription :
    i.ruleDescription =
      if textOf fields "rule_description" = "" then i.ruleId
      else textOf fields "rule_description"
  issueType :
    i.issueType =
      ((Json.lookup fields "issue_type").map
        Json.textField).getD "unknown"
  known : unknownFields fields = []
  order : i.start ≤ i.stop
  rule : i.ruleId ≠ ""

/- A field is read exactly if it is there and can be read. -/
theorem required_eq_ok_iff
    {α : Type}
    {fields : List (String × Json)}
    {name : String}
    {read : Json → Except FieldFault α}
    {a : α} :
    required fields name read = .ok a ↔
      ∃ v, Json.lookup fields name = some v ∧
        read v = .ok a := by
  constructor
  · intro hOk
    unfold required at hOk
    split at hOk
    · cases hOk
    · rename_i v hLookup
      refine ⟨v, hLookup, ?_⟩
      split at hOk
      · rename_i b hRead
        rw [hRead]
        exact congrArg _ (Except.ok.inj hOk)
      · cases hOk
  · rintro ⟨v, hLookup, hRead⟩
    exact required_of_lookup hLookup hRead

/- A text is read exactly if it is there. -/
theorem required_text_eq_ok_iff
    {fields : List (String × Json)}
    {name : String}
    {s : String} :
    required fields name (fun v => .ok v.textField) = .ok s ↔
      ∃ v, Json.lookup fields name = some v ∧
        v.textField = s := by
  rw [required_eq_ok_iff]
  simp only [Except.ok.injEq]

/- The description is the given one, or else the rule. -/
theorem descriptionOf_eq
    (fields : List (String × Json)) :
    descriptionOf fields =
      if textOf fields "rule_description" = "" then
        textOf fields "rule_id"
      else
        textOf fields "rule_description" := by
  rw [descriptionOf]
  exact if_congr String.isEmpty_iff rfl rfl

/- An issue passes the last checks exactly if they hold. -/
theorem checked_eq_ok_iff
    {i j : Issue} :
    checked i = .ok j ↔
      i = j ∧ i.start ≤ i.stop ∧ i.ruleId ≠ "" := by
  unfold checked
  split
  · rename_i hLess
    refine iff_of_false (by simp) ?_
    rintro ⟨_, hOrder, _⟩
    omega
  split
  · rename_i hEmpty
    refine iff_of_false (by simp) ?_
    rintro ⟨_, _, hRule⟩
    exact hRule (String.isEmpty_iff.mp hEmpty)
  · rename_i hOrder hRule
    rw [Except.ok.injEq]
    have hText : i.ruleId ≠ "" := by
      simpa [String.isEmpty_iff] using hRule
    simp [Nat.le_of_not_lt hOrder, hText]

/- The rule of an issue is the one that is given. -/
theorem textOf_of_lookup
    {fields : List (String × Json)}
    {name s : String}
    (hText :
      ∃ v, Json.lookup fields name = some v ∧
        v.textField = s) :
    textOf fields name = s := by
  rcases hText with ⟨v, hLookup, hText⟩
  rw [textOf, hLookup]
  exact hText

/- The issue that a form is read as is the one it describes. -/
theorem readFrom_of_ofFields
    {fields : List (String × Json)}
    {i : Issue}
    (hOk : ofFields fields = .ok i) :
    i.ReadFrom fields := by
  unfold ofFields at hOk
  dsimp only at hOk
  split at hOk
  · rename_i start stop message rule
      hStart hStop hMessage hRule hKnown
    have hRuleText := required_text_eq_ok_iff.mp hRule
    have hDescription := descriptionOf_eq fields
    rw [textOf_of_lookup hRuleText] at hDescription
    rcases checked_eq_ok_iff.mp hOk with
      ⟨rfl, hOrder, hName⟩
    refine
      { start := required_eq_ok_iff.mp hStart
        stop := required_eq_ok_iff.mp hStop
        message := required_text_eq_ok_iff.mp hMessage
        ruleId := hRuleText
        replacements := rfl
        ruleDescription := ?_
        issueType := ?_
        known := hKnown
        order := hOrder
        rule := hName }
    · dsimp only
      exact hDescription
    · dsimp only
      cases Json.lookup fields "issue_type" <;> rfl
  · cases hOk

/- A form that describes an issue is read as this issue. -/
theorem ReadFrom.ofFields_eq
    {fields : List (String × Json)}
    {i : Issue}
    (hRead : i.ReadFrom fields) :
    ofFields fields = .ok i := by
  have hDescription := hRead.ruleDescription
  rw [← textOf_of_lookup hRead.ruleId,
    ← descriptionOf_eq] at hDescription
  have hType := hRead.issueType
  unfold ofFields
  simp only [required_eq_ok_iff.mpr hRead.start,
    required_eq_ok_iff.mpr hRead.stop,
    required_text_eq_ok_iff.mpr hRead.message,
    required_text_eq_ok_iff.mpr hRead.ruleId,
    hRead.known, ← hRead.replacements, ← hDescription]
  refine checked_eq_ok_iff.mpr
    ⟨?_, hRead.order, hRead.rule⟩
  cases hLookup : Json.lookup fields "issue_type" with
  | none =>
      rw [hLookup] at hType
      rw [show "unknown" = i.issueType from hType.symm]
  | some v =>
      rw [hLookup] at hType
      dsimp only
      rw [show v.textField = i.issueType from hType.symm]

/- A form is read exactly as the issue that it describes. -/
theorem ofFields_eq_ok_iff
    {fields : List (String × Json)}
    {i : Issue} :
    ofFields fields = .ok i ↔ i.ReadFrom fields :=
  ⟨readFrom_of_ofFields, ReadFrom.ofFields_eq⟩

end Issue

end ProseCheck

------------------------------------------------------------
-- Normal Forms
------------------------------------------------------------

namespace ProseCheck

namespace Issue

/- An issue of which the replacements are left out. -/
def withoutReplacements
    (i : Issue) : Issue :=
  { i with replacements := [] }

variable
  {fields : List (String × Json)}
  {i : Issue}

/- The description of an issue has no blank ends. -/
theorem ReadFrom.strip_ruleDescription
    (hRead : i.ReadFrom fields) :
    strip i.ruleDescription = i.ruleDescription := by
  rcases hRead.ruleId with ⟨v, _, hRule⟩
  rw [hRead.ruleDescription]
  split
  · rw [← hRule]
    exact v.strip_textField
  · exact Json.strip_textField _

/- Every issue has a description. -/
theorem ReadFrom.ruleDescription_ne_empty
    (hRead : i.ReadFrom fields) :
    i.ruleDescription ≠ "" := by
  rw [hRead.ruleDescription]
  split
  · exact hRead.rule
  · assumption

/- The type of an issue has no blank ends. -/
theorem ReadFrom.strip_issueType
    (hRead : i.ReadFrom fields) :
    strip i.issueType = i.issueType := by
  rw [hRead.issueType]
  cases Json.lookup fields "issue_type" with
  | none => decide
  | some v => exact v.strip_textField

/- But for its replacements, an issue that is read is normal. -/
theorem ReadFrom.isNormal_withoutReplacements
    (hRead : i.ReadFrom fields) :
    i.withoutReplacements.IsNormal := by
  rcases hRead.message with ⟨m, _, hMessage⟩
  rcases hRead.ruleId with ⟨r, _, hRule⟩
  refine
    { order := hRead.order
      message := ?_
      replacements := ?_
      ruleId := ?_
      rule := hRead.rule
      ruleDescription := hRead.strip_ruleDescription
      description := hRead.ruleDescription_ne_empty
      issueType := hRead.strip_issueType }
  · change strip i.message = i.message
    rw [← hMessage]
    exact m.strip_textField
  · intro s hMem
    cases hMem
  · change strip i.ruleId = i.ruleId
    rw [← hRule]
    exact r.strip_textField

/-
  The replacements are the items of a list that are not empty,
  as they are shown and in their order, or a single value.
-/
theorem ReadFrom.replacements_cases
    (hRead : i.ReadFrom fields) :
    match Json.lookup fields "replacements" with
    | none | some .null => i.replacements = []
    | some (.arr items) =>
        i.replacements =
          (items.map Json.shown).filter (· ≠ "")
    | some v => i.replacements = [v.shown] := by
  rw [hRead.replacements]
  cases Json.lookup fields "replacements" with
  | none => rfl
  | some v =>
      cases v with
      | arr items => exact Json.shownItems_arr items
      | _ => rfl

/- None is empty, unless the empty string was given. -/
theorem ReadFrom.replacements_ne_empty_iff
    (hRead : i.ReadFrom fields) :
    (∀ s ∈ i.replacements, s ≠ "") ↔
      Json.lookup fields "replacements" ≠ some (.str "") := by
  rw [hRead.replacements, Json.shownItems_ne_empty_iff]
  cases Json.lookup fields "replacements" with
  | none => simp
  | some v => simp

/- So the issue is normal, unless the empty string was given. -/
theorem ReadFrom.isNormal_iff
    (hRead : i.ReadFrom fields) :
    i.IsNormal ↔
      Json.lookup fields "replacements" ≠ some (.str "") := by
  rw [← hRead.replacements_ne_empty_iff]
  have hRest := hRead.isNormal_withoutReplacements
  constructor
  · exact IsNormal.replacements
  · intro hReplacements
    exact
      { order := hRest.order
        message := hRest.message
        replacements := hReplacements
        ruleId := hRest.ruleId
        rule := hRest.rule
        ruleDescription := hRest.ruleDescription
        description := hRest.description
        issueType := hRest.issueType }

/-
  An issue that is read back from its own fields has no empty
  replacements, as they are a list by then.
-/
theorem replacements_ne_empty_of_readBack
    (hBack : ofFields i.fields = .ok i) :
    ∀ s ∈ i.replacements, s ≠ "" := by
  have hList := (ofFields_eq_ok_iff.mp hBack).replacements
  change i.replacements =
    Json.shownItems (.arr (i.replacements.map .str)) at hList
  rw [hList]
  exact (Json.shownItems_ne_empty_iff _).mpr (by simp)

/- So exactly the normal issues are read back. -/
theorem ReadFrom.readBack_iff
    (hRead : i.ReadFrom fields) :
    ofFields i.fields = .ok i ↔
      Json.lookup fields "replacements" ≠ some (.str "") := by
  constructor
  · intro hBack
    exact hRead.replacements_ne_empty_iff.mp
      (replacements_ne_empty_of_readBack hBack)
  · intro hGiven
    exact ofFields_fields (hRead.isNormal_iff.mpr hGiven)

end Issue

end ProseCheck

------------------------------------------------------------
-- Findings
------------------------------------------------------------

namespace ProseCheck

/- The description that a finding gives, if it gives one. -/
def Finding.descriptionText
    (f : Finding) : String :=
  (f.value "ruleDescription" .null).textField

namespace Issue

variable
  {f : Finding}
  {i : Issue}

/- The fields of a finding, where they can be found. -/
theorem lookups_of_issueFields
    {fields : List (String × Json)}
    (hFields : f.issueFields = .ok fields) :
    ∃ start length items,
      f.integer "offset" = .ok start ∧
      f.integer "errorLength" = .ok length ∧
      f.replacements = .ok items ∧
      Json.lookup fields "start" = some (.int start) ∧
      Json.lookup fields "end" =
        some (.int (start + max length 0)) ∧
      Json.lookup fields "replacements" =
        some (.arr items) ∧
      Json.lookup fields "rule_id" =
        some (f.rule.orElse (.str "UNKNOWN")) ∧
      Json.lookup fields "rule_description" =
        some ((f.value "ruleDescription" .null).orElse
          (f.rule.orElse (.str "UNKNOWN"))) := by
  unfold Finding.issueFields at hFields
  cases hStart : f.integer "offset" with
  | error e =>
      rw [hStart] at hFields
      cases hFields
  | ok start =>
  cases hLength : f.integer "errorLength" with
  | error e =>
      rw [hStart, hLength] at hFields
      cases hFields
  | ok length =>
  cases hItems : f.replacements with
  | error e =>
      rw [hStart, hLength, hItems] at hFields
      cases hFields
  | ok items =>
      rw [hStart, hLength, hItems] at hFields
      cases hFields
      exact ⟨start, length, items, rfl, rfl, rfl, rfl, rfl,
        rfl, rfl, rfl⟩

/- A finding is read through its fields. -/
theorem readFrom_of_ofFinding
    (hIssue : ofFinding f = .ok i) :
    ∃ fields, f.issueFields = .ok fields ∧
      i.ReadFrom fields := by
  unfold ofFinding at hIssue
  split at hIssue
  · cases hIssue
  · rename_i fields hFields
    refine ⟨fields, hFields, ofFields_eq_ok_iff.mp ?_⟩
    cases hRead : ofFields fields with
    | ok j =>
        rw [hRead] at hIssue
        exact congrArg _ (Except.ok.inj hIssue)
    | error es =>
        rw [hRead] at hIssue
        cases hIssue

/- An offset is the integer that its field holds. -/
theorem integerField_of_offsetField
    {v : Json}
    {k : Nat}
    (hOffset : v.offsetField = .ok k) :
    v.integerField = .ok (k : Int) := by
  unfold Json.offsetField at hOffset
  split at hOffset
  · rename_i n hInteger
    split at hOffset
    · cases hOffset
    · have hSame := Except.ok.inj hOffset
      rw [hInteger]
      congr 1
      omega
  · cases hOffset

/- The integer that a field holds is the offset that is read. -/
theorem ReadFrom.integer_eq
    {fields : List (String × Json)}
    {n : Int}
    {k : Nat}
    {name : String}
    (hField :
      ∃ v, Json.lookup fields name = some v ∧
        v.offsetField = .ok k)
    (hLookup : Json.lookup fields name = some (.int n)) :
    n = k := by
  rcases hField with ⟨v, hOther, hOffset⟩
  rw [hLookup] at hOther
  cases hOther
  exact Except.ok.inj (integerField_of_offsetField hOffset)

/-
  The issue of a finding is normal.  It lies where the finding
  says, and has its replacements, and is described as the
  finding says, if it does.
-/
theorem normal_of_ofFinding
    (hIssue : ofFinding f = .ok i) :
    i.IsNormal ∧
      i.ruleDescription =
        (if f.descriptionText = "" then i.ruleId
          else f.descriptionText) ∧
      (∃ items, f.replacements = .ok items ∧
        i.replacements =
          (items.map Json.shown).filter (· ≠ "")) ∧
      f.integer "offset" = .ok (i.start : Int) ∧
      ∃ length, f.integer "errorLength" = .ok length ∧
        (i.stop : Int) - i.start = max length 0 := by
  rcases readFrom_of_ofFinding hIssue with
    ⟨fields, hFields, hRead⟩
  rcases lookups_of_issueFields hFields with
    ⟨start, length, items, hOffset, hLength, hGivenItems,
      hStart, hStop, hItems, hRule, hDescription⟩
  have hFirst := ReadFrom.integer_eq hRead.start hStart
  have hLast := ReadFrom.integer_eq hRead.stop hStop
  have hRuleText :
      (f.rule.orElse (.str "UNKNOWN")).textField =
        i.ruleId := by
    rcases hRead.ruleId with ⟨v, hLookup, hText⟩
    rw [hRule] at hLookup
    cases hLookup
    exact hText
  have hShown := hRead.replacements_cases
  rw [hItems] at hShown
  refine ⟨?_, ?_, ⟨items, hGivenItems, hShown⟩, ?_, length,
    hLength, ?_⟩
  · rw [hRead.isNormal_iff, hItems]
    simp
  · have hGiven := hRead.ruleDescription
    rw [textOf, hDescription, Option.getD_some] at hGiven
    rw [hGiven, Finding.descriptionText]
    by_cases hEmpty :
        (f.value "ruleDescription" .null).isEmpty = true
    · have hText := Json.textField_of_isEmpty hEmpty
      rw [hText, if_pos rfl, Json.orElse, if_pos hEmpty,
        hRuleText, ite_self]
    · rw [Json.orElse, if_neg hEmpty]
  · rw [hOffset, hFirst]
  · omega

end Issue

end ProseCheck

------------------------------------------------------------
-- Issues That Are Read
------------------------------------------------------------

namespace ProseCheck

namespace Issue

/-
  An issue that is read from a form is normal but for its
  replacements: it starts and ends at the integers that are
  given, and is described as it is said, or by its rule.  Its
  replacements are the items that are given and not empty, in
  their order, blank ones among them.  It is normal as a
  whole, and is read back from its own fields, exactly if its
  replacements were not given as the empty string by itself.

  An issue of a finding always is.  It starts at the offset of
  the finding, and is as long as the finding, or empty.
-/
theorem ofFields_normal_iff
    (i : Issue) :
    (∀ fields, ofFields fields = .ok i →
      i.withoutReplacements.IsNormal ∧
      (∃ v, Json.lookup fields "start" = some v ∧
        v.integerField = .ok (i.start : Int)) ∧
      (∃ v, Json.lookup fields "end" = some v ∧
        v.integerField = .ok (i.stop : Int)) ∧
      i.ruleDescription =
        (if textOf fields "rule_description" = "" then
          i.ruleId
        else
          textOf fields "rule_description") ∧
      (match Json.lookup fields "replacements" with
        | none | some .null => i.replacements = []
        | some (.arr items) =>
            i.replacements =
              (items.map Json.shown).filter (· ≠ "")
        | some v => i.replacements = [v.shown]) ∧
      (i.IsNormal ↔
        Json.lookup fields "replacements" ≠
          some (.str "")) ∧
      (ofFields i.fields = .ok i ↔
        Json.lookup fields "replacements" ≠
          some (.str ""))) ∧
    ∀ f, ofFinding f = .ok i →
      i.IsNormal ∧ ofFields i.fields = .ok i ∧
      i.ruleDescription =
        (if f.descriptionText = "" then i.ruleId
          else f.descriptionText) ∧
      (∃ items, f.replacements = .ok items ∧
        i.replacements =
          (items.map Json.shown).filter (· ≠ "")) ∧
      f.integer "offset" = .ok (i.start : Int) ∧
      ∃ length, f.integer "errorLength" = .ok length ∧
        (i.stop : Int) - i.start = max length 0 := by
  constructor
  · intro fields hOk
    have hRead := ofFields_eq_ok_iff.mp hOk
    rcases hRead.start with ⟨v, hStart, hFirst⟩
    rcases hRead.stop with ⟨w, hStop, hLast⟩
    exact ⟨hRead.isNormal_withoutReplacements,
      ⟨v, hStart, integerField_of_offsetField hFirst⟩,
      ⟨w, hStop, integerField_of_offsetField hLast⟩,
      hRead.ruleDescription, hRead.replacements_cases,
      hRead.isNormal_iff, hRead.readBack_iff⟩
  · intro f hIssue
    rcases normal_of_ofFinding hIssue with
      ⟨hNormal, hDescription, hShown, hPlace⟩
    exact ⟨hNormal, ofFields_fields hNormal, hDescription,
      hShown, hPlace⟩

/-
  A form with blanks around its texts, with a blank and an
  empty replacement and a blank description; and a finding of
  a negative length.
-/
theorem ofFields_normal_iff_blank :
    let form : List (String × Json) :=
      [("rule_id", .str " R "), ("start", .bool true),
        ("end", .int 4), ("message", .null),
        ("replacements", .arr [.str " ", .str ""]),
        ("rule_description", .str " ")]
    let i : Issue := ⟨1, 4, "", [" "], "R", "R", "unknown"⟩
    let f : Finding :=
      ⟨[("offset", .int 2), ("errorLength", .int (-1)),
        ("ruleId", .str "R")]⟩
    let j : Issue := ⟨2, 2, "", [], "R", "R", "unknown"⟩
    ofFields form = .ok i ∧ i.IsNormal ∧
      ofFields i.fields = .ok i ∧
      ofFinding f = .ok j ∧ j.IsNormal ∧
      ofFields j.fields = .ok j := by
  intro form i f j
  have hForm : ofFields form = .ok i := by decide
  have hFinding : ofFinding f = .ok j := by decide
  rcases (ofFields_normal_iff i).1 form hForm with
    ⟨_, _, _, _, _, hNormal, hBack⟩
  rcases (ofFields_normal_iff j).2 f hFinding with
    ⟨hOther, hAgain, _⟩
  have hList :
      Json.lookup form "replacements" ≠ some (.str "") := by
    have hLookup :
        Json.lookup form "replacements" =
          some (.arr [.str " ", .str ""]) := rfl
    rw [hLookup]
    simp
  exact ⟨hForm, hNormal.mpr hList, hBack.mpr hList,
    hFinding, hOther, hAgain⟩

/-
  A form whose only replacement is the empty string by itself.
  The issue has it for a replacement, and is not read back.
-/
theorem ofFields_empty_replacement :
    let form : List (String × Json) :=
      [("start", .int 0), ("end", .int 1),
        ("message", .str "m"), ("rule_id", .str "R"),
        ("replacements", .str "")]
    let i : Issue := ⟨0, 1, "m", [""], "R", "R", "unknown"⟩
    ofFields form = .ok i ∧ "" ∈ i.replacements ∧
      ofFields i.fields ≠ .ok i := by
  intro form i
  have hForm : ofFields form = .ok i := by decide
  have hEmpty : "" ∈ i.replacements :=
    List.mem_singleton_self ""
  refine ⟨hForm, hEmpty, ?_⟩
  intro hBack
  exact replacements_ne_empty_of_readBack hBack "" hEmpty rfl

end Issue

end ProseCheck
