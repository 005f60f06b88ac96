import Mathlib.Tactic.Common
import ProseCheck.Issue.Finding

/-
  This file describes issues in their normal form: the texts
  have no blank ends, nothing that has to be there is empty,
  and the end is not before the start.  Such an issue is read
  back from its own fields.  So every stretch of a text is
  that of some finding.

  Main declarations:
    * `Issue.IsNormal`
    * `Issue.ofFields_fields`
    * `Finding.between`
    * `Issue.ofFinding_between`
-/

------------------------------------------------------------
-- Fields
------------------------------------------------------------

namespace ProseCheck

namespace Json

/- A text without blank ends is read as it is. -/
theorem textField_str
    {s : String}
    (hStrip : strip s = s) :
    textField (.str s) = s := by
  unfold textField orElse isEmpty
  dsimp only
  split
  · rename_i hEmpty
    rw [String.isEmpty_iff.mp hEmpty]
    decide
  · exact hStrip

/- An offset is read as it is. -/
theorem offsetField_ofNat
    (n : Nat) :
    offsetField (.int n) = .ok n := by
  rw [offsetField, integerField]
  dsimp only
  rw [if_neg (Int.not_lt.mpr (Int.natCast_nonneg n)),
    Int.toNat_natCast]

/- Texts that are not empty are read as they are. -/
theorem shownItems_strings
    {texts : List String}
    (hTexts : ∀ s ∈ texts, s ≠ "") :
    shownItems (.arr (texts.map .str)) = texts := by
  unfold shownItems
  dsimp only
  rw [List.map_map]
  change ((texts.map id).filter _) = texts
  rw [List.map_id, List.filter_eq_self]
  intro s hMem
  simpa using hTexts s hMem

/- An integer, with zero for nothing, is read as it is. -/
theorem toInteger_orElse_int
    (n : Int) :
    ((Json.int n).orElse (.int 0)).toInteger = .ok n := by
  by_cases hZero : n = 0
  · rw [hZero]
    rfl
  · unfold orElse isEmpty
    simp [hZero, Json.toInteger]

end Json

/- A field that is there and can be read is read. -/
theorem Issue.required_of_lookup
    {α : Type}
    {fields : List (String × Json)}
    {name : String}
    {read : Json → Except FieldFault α}
    {v : Json}
    {a : α}
    (hLookup : Json.lookup fields name = some v)
    (hRead : read v = .ok a) :
    required fields name read = .ok a := by
  rw [required, hLookup]
  dsimp only
  rw [hRead]

end ProseCheck

------------------------------------------------------------
-- Normal Issues
------------------------------------------------------------

namespace ProseCheck

namespace Issue

/- An issue in its normal form. -/
structure IsNormal
    (i : Issue) : Prop where
  order : i.start ≤ i.stop
  message : strip i.message = i.message
  replacements : ∀ s ∈ i.replacements, s ≠ ""
  ruleId : strip i.ruleId = i.ruleId
  rule : i.ruleId ≠ ""
  ruleDescription :
    strip i.ruleDescription = i.ruleDescription
  description : i.ruleDescription ≠ ""
  issueType : strip i.issueType = i.issueType

/- An issue has no fields but those of the form. -/
theorem unknownFields_fields
    (i : Issue) :
    unknownFields i.fields = [] := by
  simp [unknownFields, fields, fieldNames]

/- A normal issue is read back from its own fields. -/
theorem ofFields_fields
    {i : Issue}
    (hNormal : i.IsNormal) :
    ofFields i.fields = .ok i := by
  have hStart :
      required i.fields "start" Json.offsetField =
        .ok i.start :=
    required_of_lookup rfl (Json.offsetField_ofNat i.start)
  have hStop :
      required i.fields "end" Json.offsetField =
        .ok i.stop :=
    required_of_lookup rfl (Json.offsetField_ofNat i.stop)
  have hMessage :
      required i.fields "message" (fun v => .ok v.textField) =
        .ok i.message :=
    required_of_lookup rfl
      (congrArg Except.ok
        (Json.textField_str hNormal.message))
  have hRule :
      required i.fields "rule_id" (fun v => .ok v.textField) =
        .ok i.ruleId :=
    required_of_lookup rfl
      (congrArg Except.ok
        (Json.textField_str hNormal.ruleId))
  have hDescription :
      descriptionOf i.fields = i.ruleDescription := by
    have hGiven :
        ((Json.lookup i.fields "rule_description").getD
          .null).textField = i.ruleDescription :=
      Json.textField_str hNormal.ruleDescription
    rw [descriptionOf, hGiven, if_neg]
    rw [String.isEmpty_iff]
    exact hNormal.description
  have hReplacements :
      ((Json.lookup i.fields "replacements").getD
        .null).shownItems = i.replacements :=
    Json.shownItems_strings hNormal.replacements
  have hType :
      Json.lookup i.fields "issue_type" =
        some (.str i.issueType) := rfl
  unfold ofFields
  simp only [hStart, hStop, hMessage, hRule, hDescription,
    hReplacements, hType, unknownFields_fields,
    Json.textField_str hNormal.issueType]
  rw [checked, if_neg (Nat.not_lt.mpr hNormal.order), if_neg]
  rw [String.isEmpty_iff]
  exact hNormal.rule

end Issue

end ProseCheck

------------------------------------------------------------
-- Findings
------------------------------------------------------------

namespace ProseCheck

/- A finding that says nothing but where it lies. -/
def Finding.between
    (offset length : Int) : Finding :=
  ⟨[("offset", .int offset), ("errorLength", .int length)]⟩

namespace Issue

/- An issue of which nothing is known but where it lies. -/
def bare
    (start stop : Nat) : Issue :=
  ⟨start, stop, "", [], "UNKNOWN", "UNKNOWN", "unknown"⟩

/- Between offsets in order, such an issue is normal. -/
theorem bare_isNormal
    {start stop : Nat}
    (hOrder : start ≤ stop) :
    (bare start stop).IsNormal := by
  have hUnknown : strip "UNKNOWN" = "UNKNOWN" := by decide
  have hText : "UNKNOWN" ≠ "" := by decide
  exact
    { order := hOrder
      message := (by decide : strip "" = "")
      replacements := fun s hMem => absurd hMem (by simp [bare])
      ruleId := hUnknown
      rule := hText
      ruleDescription := hUnknown
      description := hText
      issueType := (by decide : strip "unknown" = "unknown") }

/-
  A finding that says nothing but where it lies has the
  fields of a bare issue, however the place is written.
-/
theorem issueFields_of_place
    {first extent : Json}
    {offset length : Nat}
    (hFirst :
      (first.orElse (.int 0)).toInteger = .ok (offset : Int))
    (hExtent :
      (extent.orElse (.int 0)).toInteger =
        .ok (length : Int)) :
    (Finding.mk
      [("offset", first), ("errorLength", extent)]).issueFields =
        .ok (bare offset (offset + length)).fields := by
  let f : Finding :=
    ⟨[("offset", first), ("errorLength", extent)]⟩
  have hStart : f.integer "offset" = .ok (offset : Int) :=
    hFirst
  have hLength : f.integer "errorLength" = .ok (length : Int) :=
    hExtent
  have hStop : max (length : Int) 0 = length :=
    Int.max_eq_left (Int.natCast_nonneg length)
  change f.issueFields = _
  unfold Finding.issueFields
  simp only [hStart, hLength, bind, Except.bind, hStop]
  rfl

/- Such a finding is about an issue at its place. -/
theorem ofFinding_of_place
    {first extent : Json}
    {offset length : Nat}
    (hFirst :
      (first.orElse (.int 0)).toInteger = .ok (offset : Int))
    (hExtent :
      (extent.orElse (.int 0)).toInteger =
        .ok (length : Int)) :
    ofFinding
      ⟨[("offset", first), ("errorLength", extent)]⟩ =
        .ok (bare offset (offset + length)) := by
  have hNormal :=
    bare_isNormal (Nat.le_add_right offset length)
  unfold ofFinding
  rw [issueFields_of_place hFirst hExtent]
  dsimp only
  rw [ofFields_fields hNormal]
  rfl

/-
  Any stretch of a text is what the issue of some finding is
  about.
-/
theorem ofFinding_between
    (offset length : Nat) :
    ofFinding (.between offset length) =
      .ok (bare offset (offset + length)) :=
  ofFinding_of_place (Json.toInteger_orElse_int offset)
    (Json.toInteger_orElse_int length)

end Issue

end ProseCheck
