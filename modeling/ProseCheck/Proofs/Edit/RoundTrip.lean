import ProseCheck.Edit.Command
import ProseCheck.Proofs.Edit.Reading

/-
  This file follows edits to an editor and back.  The editor
  hands on the objects in which it got them, in lists of any
  depth.  From these the edits are read from left to right,
  or none of them if one of the objects is not an edit.

  An edit that is sent and read is the same edit.

  Main declarations:
    * `Json.leaves`
    * `collectEdits?_eq_mapM`
    * `DocumentEdit.ofJson?_toJson_iff`
    * `collectEdits_roundTrip`
-/

------------------------------------------------------------
-- Leaves
------------------------------------------------------------

namespace ProseCheck

mutual

/- What an argument holds at any depth that is not a list. -/
def Json.leaves : Json → List Json
  | .arr items => leavesOf items
  | v => [v]

/- What several arguments hold, from left to right. -/
def leavesOf : List Json → List Json
  | [] => []
  | v :: vs => v.leaves ++ leavesOf vs

end

mutual

/- The edits of an argument are those of its leaves. -/
theorem editsOf?_eq_mapM
    (v : Json) :
    editsOf? v = v.leaves.mapM DocumentEdit.ofJson? := by
  cases v with
  | arr items =>
      rw [editsOf?, Json.leaves]
      exact collectEdits?_eq_mapM items
  | _ =>
      simp only [editsOf?, Json.leaves, List.mapM_cons,
        List.mapM_nil, Option.map_eq_bind]
      rfl

/- The edits of several arguments are those of the leaves. -/
theorem collectEdits?_eq_mapM
    (vs : List Json) :
    collectEdits? vs =
      (leavesOf vs).mapM DocumentEdit.ofJson? := by
  cases vs with
  | nil => rfl
  | cons v vs =>
      rw [collectEdits?, leavesOf, List.mapM_append,
        editsOf?_eq_mapM v, collectEdits?_eq_mapM vs]
      cases v.leaves.mapM DocumentEdit.ofJson? with
      | none => rfl
      | some es =>
          cases (leavesOf vs).mapM DocumentEdit.ofJson? <;> rfl

end

end ProseCheck

------------------------------------------------------------
-- Fields of Objects
------------------------------------------------------------

namespace ProseCheck

namespace Json

/- An object without fields does not have any field. -/
@[simp]
theorem field?_nil
    (name : String) :
    (Json.obj []).field? name = none :=
  rfl

/- The first field of an object is found by its name. -/
@[simp]
theorem field?_cons
    (name : String)
    (f : String × Json)
    (fs : List (String × Json)) :
    (Json.obj (f :: fs)).field? name =
      if f.1 = name then some f.2
      else (Json.obj fs).field? name := by
  rw [field?, lookup, List.find?_cons]
  by_cases hSame : f.1 = name
  · rw [if_pos hSame, beq_iff_eq.mpr hSame]
    rfl
  · rw [if_neg hSame, beq_eq_false_iff_ne.mpr hSame]
    rfl

end Json

end ProseCheck

------------------------------------------------------------
-- Sent Edits
------------------------------------------------------------

namespace ProseCheck

/- A position that is sent is read if it is in bounds. -/
theorem Position.readFrom_toJson
    {p : Position}
    (hBounds : p.InBounds) :
    p.ReadFrom p.toJson :=
  ⟨⟨.int p.line, by simp [toJson], rfl⟩,
    ⟨.int p.character, by simp [toJson], rfl⟩,
    hBounds⟩

namespace Range

/- A range that is read is in bounds. -/
theorem ReadFrom.inBounds
    {r : Range}
    {v : Json}
    (hRead : r.ReadFrom v) :
    r.InBounds := by
  rcases hRead with ⟨⟨_, _, hStart⟩, ⟨_, _, hStop⟩⟩
  exact ⟨hStart.inBounds, hStop.inBounds⟩

/- A range that is sent is read if it is in bounds. -/
theorem readFrom_toJson
    {r : Range}
    (hBounds : r.InBounds) :
    r.ReadFrom r.toJson :=
  ⟨⟨r.start.toJson, by simp [toJson],
      Position.readFrom_toJson hBounds.start⟩,
    ⟨r.stop.toJson, by simp [toJson],
      Position.readFrom_toJson hBounds.stop⟩⟩

end Range

/- The note of a snippet is read from where it is sent. -/
theorem noteReadFrom_toJson
    {range : Range}
    {value : String}
    {note : Option String} :
    NoteReadFrom note
      (Change.snippet range value note).toJson := by
  cases note with
  | none =>
      exact Or.inl (by simp [Change.toJson, noteField])
  | some text =>
      exact ⟨.str text, by simp [Change.toJson, noteField],
        by simp, rfl⟩

namespace Change

/- The range that a change is about. -/
def range : Change → Range
  | .plain range _ => range
  | .annotated range _ _ => range
  | .snippet range _ _ => range

/- A change that is read is in bounds. -/
theorem inBounds_of_readFrom
    {c : Change}
    {v : Json}
    (hRead : ReadFrom v c) :
    c.range.InBounds := by
  cases c with
  | plain =>
      rcases hRead with ⟨_, _, ⟨_, _, hRange⟩, _⟩
      exact hRange.inBounds
  | annotated =>
      rcases hRead with ⟨_, _, ⟨_, _, hRange⟩, _⟩
      exact hRange.inBounds
  | snippet =>
      rcases hRead with ⟨_, _, ⟨_, _, hRange⟩⟩
      exact hRange.inBounds

/- Changes that are read from a list are all in bounds. -/
theorem inBounds_of_forall₂
    {items : List Json}
    {changes : List Change}
    (hRead : List.Forall₂ ReadFrom items changes) :
    ∀ c ∈ changes, c.range.InBounds := by
  induction hRead with
  | nil => simp
  | cons hFirst _ ih =>
      exact List.forall_mem_cons.mpr
        ⟨inBounds_of_readFrom hFirst, ih⟩

/- A change that is sent is read if it is in bounds. -/
theorem readFrom_toJson
    {c : Change}
    (hBounds : c.range.InBounds) :
    ReadFrom c.toJson c := by
  have hRange := Range.readFrom_toJson hBounds
  cases c with
  | plain range newText =>
      refine ⟨by simp [toJson], by simp [toJson], ?_, ?_⟩
      · exact ⟨range.toJson, by simp [toJson], hRange⟩
      · exact ⟨.str newText, by simp [toJson], rfl⟩
  | annotated range newText note =>
      refine ⟨by simp [toJson], ?_, ?_, ?_⟩
      · exact ⟨.str note, by simp [toJson], rfl⟩
      · exact ⟨range.toJson, by simp [toJson], hRange⟩
      · exact ⟨.str newText, by simp [toJson], rfl⟩
  | snippet range value note =>
      have hSnippet :
          SnippetReadFrom value
            (.obj [("kind", .str snippetKind),
              ("value", .str value)]) :=
        ⟨Or.inr ⟨.str snippetKind, by simp, rfl⟩,
          ⟨.str value, by simp, rfl⟩⟩
      refine ⟨⟨_, ?_, hSnippet⟩, noteReadFrom_toJson, ?_⟩
      · simp [toJson]
      · exact ⟨range.toJson, by simp [toJson], hRange⟩

end Change

/- A document that is sent is read. -/
theorem DocumentId.readFrom_toJson
    (d : DocumentId) :
    d.ReadFrom d.toJson := by
  constructor
  · exact ⟨.str d.uri, by simp [toJson], rfl⟩
  · rcases d with ⟨uri, none | n⟩
    · exact Or.inr (by simp [toJson, versionJson])
    · exact ⟨.int n, by simp [toJson, versionJson], rfl⟩

namespace DocumentEdit

/- All ranges of an edit can be sent. -/
def InBounds
    (e : DocumentEdit) : Prop :=
  ∀ c ∈ e.changes, c.range.InBounds

/- An edit that is read is in bounds. -/
theorem ReadFrom.inBounds
    {e : DocumentEdit}
    {v : Json}
    (hRead : e.ReadFrom v) :
    e.InBounds := by
  rcases hRead.changes with ⟨_, _, _, _, hChanges⟩
  exact Change.inBounds_of_forall₂ hChanges

/- An edit that is sent is read if it is in bounds. -/
theorem readFrom_toJson
    {e : DocumentEdit}
    (hBounds : e.InBounds) :
    e.ReadFrom e.toJson := by
  have hChanges :
      List.Forall₂ Change.ReadFrom
        (e.changes.map Change.toJson) e.changes := by
    rw [List.forall₂_map_left_iff, List.forall₂_same]
    intro c hMem
    exact Change.readFrom_toJson (hBounds c hMem)
  constructor
  · exact ⟨e.document.toJson, by simp [toJson],
      e.document.readFrom_toJson⟩
  · exact ⟨.arr (e.changes.map Change.toJson),
      by simp [toJson], _, rfl, hChanges⟩

/-
  An edit comes back from an editor as it was sent exactly if
  its lines and columns can be sent.
-/
theorem ofJson?_toJson_iff
    {e : DocumentEdit} :
    ofJson? e.toJson = some e ↔ e.InBounds := by
  rw [ofJson?_eq_some_iff]
  exact ⟨ReadFrom.inBounds, readFrom_toJson⟩

end DocumentEdit

end ProseCheck

------------------------------------------------------------
-- Edits on Their Way
------------------------------------------------------------

namespace ProseCheck

/-
  From arguments that hold lists of any depth, the edits of
  the leaves are read from left to right, and nothing is read
  if one of the leaves is not an edit.  So it does not matter
  how the leaves are put into lists.

  An edit comes back as it was sent, whatever its changes and
  its version are, if an editor can be sent its lines and
  columns.  So does each edit that is offered for a
  diagnostic, and so do several, in lists of any depth.
-/
theorem collectEdits_roundTrip :
    (∀ (vs : List Json) (es : List DocumentEdit),
      collectEdits? vs = some es ↔
        List.Forall₂ (fun v e => e.ReadFrom v)
          (leavesOf vs) es) ∧
    (∀ vs : List Json,
      collectEdits? vs = none ↔
        ∃ v ∈ leavesOf vs,
          ∀ e : DocumentEdit, ¬ e.ReadFrom v) ∧
    (∀ vs ws : List Json,
      leavesOf vs = leavesOf ws →
        collectEdits? vs = collectEdits? ws) ∧
    (∀ e : DocumentEdit,
      DocumentEdit.ofJson? e.toJson = some e ↔
        e.InBounds) ∧
    (∀ (d : Diagnostic) (r : String) (id : DocumentId),
      d.range.InBounds →
        DocumentEdit.ofJson? (editFor d r id).toJson =
          some (editFor d r id)) ∧
    ∀ (vs : List Json) (es : List DocumentEdit),
      (∀ e ∈ es, e.InBounds) →
        leavesOf vs = es.map DocumentEdit.toJson →
          collectEdits? vs = some es := by
  have hReads (vs : List Json) (es : List DocumentEdit) :
      collectEdits? vs = some es ↔
        List.Forall₂ (fun v e => e.ReadFrom v)
          (leavesOf vs) es := by
    simp only [collectEdits?_eq_mapM, mapM_eq_some_iff,
      DocumentEdit.ofJson?_eq_some_iff]
  refine ⟨hReads, ?_, ?_, ?_, ?_, ?_⟩
  · intro vs
    rw [collectEdits?_eq_mapM, mapM_eq_none_iff]
    simp only [Option.eq_none_iff_forall_ne_some, ne_eq,
      DocumentEdit.ofJson?_eq_some_iff]
  · intro vs ws hLeaves
    rw [collectEdits?_eq_mapM, collectEdits?_eq_mapM, hLeaves]
  · intro e
    exact DocumentEdit.ofJson?_toJson_iff
  · intro d r id hBounds
    refine DocumentEdit.ofJson?_toJson_iff.mpr ?_
    exact List.forall_mem_singleton.mpr hBounds
  · intro vs es hBounds hLeaves
    rw [hReads, hLeaves, List.forall₂_map_left_iff,
      List.forall₂_same]
    intro e hMem
    exact DocumentEdit.readFrom_toJson (hBounds e hMem)

/-
  Two edits in lists of a different depth: one of a document
  without a version with a note and a snippet, and one that
  is offered for a diagnostic at the greatest column.
-/
theorem collectEdits_roundTrip_nested :
    let r : Range := ⟨⟨0, 0⟩, ⟨0, 2147483647⟩⟩
    let d : Diagnostic := { range := r, message := "a" }
    let e : DocumentEdit :=
      ⟨⟨"a", none⟩, [.annotated r "b" "c",
        .snippet r "d" none, .snippet r "e" (some "f")]⟩
    let f : DocumentEdit := editFor d "b" ⟨"a", some 7⟩
    let vs : List Json :=
      [.arr [.arr [], .arr [e.toJson]], f.toJson]
    r.InBounds ∧ e.InBounds ∧
      leavesOf vs = [e.toJson, f.toJson] ∧
      DocumentEdit.ofJson? f.toJson = some f ∧
      collectEdits? vs = some [e, f] ∧
      collectEdits? vs = collectEdits? [e.toJson, f.toJson] := by
  intro r d e f vs
  have hRange : r.InBounds := by
    refine ⟨⟨?_, ?_⟩, ⟨?_, ?_⟩⟩ <;> decide
  have hBounds : e.InBounds := by
    intro c hMem
    simp only [e, List.mem_cons, List.not_mem_nil,
      or_false] at hMem
    rcases hMem with rfl | rfl | rfl <;> exact hRange
  have hOffered : f.InBounds :=
    List.forall_mem_singleton.mpr hRange
  have hLeaves : leavesOf vs = [e.toJson, f.toJson] := rfl
  rcases collectEdits_roundTrip with
    ⟨_, _, hSame, _, hBack, hAll⟩
  refine ⟨hRange, hBounds, hLeaves, ?_, ?_, ?_⟩
  · exact hBack d "b" ⟨"a", some 7⟩ hRange
  · refine hAll vs [e, f] ?_ hLeaves
    exact List.forall_mem_cons.mpr
      ⟨hBounds, List.forall_mem_singleton.mpr hOffered⟩
  · exact hSame vs [e.toJson, f.toJson] rfl

end ProseCheck
