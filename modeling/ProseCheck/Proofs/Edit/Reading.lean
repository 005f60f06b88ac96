import Mathlib.Data.List.Forall2
import ProseCheck.Edit.Reader

/-
  This file says which values are read as edits: the fields
  that have to be there, and what has to stand in them.  All
  other fields may hold anything.

  Main declarations:
    * `Json.Has`
    * `Change.ReadFrom`
    * `DocumentEdit.ReadFrom`
    * `DocumentEdit.ofJson?_eq_some_iff`
-/

------------------------------------------------------------
-- Fields
------------------------------------------------------------

namespace ProseCheck

namespace Json

/- A value has a field, and something holds of it. -/
def Has
    (v : Json)
    (name : String)
    (holds : Json → Prop) : Prop :=
  ∃ field, v.field? name = some field ∧ holds field

/- A value does not have a field, or a null in it. -/
def Lacks
    (v : Json)
    (name : String) : Prop :=
  v.field? name = none ∨ v.field? name = some .null

/- What is said of a field can be said in another way. -/
theorem has_congr
    {v : Json}
    {name : String}
    {holds holds' : Json → Prop}
    (hSame : ∀ w, holds w ↔ holds' w) :
    v.Has name holds ↔ v.Has name holds' :=
  exists_congr (fun w => and_congr_right' (hSame w))

end Json

/- There is a value as an option where there is no error. -/
theorem toOption_eq_some_iff
    {ε α : Type}
    {x : Except ε α}
    {a : α} :
    x.toOption = some a ↔ x = .ok a := by
  cases x <;> simp [Except.toOption]

/- The integer in a field is what the field converts to. -/
theorem integerAt?_eq_some_iff
    {v : Json}
    {name : String}
    {n : Int} :
    integerAt? v name = some n ↔
      v.Has name (fun w => w.toInteger = .ok n) := by
  rw [integerAt?, Option.bind_eq_bind, Option.bind_eq_some_iff]
  exact Json.has_congr (fun _ => toOption_eq_some_iff)

/- The text in a field is the field as it is shown. -/
theorem textAt?_eq_some_iff
    {v : Json}
    {name s : String} :
    textAt? v name = some s ↔
      v.Has name (fun w => w.shown = s) :=
  Option.map_eq_some_iff

end ProseCheck

------------------------------------------------------------
-- Lists
------------------------------------------------------------

namespace ProseCheck

variable {α β : Type}

/- A list is read if each of its items is. -/
theorem mapM_eq_some_iff
    {f : α → Option β}
    {xs : List α}
    {ys : List β} :
    xs.mapM f = some ys ↔
      List.Forall₂ (fun x y => f x = some y) xs ys := by
  induction xs generalizing ys with
  | nil => simp [eq_comm]
  | cons x xs ih =>
      rw [List.mapM_cons]
      simp only [Option.bind_eq_bind, Option.bind_eq_some_iff,
        ih, Option.pure_def, Option.some.injEq]
      constructor
      · rintro ⟨y, hFirst, rest, hRest, rfl⟩
        exact .cons hFirst hRest
      · rintro (_ | ⟨hFirst, hRest⟩)
        exact ⟨_, hFirst, _, hRest, rfl⟩

/- A list is not read exactly if one of its items is not. -/
theorem mapM_eq_none_iff
    {f : α → Option β}
    {xs : List α} :
    xs.mapM f = none ↔ ∃ x ∈ xs, f x = none := by
  induction xs with
  | nil => simp
  | cons x xs ih =>
      rw [List.mapM_cons, List.exists_mem_cons_iff, ← ih]
      cases f x with
      | none => simp
      | some y => cases xs.mapM f <;> simp

end ProseCheck

------------------------------------------------------------
-- Ranges
------------------------------------------------------------

namespace ProseCheck

namespace Position

/- A position that an editor and a server can exchange. -/
structure InBounds
    (p : Position) : Prop where
  line : p.line ≤ limit
  character : p.character ≤ limit

/- A position is read from its line and its column. -/
structure ReadFrom
    (p : Position)
    (v : Json) : Prop where
  line : v.Has "line" (fun w => w.toInteger = .ok p.line)
  character :
    v.Has "character"
      (fun w => w.toInteger = .ok p.character)
  inBounds : p.InBounds

/- A number that lies in the bounds is a natural number. -/
theorem bounded_eq_ok_iff
    {field : String}
    {n : Int}
    {k : Nat} :
    bounded field n = .ok k ↔ n = k ∧ k ≤ limit := by
  unfold bounded
  split
  · rename_i hOut
    simp only [reduceCtorEq, false_iff]
    omega
  · rename_i hIn
    simp only [Except.ok.injEq]
    omega

/- A line and a column are a position if both are in bounds. -/
theorem ofInts_eq_ok_iff
    {line character : Int}
    {p : Position} :
    ofInts line character = .ok p ↔
      line = p.line ∧ character = p.character ∧
        p.InBounds := by
  rw [ofInts]
  constructor
  · intro hRead
    cases hLine : bounded "line" line with
    | error f =>
        rw [hLine] at hRead
        cases hRead
    | ok l =>
        cases hCharacter : bounded "character" character with
        | error f =>
            rw [hLine, hCharacter] at hRead
            cases hRead
        | ok c =>
            rw [hLine, hCharacter] at hRead
            cases hRead
            rcases bounded_eq_ok_iff.mp hLine with
              ⟨rfl, hFirst⟩
            rcases bounded_eq_ok_iff.mp hCharacter with
              ⟨rfl, hSecond⟩
            exact ⟨rfl, rfl, hFirst, hSecond⟩
  · rintro ⟨rfl, rfl, hFirst, hSecond⟩
    rw [bounded_eq_ok_iff.mpr ⟨rfl, hFirst⟩,
      bounded_eq_ok_iff.mpr ⟨rfl, hSecond⟩]
    rfl

/- What it takes for a value to be read as a position. -/
theorem ofJson?_eq_some_iff
    {v : Json}
    {p : Position} :
    ofJson? v = some p ↔ p.ReadFrom v := by
  simp only [ofJson?, Option.bind_eq_bind,
    Option.bind_eq_some_iff, integerAt?_eq_some_iff,
    toOption_eq_some_iff, ofInts_eq_ok_iff]
  constructor
  · rintro ⟨line, hLine, character, hCharacter, rfl, rfl,
      hBounds⟩
    exact ⟨hLine, hCharacter, hBounds⟩
  · rintro ⟨hLine, hCharacter, hBounds⟩
    exact ⟨_, hLine, _, hCharacter, rfl, rfl, hBounds⟩

end Position

namespace Range

/- A range that an editor and a server can exchange. -/
structure InBounds
    (r : Range) : Prop where
  start : r.start.InBounds
  stop : r.stop.InBounds

/- A range is read from its two positions. -/
structure ReadFrom
    (r : Range)
    (v : Json) : Prop where
  start : v.Has "start" r.start.ReadFrom
  stop : v.Has "end" r.stop.ReadFrom

/- What it takes for a value to be read as a range. -/
theorem ofJson?_eq_some_iff
    {v : Json}
    {r : Range} :
    ofJson? v = some r ↔ r.ReadFrom v := by
  simp only [ofJson?, Option.bind_eq_bind,
    Option.bind_eq_some_iff, Position.ofJson?_eq_some_iff,
    Option.pure_def, Option.some.injEq]
  constructor
  · rintro ⟨first, hFirst, last, hLast, start, hStart, stop,
      hStop, rfl⟩
    exact ⟨⟨first, hFirst, hStart⟩, ⟨last, hLast, hStop⟩⟩
  · rintro ⟨⟨first, hFirst, hStart⟩, ⟨last, hLast, hStop⟩⟩
    exact ⟨first, hFirst, last, hLast, _, hStart, _, hStop,
      rfl⟩

end Range

/- The range in the field that changes have for it. -/
theorem rangeAt?_eq_some_iff
    {v : Json}
    {r : Range} :
    rangeAt? v = some r ↔ v.Has "range" r.ReadFrom := by
  rw [rangeAt?, Option.bind_eq_bind, Option.bind_eq_some_iff]
  exact Json.has_congr (fun _ => Range.ofJson?_eq_some_iff)

end ProseCheck

------------------------------------------------------------
-- Changes
------------------------------------------------------------

namespace ProseCheck

/-
  The text of a snippet is read from its value.  If there is
  a kind, it has to be the one of snippets.
-/
structure SnippetReadFrom
    (value : String)
    (v : Json) : Prop where
  kind :
    v.field? "kind" = none ∨
      v.Has "kind" (fun w => w.shown = snippetKind)
  value : v.Has "value" (fun w => w.shown = value)

/- What it takes for a value to be read as a snippet. -/
theorem snippetValue?_eq_some_iff
    {v : Json}
    {value : String} :
    snippetValue? v = some value ↔ SnippetReadFrom value v := by
  unfold snippetValue?
  cases hKind : textAt? v "kind" with
  | none =>
      have hMissing := Option.map_eq_none_iff.mp hKind
      dsimp only
      rw [textAt?_eq_some_iff]
      exact ⟨fun hValue => ⟨Or.inl hMissing, hValue⟩,
        fun hRead => hRead.value⟩
  | some kind =>
      have hShown := textAt?_eq_some_iff.mp hKind
      dsimp only
      split
      · rename_i hSame
        rw [textAt?_eq_some_iff]
        exact ⟨fun hValue =>
          ⟨Or.inr (hSame ▸ hShown), hValue⟩,
          fun hRead => hRead.value⟩
      · rename_i hOther
        simp only [reduceCtorEq, false_iff]
        rintro ⟨hMissing | hSnippet, _⟩
        · rw [textAt?, hMissing] at hKind
          cases hKind
        · rw [textAt?_eq_some_iff.mpr hSnippet] at hKind
          cases hKind
          exact hOther rfl

/- A note is read from its field, and null means none. -/
def NoteReadFrom
    (note : Option String)
    (v : Json) : Prop :=
  match note with
  | none => v.Lacks "annotationId"
  | some text =>
      v.Has "annotationId"
        (fun w => w ≠ .null ∧ w.shown = text)

/- What it takes for a note to be read from a value. -/
theorem noteAt_eq_iff
    {v : Json}
    {note : Option String} :
    noteAt v = note ↔ NoteReadFrom note v := by
  unfold noteAt NoteReadFrom Json.Lacks Json.Has
  cases v.field? "annotationId" with
  | none => cases note <;> simp
  | some w => cases w <;> cases note <;> simp

/-
  A change is read from its range and its text, which is in
  another field for snippets.  Where there is a snippet the
  change is to it, and else the note makes the difference.
-/
def Change.ReadFrom
    (v : Json) : Change → Prop
  | .plain range newText =>
      v.field? "snippet" = none ∧
        v.field? "annotationId" = none ∧
        v.Has "range" range.ReadFrom ∧
        v.Has "newText" (fun w => w.shown = newText)
  | .annotated range newText note =>
      v.field? "snippet" = none ∧
        v.Has "annotationId" (fun w => w.shown = note) ∧
        v.Has "range" range.ReadFrom ∧
        v.Has "newText" (fun w => w.shown = newText)
  | .snippet range value note =>
      v.Has "snippet" (SnippetReadFrom value) ∧
        NoteReadFrom note v ∧
        v.Has "range" range.ReadFrom

/- What it takes for a value to be read as a change. -/
theorem Change.ofJson?_eq_some_iff
    {v : Json}
    {c : Change} :
    ofJson? v = some c ↔ ReadFrom v c := by
  unfold ofJson?
  split
  · rename_i inner hInner
    simp only [Option.bind_eq_bind, Option.bind_eq_some_iff,
      rangeAt?_eq_some_iff, snippetValue?_eq_some_iff,
      Option.pure_def, Option.some.injEq]
    cases c with
    | plain => simp [ReadFrom, hInner]
    | annotated => simp [ReadFrom, hInner]
    | snippet range value note =>
        constructor
        · rintro ⟨_, hRange, _, hValue, hSame⟩
          cases hSame
          exact ⟨⟨inner, hInner, hValue⟩,
            noteAt_eq_iff.mp rfl, hRange⟩
        · rintro ⟨⟨_, hFound, hValue⟩, hNote, hRange⟩
          cases hInner.symm.trans hFound
          exact ⟨range, hRange, value, hValue,
            congrArg _ (noteAt_eq_iff.mpr hNote)⟩
  · rename_i w hNone hNote
    simp only [Option.bind_eq_bind, Option.bind_eq_some_iff,
      rangeAt?_eq_some_iff, textAt?_eq_some_iff,
      Option.pure_def, Option.some.injEq]
    cases c with
    | plain => simp [ReadFrom, hNote]
    | snippet => simp [ReadFrom, Json.Has, hNone]
    | annotated range newText note =>
        constructor
        · rintro ⟨_, hRange, _, hText, hSame⟩
          cases hSame
          exact ⟨hNone, ⟨w, hNote, rfl⟩, hRange, hText⟩
        · rintro ⟨_, ⟨_, hFound, rfl⟩, hRange, hText⟩
          cases hNote.symm.trans hFound
          exact ⟨range, hRange, newText, hText, rfl⟩
  · rename_i hNone hNoNote
    simp only [Option.bind_eq_bind, Option.bind_eq_some_iff,
      rangeAt?_eq_some_iff, textAt?_eq_some_iff,
      Option.pure_def, Option.some.injEq]
    cases c with
    | annotated => simp [ReadFrom, Json.Has, hNoNote]
    | snippet => simp [ReadFrom, Json.Has, hNone]
    | plain range newText =>
        constructor
        · rintro ⟨_, hRange, _, hText, hSame⟩
          cases hSame
          exact ⟨hNone, hNoNote, hRange, hText⟩
        · rintro ⟨_, _, hRange, hText⟩
          exact ⟨range, hRange, newText, hText, rfl⟩

end ProseCheck

------------------------------------------------------------
-- Edits
------------------------------------------------------------

namespace ProseCheck

namespace DocumentId

/- A version is read from its field, and null means none. -/
def VersionReadFrom
    (version : Option Int)
    (v : Json) : Prop :=
  match version with
  | none => v.Lacks "version"
  | some n => v.Has "version" (fun w => w.toInteger = .ok n)

/- What it takes for a version to be read from a value. -/
theorem versionAt?_eq_some_iff
    {v : Json}
    {version : Option Int} :
    versionAt? v = some version ↔
      VersionReadFrom version v := by
  unfold versionAt? VersionReadFrom Json.Lacks Json.Has
  cases v.field? "version" with
  | none => cases version <;> simp
  | some w =>
      cases w <;> cases version <;>
        simp [toOption_eq_some_iff, Json.toInteger]

/- A document is read from its name and its version. -/
structure ReadFrom
    (d : DocumentId)
    (v : Json) : Prop where
  uri : v.Has "uri" (fun w => w.shown = d.uri)
  version : VersionReadFrom d.version v

/- What it takes for a value to be read as a document. -/
theorem ofJson?_eq_some_iff
    {v : Json}
    {d : DocumentId} :
    ofJson? v = some d ↔ d.ReadFrom v := by
  simp only [ofJson?, Option.bind_eq_bind,
    Option.bind_eq_some_iff, textAt?_eq_some_iff,
    versionAt?_eq_some_iff, Option.pure_def,
    Option.some.injEq]
  constructor
  · rintro ⟨uri, hUri, version, hVersion, rfl⟩
    exact ⟨hUri, hVersion⟩
  · rintro ⟨hUri, hVersion⟩
    exact ⟨_, hUri, _, hVersion, rfl⟩

end DocumentId

namespace DocumentEdit

/- An edit is read from its document and its changes. -/
structure ReadFrom
    (e : DocumentEdit)
    (v : Json) : Prop where
  document : v.Has "textDocument" e.document.ReadFrom
  changes :
    v.Has "edits" (fun w =>
      ∃ items, w.toItems = .ok items ∧
        List.Forall₂ Change.ReadFrom items e.changes)

/- What it takes for a value to be read as an edit. -/
theorem ofJson?_eq_some_iff
    {v : Json}
    {e : DocumentEdit} :
    ofJson? v = some e ↔ e.ReadFrom v := by
  simp only [ofJson?, Option.bind_eq_bind,
    Option.bind_eq_some_iff, DocumentId.ofJson?_eq_some_iff,
    toOption_eq_some_iff, mapM_eq_some_iff,
    Change.ofJson?_eq_some_iff, Option.pure_def,
    Option.some.injEq]
  constructor
  · rintro ⟨id, hId, document, hDocument, w, hEdits, items,
      hItems, changes, hChanges, rfl⟩
    exact ⟨⟨id, hId, hDocument⟩,
      ⟨w, hEdits, items, hItems, hChanges⟩⟩
  · rintro ⟨⟨id, hId, hDocument⟩,
      ⟨w, hEdits, items, hItems, hChanges⟩⟩
    exact ⟨id, hId, _, hDocument, w, hEdits, items, hItems, _,
      hChanges, rfl⟩

end DocumentEdit

end ProseCheck
