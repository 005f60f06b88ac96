import ProseCheck.Document
import ProseCheck.Text.Encoding
import ProseCheck.Text.Percent
import ProseCheck.Text.Position
import ProseCheck.Text.Rows

/-
  This file applies the changes that an editor reports to the
  texts of documents, and says what is expected of a workspace
  that keeps the documents.

  Key definitions include:
    * `TextChange`
    * `TextChange.apply`
    * `Workspace`
-/

------------------------------------------------------------
-- Changes
------------------------------------------------------------

namespace ProseCheck

/- A new text, for a range of a document or for all of it. -/
structure TextChange where
  range : Option Range
  text : Text
deriving DecidableEq, Repr

/- A row whose carriage return and line feed count as one. -/
def foldBreak : Text → Text
  | [] => []
  | '\r' :: '\n' :: cs => '\n' :: foldBreak cs
  | c :: cs => c :: foldBreak cs

/-
  The number of characters of a row before a column.  One
  that the column cuts in two is counted.
-/
def charsBefore
    (e : Encoding)
    (column : Nat) : Text → Nat
  | [] => 0
  | c :: cs =>
      if column = 0 then 0
      else charsBefore e (column - e.width c) cs + 1

/-
  The row and the character in it that a position means.
  Past the last row it means the end of that row.
-/
def placeIn
    (e : Encoding)
    (rows : List Text)
    (p : Position) : Nat × Nat :=
  match rows[p.line]? with
  | some row =>
      (p.line, charsBefore e p.character (foldBreak row))
  | none =>
      match rows.getLast? with
      | some row => (rows.length - 1, e.units row)
      | none => (0, 0)

/- The offset at which a row of a text starts. -/
def rowStart
    (rows : List Text)
    (row : Nat) : Nat :=
  (rows.take row).flatten.length

/- The offset in a text that a position of an editor means. -/
def offsetIn
    (e : Encoding)
    (t : Text)
    (p : Position) : Nat :=
  let rows := t.rows
  let place := placeIn e rows p
  let width := ((rows[place.1]?).getD []).length
  rowStart rows place.1 + min place.2 width

namespace TextChange

/- The text after a change. -/
def apply
    (e : Encoding)
    (t : Text)
    (c : TextChange) : Text :=
  match c.range with
  | none => c.text
  | some r =>
      t.take (offsetIn e t r.start) ++ c.text ++
        t.drop (offsetIn e t r.stop)

end TextChange

end ProseCheck

------------------------------------------------------------
-- Workspaces
------------------------------------------------------------

namespace ProseCheck

namespace Workspace

/- The address under which a document is kept. -/
def key
    (uri : String) : String :=
  percentDecoded uri

/- A document after changes, with a new version. -/
def changed
    (e : Encoding)
    (version : Option Int)
    (changes : List TextChange)
    (d : Document) : Document :=
  { d with
    version
    text := changes.foldl (TextChange.apply e) d.text }

end Workspace

/-
  A workspace keeps the documents that an editor holds open,
  in the order in which they were opened.  Each is kept under
  its address without percent sequences, and goes by that
  from then on.

  A document that is opened replaces one that is kept under
  the same address, in its place.  To change a document that
  is not open does nothing.
-/
class Workspace
    (ω : Type) where
  empty : ω
  uris : ω → List String
  get? : ω → String → Option Document
  put : ω → Document → ω
  erase : ω → String → ω
  change :
    ω → Encoding → String → Option Int → List TextChange → ω
  uris_nodup :
    ∀ w, (uris w).Nodup
  mem_uris_iff :
    ∀ w uri,
      Workspace.key uri ∈ uris w ↔ (get? w uri).isSome
  uri_of_get? :
    ∀ w uri d,
      get? w uri = some d → d.uri = Workspace.key uri
  uris_empty :
    uris empty = []
  uris_put :
    ∀ w d,
      uris (put w d) =
        if Workspace.key d.uri ∈ uris w then uris w
        else uris w ++ [Workspace.key d.uri]
  uris_erase :
    ∀ w closed,
      uris (erase w closed) =
        (uris w).filter (· ≠ Workspace.key closed)
  uris_change :
    ∀ w e subject version changes,
      uris (change w e subject version changes) = uris w
  get?_put :
    ∀ w d uri,
      get? (put w d) uri =
        if Workspace.key uri = Workspace.key d.uri then
          some { d with uri := Workspace.key d.uri }
        else
          get? w uri
  get?_erase :
    ∀ w closed uri,
      get? (erase w closed) uri =
        if Workspace.key uri = Workspace.key closed then none
        else get? w uri
  get?_change :
    ∀ w e subject version changes uri,
      get? (change w e subject version changes) uri =
        if Workspace.key uri = Workspace.key subject then
          (get? w uri).map
            (Workspace.changed e version changes)
        else
          get? w uri

end ProseCheck
