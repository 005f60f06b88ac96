import ProseCheck.Server.Workspace

/-
  This file keeps open documents in a list, and shows that
  this is a workspace.

  Key definitions include:
    * `OpenDocuments`
    * `OpenDocuments.get?`
    * `OpenDocuments.put`
    * `OpenDocuments.erase`
    * `OpenDocuments.change`
-/

------------------------------------------------------------
-- Entries
------------------------------------------------------------

namespace ProseCheck

/- A document, with the address that it is kept under. -/
abbrev DocumentEntry :=
  String × Document

namespace DocumentEntry

/- The addresses that documents are kept under. -/
def uris
    (ps : List DocumentEntry) : List String :=
  ps.map (·.1)

/- The document that is kept under an address as it stands. -/
def at?
    (address : String)
    (ps : List DocumentEntry) : Option Document :=
  (ps.find? (fun p => p.1 == address)).map (·.2)

/- Keep a document under an address as it stands. -/
def putAt
    (address : String)
    (d : Document) : List DocumentEntry →
    List DocumentEntry
  | [] => [(address, d)]
  | p :: ps =>
      if p.1 == address then (address, d) :: ps
      else p :: putAt address d ps

/- Keep no document under an address. -/
def eraseAt
    (address : String)
    (ps : List DocumentEntry) : List DocumentEntry :=
  ps.filter (fun p => p.1 != address)

/- Change the document that is kept under an address. -/
def changeAt
    (address : String)
    (f : Document → Document)
    (ps : List DocumentEntry) : List DocumentEntry :=
  ps.map (fun p =>
    if p.1 == address then (p.1, f p.2) else p)

end DocumentEntry

end ProseCheck

------------------------------------------------------------
-- Addresses of Entries
------------------------------------------------------------

namespace ProseCheck

namespace DocumentEntry

variable
  {address : String}
  {d : Document}
  {ps : List DocumentEntry}

/- A new address comes last. -/
theorem uris_putAt :
    uris (putAt address d ps) =
      if address ∈ uris ps then uris ps
      else uris ps ++ [address] := by
  induction ps with
  | nil => rfl
  | cons p ps ih =>
      unfold putAt
      by_cases hHere : p.1 = address
      · simp [uris, hHere]
      · have hOther : address ≠ p.1 := Ne.symm hHere
        rw [if_neg (by simpa using hHere), uris,
          List.map_cons]
        change p.1 :: uris (putAt address d ps) = _
        by_cases hLater : address ∈ uris ps
        · have hMem : address ∈ uris (p :: ps) :=
            List.mem_cons_of_mem _ hLater
          rw [ih, if_pos hLater, if_pos hMem]
          rfl
        · have hMem : address ∉ uris (p :: ps) := by
            simpa [uris, hOther] using hLater
          rw [ih, if_neg hLater, if_neg hMem]
          rfl

/- No address is used twice, whatever is put. -/
theorem nodup_uris_putAt
    (hNodup : (uris ps).Nodup) :
    (uris (putAt address d ps)).Nodup := by
  rw [uris_putAt]
  split
  · exact hNodup
  · rename_i hFresh
    refine List.nodup_append.mpr
      ⟨hNodup, List.pairwise_singleton _ _, ?_⟩
    intro a hMem b hLast hSame
    rw [hSame, List.mem_singleton.mp hLast] at hMem
    exact hFresh hMem

/- What is put is the only entry that is new. -/
theorem mem_putAt
    {p : DocumentEntry}
    (hMem : p ∈ putAt address d ps) :
    p = (address, d) ∨ p ∈ ps := by
  induction ps with
  | nil => exact Or.inl (List.mem_singleton.mp hMem)
  | cons q qs ih =>
      unfold putAt at hMem
      split at hMem
      · rcases List.mem_cons.mp hMem with hHere | hLater
        · exact Or.inl hHere
        · exact Or.inr (List.mem_cons_of_mem q hLater)
      · rcases List.mem_cons.mp hMem with hHere | hLater
        · rw [hHere]
          exact Or.inr List.mem_cons_self
        · exact (ih hLater).imp id (List.mem_cons_of_mem q)

/- All addresses but one are left. -/
theorem uris_eraseAt :
    uris (eraseAt address ps) =
      (uris ps).filter (· ≠ address) := by
  unfold uris eraseAt
  rw [List.filter_map]
  congr 1
  apply List.filter_congr
  intro p _
  by_cases hHere : p.1 = address
  · simp [hHere]
  · simp [hHere]

/- A change leaves the addresses. -/
theorem uris_changeAt
    (f : Document → Document) :
    uris (changeAt address f ps) = uris ps := by
  unfold uris changeAt
  rw [List.map_map]
  apply List.map_congr_left
  intro p _
  dsimp only [Function.comp]
  split
  · rfl
  · rfl

end DocumentEntry

end ProseCheck

------------------------------------------------------------
-- Documents of Entries
------------------------------------------------------------

namespace ProseCheck

namespace DocumentEntry

variable
  {address other : String}
  {d : Document}
  {ps : List DocumentEntry}

/- There is a document at the addresses that are in use. -/
theorem mem_uris_iff :
    address ∈ uris ps ↔ (at? address ps).isSome := by
  rw [at?, Option.isSome_map, List.find?_isSome, uris,
    List.mem_map]
  simp

/- A document that is found is an entry. -/
theorem mem_of_at?
    (hFound : at? address ps = some d) :
    (address, d) ∈ ps := by
  rcases Option.map_eq_some_iff.mp hFound with
    ⟨⟨place, e⟩, hFind, hSame⟩
  have hPlace := List.find?_some hFind
  rw [beq_iff_eq] at hPlace
  have hMem := List.mem_of_find?_eq_some hFind
  dsimp only at hSame hPlace
  rw [← hSame, ← hPlace]
  exact hMem

/- What is kept at an address once a document is put there. -/
theorem at?_putAt :
    at? other (putAt address d ps) =
      if other = address then some d
      else at? other ps := by
  unfold at?
  induction ps with
  | nil =>
      unfold putAt
      by_cases hSame : other = address
      · simp [hSame]
      · simp [hSame, Ne.symm hSame]
  | cons p ps ih =>
      unfold putAt
      by_cases hHere : p.1 = address
      · rw [if_pos (by simpa using hHere)]
        by_cases hSame : other = address
        · simp [hSame]
        · simp [hSame, Ne.symm hSame, hHere]
      · rw [if_neg (by simpa using hHere)]
        by_cases hThis : p.1 = other
        · have hDifferent : other ≠ address := by
            rw [← hThis]
            exact hHere
          simp [hThis, hDifferent]
        · rw [List.find?_cons_of_neg (by simpa using hThis),
            List.find?_cons_of_neg (by simpa using hThis), ih]

/- What is kept once an address is given up. -/
theorem at?_eraseAt :
    at? other (eraseAt address ps) =
      if other = address then none else at? other ps := by
  unfold at? eraseAt
  rw [List.find?_filter]
  split
  · rename_i hSame
    rw [hSame]
    simp
  · rename_i hOther
    congr 2
    funext p
    by_cases hHere : p.1 = other
    · simp [hHere, hOther]
    · simp [hHere]

/- What is kept once a document is changed. -/
theorem at?_changeAt
    (f : Document → Document) :
    at? other (changeAt address f ps) =
      if other = address then (at? other ps).map f
      else at? other ps := by
  unfold at? changeAt
  rw [List.find?_map]
  have hKeys :
      ((fun p : DocumentEntry => p.1 == other) ∘
        fun p =>
          if p.1 == address then (p.1, f p.2) else p) =
        fun p => p.1 == other := by
    funext p
    dsimp only [Function.comp]
    split
    · rfl
    · rfl
  rw [hKeys]
  cases hFind : ps.find? (fun p => p.1 == other) with
  | none => simp
  | some p =>
      have hPlace : p.1 = other := by
        simpa using List.find?_some hFind
      by_cases hSame : other = address
      · simp [hPlace, hSame]
      · simp [hPlace, hSame]

end DocumentEntry

end ProseCheck

------------------------------------------------------------
-- Open Documents
------------------------------------------------------------

namespace ProseCheck

/-
  Open documents, with the addresses that they are kept under.
  No address is used twice, and each document goes by its own.
-/
structure OpenDocuments where
  entries : List DocumentEntry
  nodup : (DocumentEntry.uris entries).Nodup
  uri_eq : ∀ p ∈ entries, p.2.uri = p.1

namespace OpenDocuments

open DocumentEntry

/- No document is open. -/
def empty : OpenDocuments where
  entries := []
  nodup := List.nodup_nil
  uri_eq := fun _ hMem => absurd hMem List.not_mem_nil

/- The open document with an address. -/
def get?
    (w : OpenDocuments)
    (uri : String) : Option Document :=
  at? (Workspace.key uri) w.entries

/- Open a document, or open it anew. -/
def put
    (w : OpenDocuments)
    (d : Document) : OpenDocuments where
  entries :=
    putAt (Workspace.key d.uri)
      { d with uri := Workspace.key d.uri } w.entries
  nodup := nodup_uris_putAt w.nodup
  uri_eq := by
    intro p hMem
    rcases mem_putAt hMem with hNew | hOld
    · rw [hNew]
    · exact w.uri_eq p hOld

/- Close the document with an address. -/
def erase
    (w : OpenDocuments)
    (uri : String) : OpenDocuments where
  entries := eraseAt (Workspace.key uri) w.entries
  nodup := by
    rw [uris_eraseAt]
    exact w.nodup.filter _
  uri_eq := fun p hMem =>
    w.uri_eq p (List.mem_filter.mp hMem).1

/- Change the open document with an address. -/
def change
    (w : OpenDocuments)
    (e : Encoding)
    (uri : String)
    (version : Option Int)
    (changes : List TextChange) : OpenDocuments where
  entries :=
    changeAt (Workspace.key uri)
      (Workspace.changed e version changes) w.entries
  nodup := by
    rw [uris_changeAt]
    exact w.nodup
  uri_eq := by
    intro p hMem
    rcases List.mem_map.mp hMem with ⟨q, hOld, hSame⟩
    have hUri := w.uri_eq q hOld
    rw [← hSame]
    split
    · exact hUri
    · exact hUri

/- A list of open documents is a workspace. -/
instance : Workspace OpenDocuments where
  empty := empty
  uris := fun w => uris w.entries
  get? := get?
  put := put
  erase := erase
  change := change
  uris_nodup := fun w => w.nodup
  mem_uris_iff := fun _ _ => mem_uris_iff
  uri_of_get? := fun w _ _ hFound =>
    w.uri_eq _ (mem_of_at? hFound)
  uris_empty := rfl
  uris_put := fun _ _ => uris_putAt
  uris_erase := fun _ _ => uris_eraseAt
  uris_change := fun _ _ _ _ _ => uris_changeAt _
  get?_put := fun _ _ _ => at?_putAt
  get?_erase := fun _ _ _ => at?_eraseAt
  get?_change := fun _ _ _ _ _ _ => at?_changeAt _

end OpenDocuments

end ProseCheck
