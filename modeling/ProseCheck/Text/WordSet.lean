/-
  This file keeps sets of words as lists: in the order of
  their code points, and each word once.

  Key definitions include:
    * `insertWord`
    * `wordSet`
-/

------------------------------------------------------------
-- Sets of Words
------------------------------------------------------------

namespace ProseCheck

/- Put a word in its place, unless it is there already. -/
def insertWord
    (w : String) : List String → List String
  | [] => [w]
  | v :: vs =>
      if w < v then w :: v :: vs
      else if w = v then v :: vs
      else v :: insertWord w vs

/- The set of some words. -/
def wordSet
    (ws : List String) : List String :=
  ws.foldr insertWord []

/- A set with one word more has that word and its own. -/
@[simp]
theorem mem_insertWord
    (v w : String)
    (ws : List String) :
    v ∈ insertWord w ws ↔ v = w ∨ v ∈ ws := by
  induction ws with
  | nil => simp [insertWord]
  | cons u us ih =>
      unfold insertWord
      split
      · simp
      split
      · rename_i hSame
        simp [hSame]
      · simp [ih, or_left_comm]

/- A set has the words that it is made of. -/
@[simp]
theorem mem_wordSet
    (w : String)
    (ws : List String) :
    w ∈ wordSet ws ↔ w ∈ ws := by
  induction ws with
  | nil => simp [wordSet]
  | cons v vs ih =>
      rw [List.mem_cons, ← ih]
      exact mem_insertWord w v (wordSet vs)

end ProseCheck
