import Mathlib.Algebra.GroupWithZero.Nat
import ProseCheck.Proofs.Text.Columns

/-
  This file says what the encodings count.  In UTF-8 these are
  the bytes of a string, in UTF-32 its characters, and in
  UTF-16 its characters too, but those beyond the first plane
  count twice.

  A text can be measured as a whole or character by character,
  and both ways agree.  So the first characters of a text are
  within a number of code units exactly if they take no more
  than these.

  Main declarations:
    * `Encoding.encode_utf8`
    * `lengthIn`
    * `Encoding.units_ofName`
    * `Encoding.units_agree`
-/

------------------------------------------------------------
-- Each Encoding
------------------------------------------------------------

namespace ProseCheck

namespace Encoding

/- A character is a number below the end of the last plane. -/
theorem toNat_lt
    (c : Char) :
    c.toNat < 0x110000 := by
  rcases c.valid with hLow | ⟨_, hHigh⟩
  · exact Nat.lt_trans hLow (by decide)
  · exact hHigh

/- In UTF-8, characters have the bytes that strings keep. -/
theorem encode_utf8
    (c : Char) :
    utf8.encode c =
      (String.utf8EncodeChar c).map UInt8.toNat := by
  have hValue : c.val.toNat = c.toNat := rfl
  -- the leading byte of four would not hold a larger number
  have hBound := toNat_lt c
  unfold encode encode8 String.utf8EncodeChar
  simp only [hValue, apply_ite (List.map UInt8.toNat),
    List.map_cons, List.map_nil, UInt8.toNat_ofNat']
  -- each byte is small enough to be kept as it is
  split_ifs <;>
    simp only [List.cons.injEq, and_true] <;>
    omega

/- In UTF-8, a text takes the bytes of its string. -/
theorem units_utf8
    (t : Text) :
    utf8.units t = t.asString.utf8ByteSize := by
  have hSize :
      t.asString.utf8ByteSize = t.utf8Encode.size := by
    rw [Text.asString, ← String.size_toByteArray,
      String.toByteArray_ofList]
  rw [hSize, units, List.utf8Encode, List.size_toByteArray,
    List.length_flatMap, List.length_flatMap]
  simp only [encode_utf8, List.length_map]

/- In UTF-16, characters beyond the first plane count twice. -/
theorem units_utf16
    (t : Text) :
    utf16.units t =
      t.length + t.countP (fun c => 0xFFFF < c.toNat) := by
  induction t with
  | nil => rfl
  | cons c cs ih =>
      rw [units_cons, ih, List.length_cons, List.countP_cons]
      by_cases hFirst : c.toNat ≤ 0xFFFF
      · have hNot : ¬ 0xFFFF < c.toNat := by omega
        simp only [width, hFirst, hNot, if_true, decide_false,
          Bool.false_eq_true, if_false]
        omega
      · have hBeyond : 0xFFFF < c.toNat := by omega
        simp only [width, hFirst, hBeyond, if_false,
          decide_true, if_true]
        omega

/- In UTF-32, every character counts once. -/
theorem units_utf32
    (t : Text) :
    utf32.units t = t.length := by
  rw [units, List.length_flatMap]
  simp [encode, List.map_const']

end Encoding

end ProseCheck

------------------------------------------------------------
-- Encodings by Name
------------------------------------------------------------

namespace ProseCheck

/-
  The length of a text in the encoding of a name.  All names
  but two stand for UTF-16.
-/
def lengthIn
    (name : String)
    (t : Text) : Nat :=
  if name = "utf-8" then
    t.asString.utf8ByteSize
  else if name = "utf-32" then
    t.length
  else
    t.length + t.countP (fun c => 0xFFFF < c.toNat)

namespace Encoding

/- A text takes as many code units as it is long. -/
theorem units_ofName
    (name : String)
    (t : Text) :
    (ofName name).units t = lengthIn name t := by
  unfold ofName lengthIn
  split
  · exact units_utf8 t
  split
  · exact units_utf32 t
  · exact units_utf16 t

end Encoding

end ProseCheck

------------------------------------------------------------
-- Both Ways of Counting
------------------------------------------------------------

namespace ProseCheck

namespace Encoding

/- A text takes the code units of its characters. -/
theorem units_eq_sum
    (e : Encoding)
    (t : Text) :
    e.units t = (t.map e.width).sum := by
  simp only [units, List.length_flatMap, length_encode]

/-
  The first characters of a text are within a number of code
  units exactly if they take no more than these.  A negative
  number is as good as none.
-/
theorem le_reach_iff
    (e : Encoding)
    {t : Text}
    {k : Nat}
    (column : Int)
    (hLength : k ≤ t.length) :
    k ≤ e.reach t column ↔
      (e.units (t.take k) : Int) ≤ max column 0 := by
  have hColumn : (column.toNat : Int) = max column 0 :=
    Int.ofNat_toNat column
  rw [reach, le_fit_iff e column.toNat hLength, ← hColumn,
    Int.ofNat_le]

/-
  Measured as a whole, a text is as long as its characters
  together, and two texts are as long as both of them.  The
  characters within a number of code units are found one by
  one, and they are those that measure no more as a whole.
-/
theorem units_agree
    (name : String)
    (t : Text)
    (column : Int) :
    let e := ofName name
    e.units t = lengthIn name t ∧
      e.units t = (t.map e.width).sum ∧
      (∀ s, e.units (s ++ t) = e.units s + e.units t) ∧
      e.reach t column ≤ t.length ∧
      ∀ k ≤ t.length,
        k ≤ e.reach t column ↔
          (e.units (t.take k) : Int) ≤ max column 0 := by
  intro e
  refine ⟨units_ofName name t, units_eq_sum e t,
    fun s => units_append e s t, fit_le_length e _ t, ?_⟩
  intro k hLength
  exact le_reach_iff e column hLength

/-
  Here the characters stand at both sides of each boundary.
  A column inside of a character does not reach its end, and
  one before the start of the text reaches nothing.
-/
theorem units_agree_boundaries :
    let t := [0x7F, 0x80, 0x7FF, 0x800, 0xFFFF, 0x10000].map
      Char.ofNat
    (ofName "utf-8").units t = 15 ∧
      5 ≤ (ofName "utf-8").reach t 14 ∧
      ¬ 6 ≤ (ofName "utf-8").reach t 14 ∧
      (ofName "UTF-8").units t = 7 ∧
      ¬ 1 ≤ (ofName "UTF-8").reach t (-1) := by
  intro t
  rcases units_agree "utf-8" t 14 with
    ⟨hEight, _, _, _, hReach⟩
  rcases units_agree "UTF-8" t (-1) with
    ⟨hSixteen, _, _, _, hNone⟩
  refine ⟨hEight.trans (by decide), ?_, ?_,
    hSixteen.trans (by decide), ?_⟩
  · exact (hReach 5 (by decide)).mpr (by decide)
  · exact fun hAll =>
      absurd ((hReach 6 (by decide)).mp hAll) (by decide)
  · exact fun hAny =>
      absurd ((hNone 1 (by decide)).mp hAny) (by decide)

end Encoding

end ProseCheck
