import ProseCheck.Number.Binary64

/-
  This file writes binary64 numbers in decimal: with a fixed
  number of places, or with the fewest digits that read back
  as the same number.

  Key definitions include:
    * `Binary64.fixed`
    * `Binary64.shortest`
    * `Binary64.display`
-/

------------------------------------------------------------
-- Digits
------------------------------------------------------------

namespace ProseCheck

/- Zeros on the left, up to a width. -/
def padLeft
    (width : Nat)
    (s : String) : String :=
  String.ofList (List.replicate (width - s.length) '0') ++ s

/- The decimal digits of a natural number. -/
def digits
    (n : Nat) : String :=
  String.ofList (Nat.toDigits 10 n)

/- Zeros are removed from the right. -/
def trimZeros
    (cs : List Char) : List Char :=
  (cs.reverse.dropWhile (· == '0')).reverse

end ProseCheck

------------------------------------------------------------
-- Fixed Places
------------------------------------------------------------

namespace ProseCheck

namespace Binary64

/- The sign that stands before the digits. -/
def signText
    (negative : Bool) : String :=
  if negative then "-" else ""

/-
  A number with a given number of places after the point,
  rounded to the nearest, of two to the even one.
-/
def fixed
    (places : Nat) : Binary64 → String
  | .finite s m e =>
      let x := fraction m e
      let n := roundDiv (x.1 * Nat.pow 10 places) x.2
      let whole := digits (n / Nat.pow 10 places)
      let rest :=
        padLeft places (digits (n % Nat.pow 10 places))
      signText s ++ whole ++
        (if places = 0 then "" else "." ++ rest)
  | .infinite s => signText s ++ "inf"
  | .nan => "nan"

end Binary64

end ProseCheck

------------------------------------------------------------
-- Shortest Digits
------------------------------------------------------------

namespace ProseCheck

namespace Binary64

/- Whether `num / den < 10 ^ k`. -/
def belowPower
    (num den : Nat)
    (k : Int) : Bool :=
  if 0 ≤ k then num < den * Nat.pow 10 k.toNat
  else num * Nat.pow 10 (-k).toNat < den

/-
  The least `k` at or above a start with `num / den` below
  `10 ^ k`, within a number of steps.
-/
def magnitudeFrom
    (num den : Nat)
    (k : Int) : Nat → Int
  | 0 => k
  | steps + 1 =>
      if belowPower num den k then k
      else magnitudeFrom num den (k + 1) steps

/- The power of ten just above a positive fraction. -/
def magnitude
    (num den : Nat) : Int :=
  magnitudeFrom num den
    ((num.log2 - den.log2 - 2 : Int) * 30103 / 100000 - 1) 6

/-
  The two multiples of `10 ^ k` around `num / den`, each as
  the number of times, the nearer one first.  Of two that
  are equally near, the even one comes first.
-/
def neighbours
    (num den : Nat)
    (k : Int) : List Nat :=
  let (n, d) :=
    if 0 ≤ k then (num, den * Nat.pow 10 k.toNat)
    else (num * Nat.pow 10 (-k).toNat, den)
  let near := roundDiv n d
  let below := n / d
  [near, if near = below then below + 1 else below]

/-
  The digits and the decimal exponent of the shortest decimal
  that reads back as the number `x`, tried from a number of
  digits on.
-/
def shortestFrom
    (x : Binary64)
    (num den : Nat)
    (top : Int)
    (count : Nat) : Nat → Nat × Int
  | 0 => (num / den, 0)
  | tries + 1 =>
      let k := top - count
      match (neighbours num den k).find?
          (fun n => ofDecimal false n k = x) with
      | some n => (n, k)
      | none => shortestFrom x num den top (count + 1) tries

/-
  The digits and the decimal exponent of the shortest decimal
  that reads back as a positive finite number.
-/
def shortest
    (m : Nat)
    (e : Int) : Nat × Int :=
  let x := fraction m e
  shortestFrom (.finite false m e) x.1 x.2
    (magnitude x.1 x.2) 1 17

end Binary64

end ProseCheck

------------------------------------------------------------
-- Written Numbers
------------------------------------------------------------

namespace ProseCheck

namespace Binary64

/- The exponent after its mark: a sign and two digits. -/
def exponentText
    (e : Int) : String :=
  (if e < 0 then "-" else "+") ++
    padLeft 2 (digits e.natAbs)

/-
  The significant digits `cs` with the point after the first
  `point` of them.  A number from a ten-thousandth up to ten
  to the sixteenth is written by position, any other with an
  exponent.
-/
def layOut
    (cs : List Char)
    (point : Int) : String :=
  let count : Int := cs.length
  if point ≤ -4 ∨ 16 < point then
    let tail := cs.drop 1
    String.ofList (cs.take 1) ++
      (if tail.isEmpty then ""
        else "." ++ String.ofList tail) ++
      "e" ++ exponentText (point - 1)
  else if point ≤ 0 then
    "0." ++
      String.ofList (List.replicate (-point).toNat '0') ++
      String.ofList cs
  else if count ≤ point then
    String.ofList cs ++
      String.ofList
        (List.replicate (point - count).toNat '0') ++ ".0"
  else
    String.ofList (cs.take point.toNat) ++ "." ++
      String.ofList (cs.drop point.toNat)

/- A number as it is shown: the shortest text of it. -/
def display : Binary64 → String
  | .finite s m e =>
      if m = 0 then
        signText s ++ "0.0"
      else
        let (n, k) := shortest m e
        let cs := (digits n).toList
        signText s ++
          layOut (trimZeros cs) (cs.length + k)
  | .infinite s => signText s ++ "inf"
  | .nan => "nan"

end Binary64

end ProseCheck
