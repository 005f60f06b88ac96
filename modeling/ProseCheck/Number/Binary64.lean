/-
  This file defines the numbers of the binary64 format of
  IEEE 754 by exact arithmetic on natural numbers.  A finite
  number is a signed multiple of a power of two, so every
  operation states its rounding.

  Key definitions include:
    * `roundDiv`
    * `Binary64`
    * `Binary64.round`
    * `Binary64.ofDecimal`
    * `Binary64.truncate`
-/

------------------------------------------------------------
-- Rounding of Quotients
------------------------------------------------------------

namespace ProseCheck

/-
  The natural number nearest to `num / den`.  Of two that
  are equally near, the even one is taken.
-/
def roundDiv
    (num den : Nat) : Nat :=
  let q := num / den
  let r := num % den
  if den < 2 * r ∨ (2 * r = den ∧ q % 2 = 1) then q + 1
  else q

end ProseCheck

------------------------------------------------------------
-- The Format
------------------------------------------------------------

namespace ProseCheck

/-
  A number of the binary64 format.  The finite ones stand
  for `mantissa * 2 ^ exponent` under their sign.
-/
inductive Binary64 where
  | finite
      (negative : Bool)
      (mantissa : Nat)
      (exponent : Int)
  | infinite (negative : Bool)
  | nan
deriving DecidableEq, Repr

namespace Binary64

/- The least exponent that the format has. -/
def minExponent : Int :=
  -1074

/- The greatest exponent that the format has. -/
def maxExponent : Int :=
  971

/- The zero of a sign. -/
def zero
    (negative : Bool) : Binary64 :=
  .finite negative 0 minExponent

/- The fraction `num / den / 2 ^ e`. -/
def scale
    (num den : Nat)
    (e : Int) : Nat × Nat :=
  if 0 ≤ e then (num, den * Nat.pow 2 e.toNat)
  else (num * Nat.pow 2 (-e).toNat, den)

/-
  The exponent for which `num / den / 2 ^ e` has the 53
  binary digits of a mantissa, or the least exponent.
-/
def exponentFor
    (num den : Nat) : Int :=
  let guess : Int := num.log2 - den.log2 - 52
  let scaled := scale num den guess
  let e :=
    if scaled.1 < Nat.pow 2 52 * scaled.2 then guess - 1
    else guess
  max e minExponent

/- The number of the format nearest to `num / den`. -/
def round
    (negative : Bool)
    (num den : Nat) : Binary64 :=
  if num = 0 then
    zero negative
  else
    let e := exponentFor num den
    let scaled := scale num den e
    let m := roundDiv scaled.1 scaled.2
    let (m, e) :=
      if m = Nat.pow 2 53 then (Nat.pow 2 52, e + 1)
      else (m, e)
    if maxExponent < e then .infinite negative
    else .finite negative m e

end Binary64

end ProseCheck

------------------------------------------------------------
-- Reading Numbers into the Format
------------------------------------------------------------

namespace ProseCheck

namespace Binary64

/- The number nearest to a natural number. -/
def ofNat
    (n : Nat) : Binary64 :=
  round false n 1

/- The number nearest to an integer. -/
def ofInt
    (n : Int) : Binary64 :=
  round (n < 0) n.natAbs 1

/-
  The number nearest to `digits * 10 ^ e` under a sign.  The
  bounds on `e` keep the powers of ten small: beyond them
  the number is infinite or zero whatever the digits are.
-/
def ofDecimal
    (negative : Bool)
    (digits : Nat)
    (e : Int) : Binary64 :=
  if digits = 0 then
    zero negative
  else if 400 < e then
    .infinite negative
  else if 0 ≤ e then
    round negative (digits * Nat.pow 10 e.toNat) 1
  else if e < -(400 + digits.log2 : Int) then
    zero negative
  else
    round negative digits (Nat.pow 10 (-e).toNat)

end Binary64

end ProseCheck

------------------------------------------------------------
-- Arithmetic
------------------------------------------------------------

namespace ProseCheck

namespace Binary64

/- The absolute value of a finite number as a fraction. -/
def fraction
    (m : Nat)
    (e : Int) : Nat × Nat :=
  if 0 ≤ e then (m * Nat.pow 2 e.toNat, 1)
  else (m, Nat.pow 2 (-e).toNat)

/- Whether a number is zero, of either sign. -/
def isZero : Binary64 → Bool
  | .finite _ m _ => m == 0
  | _ => false

/- The product of two numbers, rounded once. -/
def mul : Binary64 → Binary64 → Binary64
  | .finite s m e, .finite t n d =>
      let x := fraction m e
      let y := fraction n d
      round (s != t) (x.1 * y.1) (x.2 * y.2)
  | .nan, _ => .nan
  | _, .nan => .nan
  | .infinite s, .infinite t => .infinite (s != t)
  | .infinite s, .finite t n _ =>
      if n = 0 then .nan else .infinite (s != t)
  | .finite s m _, .infinite t =>
      if m = 0 then .nan else .infinite (s != t)

instance : Mul Binary64 where
  mul := mul

instance : NatCast Binary64 where
  natCast := ofNat

/- The numerator of a finite number under its sign. -/
def signed
    (negative : Bool)
    (n : Nat) : Int :=
  if negative then -(n : Int) else n

/- Whether one number is less than another. -/
def blt : Binary64 → Binary64 → Bool
  | .finite s m e, .finite t n d =>
      let x := fraction m e
      let y := fraction n d
      signed s x.1 * y.2 < signed t y.1 * x.2
  | .nan, _ => false
  | _, .nan => false
  | .infinite s, .infinite t => s && !t
  | .infinite s, .finite _ _ _ => s
  | .finite _ _ _, .infinite t => !t

instance : LT Binary64 where
  lt x y := blt x y = true

instance
    (x y : Binary64) :
    Decidable (x < y) := by
  change Decidable (blt x y = true)
  infer_instance

instance : Min Binary64 where
  min x y := if y < x then y else x

/- The integer part of a finite number, toward zero. -/
def truncate? : Binary64 → Option Int
  | .finite s m e =>
      let x := fraction m e
      some (signed s (x.1 / x.2))
  | _ => none

/- The integer that a number is equal to, if there is one. -/
def integer? : Binary64 → Option Int
  | .finite s m e =>
      let x := fraction m e
      if x.1 % x.2 = 0 then some (signed s (x.1 / x.2))
      else none
  | _ => none

end Binary64

end ProseCheck
