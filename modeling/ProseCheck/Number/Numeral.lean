import ProseCheck.Text.Blank
import ProseCheck.Text.Digit

/-
  This file reads whole numbers from text, by two rules, and
  says which of them can be written.

  A numeral has a sign at most and digits of any script, with
  single low lines between them.  A field numeral is what a
  form field may hold: ASCII digits, with zeros in front and
  a fraction of zeros allowed.

  A number of very many digits is neither read nor written,
  as this would take too long.

  Key definitions include:
    * `IsWritable`
    * `numeral?`
    * `fieldNumeral?`
-/

------------------------------------------------------------
-- Long Numbers
------------------------------------------------------------

namespace ProseCheck

/- The most digits of a number that is read or written. -/
def digitLimit : Nat :=
  4300

/- Whether a number is short enough to be written. -/
def IsWritable
    (n : Int) : Prop :=
  n.natAbs < Nat.pow 10 digitLimit

instance
    (n : Int) :
    Decidable (IsWritable n) := by
  unfold IsWritable
  infer_instance

/- What is said of a number of too many digits. -/
def limitMessage
    (detail : String) : String :=
  "Exceeds the limit (" ++ toString digitLimit ++
    " digits) for integer string conversion" ++ detail ++
    "; use sys.set_int_max_str_digits() to increase the limit"

end ProseCheck

------------------------------------------------------------
-- White Space
------------------------------------------------------------

namespace ProseCheck

/-
  White space in the sense of the Unicode property: what is
  blank, other than the control characters that separate
  fields.
-/
def isWhiteSpace
    (c : Char) : Bool :=
  isBlank c && !(0x1C ≤ c.toNat && c.toNat ≤ 0x1F)

end ProseCheck

------------------------------------------------------------
-- Numerals
------------------------------------------------------------

namespace ProseCheck

/-
  The number whose first digits make up `value` and whose
  further digits are those of a text.  A low line may stand
  before a digit.
-/
def numeralFrom
    (value : Nat) : Text → Option Nat
  | [] => some value
  | '_' :: c :: cs =>
      match digitValue? c with
      | some d => numeralFrom (10 * value + d) cs
      | none => none
  | c :: cs =>
      match digitValue? c with
      | some d => numeralFrom (10 * value + d) cs
      | none => none

/- The number of a numeral without a sign. -/
def unsignedNumeral? : Text → Option Nat
  | [] => none
  | c :: cs => (digitValue? c).bind (numeralFrom · cs)

/- The number of a numeral without white ends. -/
def signedNumeral? : Text → Option Int
  | '-' :: cs => (unsignedNumeral? cs).map (fun n => -(n : Int))
  | '+' :: cs => (unsignedNumeral? cs).map Int.ofNat
  | cs => (unsignedNumeral? cs).map Int.ofNat

/- What follows the sign of a text, if it has one. -/
def afterSign : Text → Text
  | '-' :: cs => cs
  | '+' :: cs => cs
  | cs => cs

/-
  The number of digits that a numeral begins with, if there
  are too many of them.  What follows the digits does not
  matter.
-/
def excessDigits?
    (t : Text) : Option Nat :=
  let digits := (afterSign (t.trim isWhiteSpace)).takeWhile
    (fun c => (digitValue? c).isSome || c == '_')
  let count := digits.countP (· != '_')
  if (unsignedNumeral? digits).isSome ∧
      digitLimit < count then
    some count
  else
    none

/-
  The number of a numeral that does not have too many digits.
  There may be white space at its ends.
-/
def numeral?
    (t : Text) : Option Int :=
  match excessDigits? t with
  | some _ => none
  | none => signedNumeral? (t.trim isWhiteSpace)

end ProseCheck

------------------------------------------------------------
-- Field Numerals
------------------------------------------------------------

namespace ProseCheck

/- Remove a plus sign.  A minus sign may not follow it. -/
def dropPlus? : Text → Option Text
  | '+' :: '-' :: _ => none
  | '+' :: cs => some cs
  | cs => some cs

/-
  Remove zeros and low lines from the start of a text, where
  `last` is the character before it.  Of a numeral that holds
  nothing else before its point or its end, the last
  character stays.
-/
def dropZerosFrom?
    (last : Char) : Text → Option Text
  | [] => some [last]
  | c :: cs =>
      if c == '0' || c == '_' then dropZerosFrom? c cs
      else if c.isDigit then some (c :: cs)
      else if c == '.' then some (last :: c :: cs)
      else none

/- Remove the zeros in front of a numeral. -/
def dropZeros? : Text → Option Text
  | [] => none
  | c :: cs =>
      if c == '0' then dropZerosFrom? c cs
      else if c.isDigit || c == '-' then some (c :: cs)
      else none

/- Remove the fraction of a numeral, if it is zero. -/
def dropZeroFraction
    (t : Text) : Text :=
  let fraction := t.dropWhile (· != '.')
  if (fraction.drop 1).all (· == '0') then
    t.takeWhile (· != '.')
  else
    t

/-
  Remove the low lines of a numeral.  They stay where one is
  at an end or next to another, and then it is no numeral.
-/
def dropLowLines
    (t : Text) : Text :=
  if t.head? == some '_' || t.getLast? == some '_' ||
      (t.find? ['_', '_']).isSome then
    t
  else
    t.filter (· != '_')

/- The number of plain digits without a zero in front. -/
def digitsOnly? : Text → Option Nat
  | [] => none
  | c :: cs =>
      if c == '0' && !cs.isEmpty then none
      else if (c :: cs).all Char.isDigit then
        numeralFrom 0 (c :: cs)
      else
        none

/- The number of plain digits after a minus sign at most. -/
def signedDigits? : Text → Option Int
  | '-' :: cs => (digitsOnly? cs).map (fun n => -(n : Int))
  | cs => (digitsOnly? cs).map Int.ofNat

/- The number of a field numeral. -/
def fieldNumeral?
    (t : Text) : Option Int := do
  let t ← dropPlus? (t.trim isWhiteSpace)
  let t ← dropZeros? t
  signedDigits? (dropLowLines (dropZeroFraction t))

end ProseCheck
