import ProseCheck.Text.Basic

/-
  This file decodes labels of host names that are written in
  Punycode, the spelling of Unicode text in ASCII letters
  and digits.

  Key definitions include:
    * `Punycode.adapt`
    * `Punycode.delta?`
    * `Punycode.decode?`
-/

------------------------------------------------------------
-- Parameters
------------------------------------------------------------

namespace ProseCheck

namespace Punycode

/- The number of digits. -/
def base : Nat :=
  36

/- The threshold of a digit, by its place in a number. -/
def threshold
    (place bias : Nat) : Nat :=
  min 26 (max 1 (base * (place + 1) - bias))

/- Divide until a delta is small, and count the divisions. -/
def shrink
    (delta divisions : Nat) : Nat → Nat × Nat
  | 0 => (delta, divisions)
  | fuel + 1 =>
      if 455 < delta then
        shrink (delta / 35) (divisions + base) fuel
      else
        (delta, divisions)

/- The bias after an insertion. -/
def adapt
    (delta : Nat)
    (first : Bool)
    (count : Nat) : Nat :=
  let delta := if first then delta / 700 else delta / 2
  let delta := delta + delta / count
  let (delta, divisions) := shrink delta 0 delta.log2
  divisions + base * delta / (delta + 38)

/- The value of a digit: the letters come before the digits. -/
def digit?
    (c : Char) : Option Nat :=
  if 'a' ≤ c ∧ c ≤ 'z' then some (c.toNat - 97)
  else if 'A' ≤ c ∧ c ≤ 'Z' then some (c.toNat - 65)
  else if c.isDigit then some (c.toNat - 22)
  else none

end Punycode

end ProseCheck

------------------------------------------------------------
-- Decoding
------------------------------------------------------------

namespace ProseCheck

namespace Punycode

/-
  Read a number of variable length.  Its last digit is the
  first one that lies below its threshold.
-/
def delta?
    (bias place weight sum : Nat) : Text → Option (Nat × Text)
  | [] => none
  | c :: cs => do
      let d ← digit? c
      let t := threshold place bias
      let sum := sum + d * weight
      if d < t then return (sum, cs)
      else delta? bias (place + 1) (weight * (base - t)) sum cs

/- The character of a code.  No text holds a surrogate. -/
def inserted
    (code : Nat) : Char :=
  if code.isValidChar then Char.ofNat code
  else Char.ofNat 0xFFFD

/-
  Insert characters into a text.  The next one has a code of
  at least `code`, and `slot` counts the places that were
  passed for that code.
-/
def insertAll
    (text : Text)
    (code slot bias : Nat)
    (first : Bool)
    (digits : Text) : Nat → Option Text
  | 0 => some text
  | fuel + 1 =>
      if digits.isEmpty then
        some text
      else do
        let (delta, digits) ← delta? bias 0 1 0 digits
        let places := text.length + 1
        let slot := slot + delta
        let code := code + slot / places
        let slot := slot % places
        if 0x10FFFF < code then
          none
        else
          let text :=
            text.take slot ++ inserted code :: text.drop slot
          insertAll text code (slot + 1)
            (adapt delta first text.length) false digits fuel

/- The part before the last hyphen, and the part after it. -/
def splitLast
    (label : Text) : Text × Text :=
  let digits := (label.reverse.takeWhile (· != '-')).reverse
  (label.take (label.length - digits.length - 1), digits)

/- The text that a label stands for. -/
def decode?
    (label : Text) : Option Text :=
  if label.all (fun c => c.toNat < 128) then
    let (plain, digits) := splitLast label
    insertAll plain 128 0 72 true digits digits.length
  else
    none

end Punycode

end ProseCheck
