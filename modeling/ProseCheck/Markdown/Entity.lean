import ProseCheck.Markdown.EntityTable
import ProseCheck.Text.Digit
import ProseCheck.Text.Punctuation

/-
  This file reads character references, by name or by
  number, and resolves the escapes of an address.

  Key definitions include:
    * `isReferable`
    * `Reference`
    * `characterReference?`
    * `unescape`
-/

------------------------------------------------------------
-- Code Points
------------------------------------------------------------

namespace ProseCheck

/-
  Whether a number may be referred to.  Surrogates, the
  numbers that never stand for a character, and controls
  other than white space may not.
-/
def isReferable
    (n : Nat) : Bool :=
  !((0xD800 ≤ n && n ≤ 0xDFFF) ||
    (0xFDD0 ≤ n && n ≤ 0xFDEF) ||
    n % 0x10000 == 0xFFFF || n % 0x10000 == 0xFFFE ||
    n ≤ 0x08 || n == 0x0B ||
    (0x0E ≤ n && n ≤ 0x1F) || (0x7F ≤ n && n ≤ 0x9F) ||
    0x10FFFF < n)

/- The character that stands for what cannot be shown. -/
def replacementChar : Char :=
  Char.ofNat 0xFFFD

/- The text that a name stands for. -/
def namedReference?
    (name : Text) : Option Text :=
  let name := name.asString
  (namedReferences.find? (fun r => r.1 == name)).map (·.2)

end ProseCheck

------------------------------------------------------------
-- Numbers
------------------------------------------------------------

namespace ProseCheck

/- The digits at the start of a text. -/
def leadingDigits
    (hexadecimal : Bool) : Text → List Nat
  | [] => []
  | c :: cs =>
      match digitIn? hexadecimal c with
      | none => []
      | some d => d :: leadingDigits hexadecimal cs

/-
  The number after the mark of a numeric reference, with the
  count of the characters that it takes.  Each of the two
  bases allows a certain number of digits.
-/
def referenceNumber?
    (maxHex maxDecimal : Nat)
    (t : Text) : Option (Nat × Nat) :=
  let (hexadecimal, rest, base, maxDigits, taken) :=
    match t with
    | 'x' :: cs => (true, cs, 16, maxHex, 1)
    | 'X' :: cs => (true, cs, 16, maxHex, 1)
    | _ => (false, t, 10, maxDecimal, 0)
  let ds := leadingDigits hexadecimal rest
  if ds.isEmpty ∨ maxDigits < ds.length then none
  else
    some (ds.foldl (fun n d => n * base + d) 0,
      taken + ds.length)

end ProseCheck

------------------------------------------------------------
-- References in Text
------------------------------------------------------------

namespace ProseCheck

/-
  What a reference stands for, and the number of characters
  that it is written with.
-/
structure CharacterReference where
  content : Text
  length : Nat
deriving DecidableEq, Repr

/- The letters and digits of a name at the start of a text. -/
def referenceName
    (t : Text) : Text :=
  t.takeWhile Char.isAlphanum

/- The reference after an ampersand and a number sign. -/
def numericReference?
    (t : Text) : Option CharacterReference :=
  match referenceNumber? 6 7 t with
  | none => none
  | some (n, taken) =>
      if t[taken]? = some ';' then
        some
          ⟨[if isReferable n then Char.ofNat n
            else replacementChar], taken + 3⟩
      else
        none

/- The reference at the start of a text, ampersand included. -/
def characterReference? : Text → Option CharacterReference
  | '&' :: '#' :: cs => numericReference? cs
  | '&' :: cs =>
      let name := referenceName cs
      if cs[name.length]? = some ';' then
        (namedReference? name).map
          (fun t => ⟨t, name.length + 2⟩)
      else
        none
  | _ => none

end ProseCheck

------------------------------------------------------------
-- Escapes in Addresses
------------------------------------------------------------

namespace ProseCheck

/-
  The reference after an ampersand inside of an address.  A
  number that may not be referred to is left as it is.
-/
def addressReference?
    (cs : Text) : Option CharacterReference :=
  match cs with
  | '#' :: ds =>
      match referenceNumber? 8 8 ds with
      | none => none
      | some (n, taken) =>
          if ds[taken]? = some ';' ∧ isReferable n = true then
            some ⟨[Char.ofNat n], taken + 3⟩
          else
            none
  | _ => characterReference? ('&' :: cs)

/-
  Resolve the escapes of an address.  The counter `skip` is
  the rest of an escape that is resolved already.
-/
def unescapeFrom
    (skip : Nat) : Text → Text
  | [] => []
  | c :: cs =>
      match skip with
      | skip + 1 => unescapeFrom skip cs
      | 0 =>
          if c = '\\' then
            match cs with
            | d :: _ =>
                if isAsciiPunctuation d then
                  d :: unescapeFrom 1 cs
                else
                  c :: unescapeFrom 0 cs
            | [] => [c]
          else if c = '&' then
            match addressReference? cs with
            | some r =>
                r.content ++ unescapeFrom (r.length - 1) cs
            | none => c :: unescapeFrom 0 cs
          else
            c :: unescapeFrom 0 cs

/- Resolve the escapes of an address. -/
def unescape
    (t : Text) : Text :=
  unescapeFrom 0 t

end ProseCheck
