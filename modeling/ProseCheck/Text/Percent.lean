import ProseCheck.Text.Basic
import ProseCheck.Text.Digit

/-
  This file decodes percent sequences.  They stand for bytes,
  and the bytes are read as UTF-8.  Where they are none, the
  longest start of a character is replaced as a whole.

  Key definitions include:
    * `Piece`
    * `Utf8State`
    * `percentDecoded`
-/

------------------------------------------------------------
-- Pieces
------------------------------------------------------------

namespace ProseCheck

/-
  A piece of an address: a byte, or a character that has no
  place among bytes and stands for itself.
-/
inductive Piece where
  | byte (n : Nat)
  | char (c : Char)
deriving DecidableEq, Repr

/- A character as a piece. -/
def Piece.ofChar
    (c : Char) : Piece :=
  if c.toNat < 128 then .byte c.toNat else .char c

/-
  The pieces of a text.  The counter `skip` is the rest of a
  percent sequence that was read already.
-/
def piecesFrom
    (skip : Nat) : Text → List Piece
  | [] => []
  | c :: cs =>
      match skip with
      | skip + 1 => piecesFrom skip cs
      | 0 =>
          match c, cs with
          | '%', a :: b :: _ =>
              match digitIn? true a, digitIn? true b with
              | some m, some n =>
                  .byte (16 * m + n) :: piecesFrom 2 cs
              | _, _ => .ofChar c :: piecesFrom 0 cs
          | _, _ => .ofChar c :: piecesFrom 0 cs

end ProseCheck

------------------------------------------------------------
-- Bytes of UTF-8
------------------------------------------------------------

namespace ProseCheck

/-
  A character that bytes have begun: the part of its number
  that is known, how many bytes are still to come, and the
  bounds of the next one.
-/
structure Utf8State where
  value : Nat
  missing : Nat
  least : Nat
  greatest : Nat
deriving DecidableEq, Repr

/- The character that stands in for bytes that are none. -/
def badBytes : Char :=
  Char.ofNat 0xFFFD

/-
  The state after a first byte of several.  Four of these
  bytes narrow the bounds of the second one: it may not make
  the number too small, a surrogate or too large.
-/
def Utf8State.start?
    (n : Nat) : Option Utf8State :=
  if 0xC2 ≤ n ∧ n ≤ 0xDF then some ⟨n % 0x20, 1, 0x80, 0xBF⟩
  else if n = 0xE0 then some ⟨0, 2, 0xA0, 0xBF⟩
  else if n = 0xED then some ⟨0xD, 2, 0x80, 0x9F⟩
  else if 0xE1 ≤ n ∧ n ≤ 0xEF then
    some ⟨n % 0x10, 2, 0x80, 0xBF⟩
  else if n = 0xF0 then some ⟨0, 3, 0x90, 0xBF⟩
  else if 0xF1 ≤ n ∧ n ≤ 0xF3 then
    some ⟨n % 0x08, 3, 0x80, 0xBF⟩
  else if n = 0xF4 then some ⟨4, 3, 0x80, 0x8F⟩
  else none

/- What a byte adds where no character is begun. -/
def beginChar
    (n : Nat) : Text × Option Utf8State :=
  if n < 0x80 then ([Char.ofNat n], none)
  else
    match Utf8State.start? n with
    | some s => ([], some s)
    | none => ([badBytes], none)

/- What a byte adds to a character that is begun. -/
def Utf8State.next
    (s : Utf8State)
    (n : Nat) : Text × Option Utf8State :=
  if s.least ≤ n ∧ n ≤ s.greatest then
    let value := s.value * 0x40 + n % 0x40
    if s.missing ≤ 1 then ([Char.ofNat value], none)
    else ([], some ⟨value, s.missing - 1, 0x80, 0xBF⟩)
  else
    let r := beginChar n
    (badBytes :: r.1, r.2)

/- What is left of a character that is begun but not ended. -/
def unfinished : Option Utf8State → Text
  | some _ => [badBytes]
  | none => []

/- The characters of pieces, from a state on. -/
def decodePieces
    (s : Option Utf8State) : List Piece → Text
  | [] => unfinished s
  | .char c :: ps =>
      unfinished s ++ c :: decodePieces none ps
  | .byte n :: ps =>
      let r :=
        match s with
        | some s => s.next n
        | none => beginChar n
      r.1 ++ decodePieces r.2 ps

/- A string with its percent sequences decoded. -/
def percentDecoded
    (s : String) : String :=
  (Text.asString
    (decodePieces none (piecesFrom 0 (Text.ofString s))))

end ProseCheck
