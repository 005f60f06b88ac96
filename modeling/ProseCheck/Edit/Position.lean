import ProseCheck.Text.Position

/-
  This file bounds the lines and columns that an editor and
  a server exchange.

  Key definitions include:
    * `Position.limit`
    * `Position.ofInts`
    * `Range.ofInts`
-/

------------------------------------------------------------
-- Bounds
------------------------------------------------------------

namespace ProseCheck

/- A line or a column that lies outside of the bounds. -/
structure PositionFault where
  field : String
  value : Int
deriving DecidableEq, Repr

namespace Position

/- The greatest line and the greatest column. -/
def limit : Nat :=
  2147483647

end Position

/- The wording of the fault. -/
def PositionFault.message
    (f : PositionFault) : String :=
  "Position." ++ f.field ++ " should be in range [0:" ++
    toString Position.limit ++ "], but was " ++
    toString f.value ++ "."

namespace Position

/- A line or a column, if it lies in the bounds. -/
def bounded
    (field : String)
    (n : Int) : Except PositionFault Nat :=
  if n < 0 ∨ limit < n then .error ⟨field, n⟩
  else .ok n.toNat

/- The position of a line and a column. -/
def ofInts
    (line character : Int) : Except PositionFault Position :=
  do
    let l ← bounded "line" line
    let c ← bounded "character" character
    return ⟨l, c⟩

end Position

/- The range between two lines and columns. -/
def Range.ofInts
    (startLine startCharacter endLine endCharacter : Int) :
    Except PositionFault Range := do
  let start ← Position.ofInts startLine startCharacter
  let stop ← Position.ofInts endLine endCharacter
  return ⟨start, stop⟩

end ProseCheck
