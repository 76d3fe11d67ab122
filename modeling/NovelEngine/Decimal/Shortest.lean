import NovelEngine.Decimal.Binary

/-!
Contract: the fewest decimal digits that read back as a given double.

Owns: the search for the coarsest decimal grid with a point that rounds to the
double.

Does not own: how the digits are laid out as text.
-/

namespace NovelEngine.Decimal

/-- A decimal magnitude: `coefficient * 10 ^ exponent`. -/
structure Digits where
  coefficient : Nat
  exponent : Int
deriving Repr, DecidableEq

def tenTo (exponent : Nat) : Nat :=
  Nat.pow 10 exponent

/-- The point nearest to `magnitude` among multiples of `10 ^ place` that round to it.

All quantities are scaled to whole numbers: `centre` is the value, `low` and
`high` bound the reals that round to it. The bounds themselves round to it when
the significand is even. Below a power of two the gap is half as wide. Of two
equally near points the upper one is taken. -/
def gridPoint? (magnitude : Binary) (place : Int) : Option Nat :=
  let significand := magnitude.significand
  let base := magnitude.exponent - 2
  let left := twoTo base.toNat * tenTo (-place).toNat
  let right := twoTo (-base).toNat * tenTo place.toNat
  let narrow := significand = twoTo 52 ∧ magnitude.exponent > leastExponent
  let centre := 4 * significand * left
  let low := (4 * significand - if narrow then 1 else 2) * left
  let high := (4 * significand + 2) * left
  let inside (point : Nat) : Bool :=
    if significand % 2 = 0 then low ≤ point * right ∧ point * right ≤ high
    else low < point * right ∧ point * right < high
  let below := centre / right
  let above := below + 1
  match decide (0 < below) && inside below, inside above with
  | true, true =>
      if centre - below * right < above * right - centre then some below else some above
  | true, false => some below
  | false, true => some above
  | false, false => none

/-- Tries grids from coarse to fine, one decimal place at a time. -/
def searchGrids (magnitude : Binary) : Nat → Int → Digits
  | 0, _ => ⟨0, 0⟩
  | remaining + 1, place =>
      match gridPoint? magnitude place with
      | some point => ⟨point, place⟩
      | none => searchGrids magnitude remaining (place - 1)

/-- The shortest digits of a positive magnitude.

The leading decimal place is estimated from the binary one; 17 digits always
suffice, so the search ends within its bound. -/
def shortest (magnitude : Binary) : Digits :=
  let binaryPlace : Int := magnitude.significand.log2 + magnitude.exponent
  searchGrids magnitude 22 ((binaryPlace * 30103).fdiv 100000 + 2)

end NovelEngine.Decimal
