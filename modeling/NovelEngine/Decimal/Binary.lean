/-!
Contract: the parts of a double.

Owns: the split of a finite double into sign, whole significand and power of two,
and the double with given parts.

Does not own: any decimal form.
-/

namespace NovelEngine.Decimal

/-- The magnitude of a finite double: `significand * 2 ^ exponent`. -/
structure Binary where
  significand : Nat
  exponent : Int
deriving Repr, DecidableEq

def twoTo (exponent : Nat) : Nat :=
  Nat.pow 2 exponent

/-- The exponent of the smallest doubles. -/
def leastExponent : Int :=
  -1074

/-- The fraction field of a double has 52 bits; a normal number adds a leading one. -/
def Binary.ofFloat (number : Float) : Binary :=
  let bits := number.toBits.toNat
  let field : Nat := bits / twoTo 52 % twoTo 11
  let fraction : Nat := bits % twoTo 52
  if field = 0 then ⟨fraction, leastExponent⟩
  else ⟨fraction + twoTo 52, (field : Int) - 1075⟩

/-- The positive double with a given magnitude, for magnitudes that a double has:
the significand is below `2 ^ 53` and the exponent not below the least one. -/
def Binary.toFloat (magnitude : Binary) : Float :=
  let shift := 52 - magnitude.significand.log2
  let exponent := magnitude.exponent - shift
  let bits :=
    if exponent < leastExponent then
      magnitude.significand * twoTo (magnitude.exponent - leastExponent).toNat
    else
      (exponent + 1075).toNat * twoTo 52 + (magnitude.significand * twoTo shift - twoTo 52)
  if magnitude.significand = 0 then 0.0 else Float.ofBits bits.toUInt64

/-- Whether the sign bit is set; true of `-0.0`. -/
def isNegative (number : Float) : Bool :=
  number.toBits.toNat / twoTo 63 = 1

end NovelEngine.Decimal
