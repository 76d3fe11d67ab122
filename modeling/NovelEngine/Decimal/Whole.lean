import NovelEngine.Decimal.Binary

/-!
Contract: whole numbers as doubles and back.

Owns:
- the nearest double to a whole number of 64 bits;
- truncation and rounding to whole numbers, cut to 64 bits with a sign;
- the test for a fraction.

Does not own: any text.
-/

namespace NovelEngine.Decimal

/-- The nearest double to a whole number whose magnitude fits 64 bits. -/
def ofInt (value : Int) : Float :=
  if value < 0 then -value.natAbs.toUInt64.toFloat else value.natAbs.toUInt64.toFloat

/-- The nearest double to a 64-bit number. -/
def ofInt64 (value : Int64) : Float :=
  ofInt value.toInt

/-- The 64-bit number with a sign, if the value fits. -/
def toInt64? (value : Int) : Option Int64 :=
  if Int64.minValue.toInt ≤ value ∧ value ≤ Int64.maxValue.toInt then some (Int64.ofInt value)
  else none

/-- Cuts a whole number to 64 bits with a sign. -/
def clampInt64 (value : Int) : Int64 :=
  Int64.ofInt (max Int64.minValue.toInt (min value Int64.maxValue.toInt))

/-- Drops the fraction. NaN counts as zero, what does not fit is cut. -/
def truncate (number : Float) : Int64 :=
  if number < 0.0 then clampInt64 (-(number.abs.toUInt64.toNat : Int))
  else clampInt64 number.toUInt64.toNat

/-- The nearest whole number, a half away from zero. NaN counts as zero. -/
def round (number : Float) : Int64 :=
  if number.isNaN then 0
  else
    let magnitude := Binary.ofFloat number
    let whole :=
      if 0 ≤ magnitude.exponent then magnitude.significand * twoTo magnitude.exponent.toNat
      else
        let places := (-magnitude.exponent).toNat
        (magnitude.significand + twoTo (places - 1)) / twoTo places
    clampInt64 (if isNegative number then -(whole : Int) else whole)

/-- Whether a double is finite and has no fraction. -/
def isWhole (number : Float) : Bool :=
  let magnitude := Binary.ofFloat number
  number.isFinite
    && (0 ≤ magnitude.exponent || magnitude.significand % twoTo (-magnitude.exponent).toNat == 0)

/-- Drops the fraction; negative numbers and NaN count as zero, and what does not
fit 32 bits is cut. -/
def toWord (number : Float) : Nat :=
  if number > 0.0 then number.toUInt32.toNat else 0

/-- As `toWord`, for 64 bits. -/
def toSize (number : Float) : Nat :=
  if number > 0.0 then number.toUInt64.toNat else 0

end NovelEngine.Decimal
