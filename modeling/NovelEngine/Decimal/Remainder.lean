import NovelEngine.Decimal.Binary

/-!
Contract: the exact remainder of a division of doubles, truncated toward zero.

Owns: `remainder`, whose result has the sign of the dividend and is smaller in
magnitude than the divisor.

Does not own: the wrap-around of negative remainders that scripts use.
-/

namespace NovelEngine.Decimal

/-- The part of `dividend` left after removing `divisor` a whole number of times. -/
def remainder (dividend divisor : Float) : Float :=
  if dividend.isNaN || divisor.isNaN || dividend.isInf || divisor == 0.0 then 0.0 / 0.0
  else if divisor.isInf then dividend
  else
    let above := Binary.ofFloat dividend
    let below := Binary.ofFloat divisor
    let exponent := min above.exponent below.exponent
    let left := above.significand * twoTo (above.exponent - exponent).toNat
    let right := below.significand * twoTo (below.exponent - exponent).toNat
    let magnitude := Binary.toFloat ⟨left % right, exponent⟩
    if isNegative dividend then -magnitude else magnitude

end NovelEngine.Decimal
