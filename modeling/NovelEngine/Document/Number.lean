import NovelEngine.Decimal.Reading
import NovelEngine.Decimal.Whole
import NovelEngine.Document

/-!
Contract: the numbers of a document.

Owns:
- the number format: no leading zero, a digit after the point, a digit in the
  power;
- which numbers are whole (they fit 64 bits, signed or unsigned) and how every
  other number becomes a double.

Does not own: numbers written inside the text values of scripts.
-/

namespace NovelEngine.Document

/-- The largest significand kept while digits are gathered. -/
def maxSignificand : Nat :=
  UInt64.size - 1

/-- Gathers digits into a significand until one more would exceed 64 bits.
Returns the significand and the number of digits gathered. -/
def gather : Nat → List Char → Nat × Nat
  | significand, [] => (significand, 0)
  | significand, digit :: rest =>
      let next := significand * 10 + (digit.toNat - '0'.toNat)
      if maxSignificand < next then (significand, 0)
      else
        let (final, count) := gather next rest
        (final, count + 1)

/-- The double `10 ^ power`, for powers up to 308. -/
def powerOfTen (power : Nat) : Float :=
  Float.ofScientific 1 false power

/-- Scales a double by a power of ten, at most 308 places at a time.
`none` when the result is beyond the doubles. -/
def scaleByTen : Nat → Float → Int → Option Float
  | 0, _, _ => some 0.0
  | rounds + 1, number, power =>
      if power.natAbs ≤ 308 then
        if 0 ≤ power then
          let product := number * powerOfTen power.toNat
          if product.isInf then none else some product
        else some (number / powerOfTen (-power).toNat)
      else if number == 0.0 then some number
      else if 0 ≤ power then none
      else scaleByTen rounds (number / powerOfTen 308) (power + 308)

/-- The double of a significand and a power of ten. Two rounds of scaling turn
any significand into zero, so four are enough for every power. -/
def fromParts (negative : Bool) (significand : Nat) (power : Int) : Document :=
  match scaleByTen 4 (Decimal.ofInt significand) power with
  | some number => .float (if negative then -number else number)
  | none => .invalid

/-- A number without point and power: whole if it fits 64 bits and is not `-0`. -/
def wholeNumber (negative : Bool) (significand : Nat) : Document :=
  if negative then
    if 0 < significand ∧ Int64.minValue.toInt ≤ -(significand : Int) then
      .integer (-(significand : Int))
    else .float (-Decimal.ofInt significand)
  else .integer significand

/-- The digits of the power behind `e`, with their sign. -/
private def takePower? (text : List Char) : Option (Int × List Char) :=
  let (negative, rest) := Decimal.takeSign text
  let (digits, rest) := Decimal.takeDigits rest
  if digits.isEmpty then none
  else if negative then some (-(Decimal.digitsValue digits : Int), rest)
  else some (Decimal.digitsValue digits, rest)

/-- The double that starts with the gathered `significand` and may go on with a power. -/
private def withPower? (negative : Bool) (significand : Nat) (power : Int)
    (text : List Char) : Option (Document × List Char) :=
  match text with
  | 'e' :: rest | 'E' :: rest =>
      (takePower? rest).map (fun (shift, rest) =>
        (fromParts negative significand (power + shift), rest))
  | rest => some (fromParts negative significand power, rest)

/-- Reads the number at the start of `text`, sign already taken. -/
def readMagnitude? (negative : Bool) (text : List Char) : Option (Document × List Char) :=
  let (digits, rest) := Decimal.takeDigits text
  if digits.isEmpty ∨ (digits.head? = some '0' ∧ 1 < digits.length) then none
  else
    let (significand, count) := gather 0 digits
    let dropped : Int := digits.length - count
    match rest with
    | '.' :: afterPoint =>
        let (fraction, rest) := Decimal.takeDigits afterPoint
        if fraction.isEmpty then none
        else
          let (significand, count) := gather significand fraction
          withPower? negative significand (dropped - count) rest
    | 'e' :: _ | 'E' :: _ => withPower? negative significand dropped rest
    | _ =>
        if dropped = 0 then some (wholeNumber negative significand, rest)
        else some (fromParts negative significand dropped, rest)

/-- Reads the number at the start of `text`. -/
def readNumber? : List Char → Option (Document × List Char)
  | '-' :: rest => readMagnitude? true rest
  | unsigned => readMagnitude? false unsigned

end NovelEngine.Document
