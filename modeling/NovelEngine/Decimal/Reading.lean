import NovelEngine.Decimal.Whole

/-!
Contract: numbers written as decimal text.

Owns:
- doubles: an optional sign, digits with an optional point and power of ten, or
  the words `inf`, `infinity`, `nan` in any case, rounded to the nearest double;
- 64-bit whole numbers: an optional sign and digits.

Does not own: blanks around the text and the stricter number format of documents.
-/

namespace NovelEngine.Decimal

/-- The whole number spelled by decimal digits. -/
def digitsValue (digits : List Char) : Nat :=
  digits.foldl (fun total digit => total * 10 + (digit.toNat - '0'.toNat)) 0

/-- Splits off the leading run of decimal digits. -/
def takeDigits (text : List Char) : List Char × List Char :=
  (text.takeWhile Char.isDigit, text.dropWhile Char.isDigit)

/-- The nearest double to `coefficient * 10 ^ power`.

Magnitudes far outside the range of a double are settled by their digit count,
so no huge power of ten is ever computed. -/
def nearestFloat (coefficient : Nat) (power : Int) : Float :=
  let leading := ((toString coefficient).length : Int) + power
  if coefficient = 0 then 0.0
  else if 400 < leading then 1.0 / 0.0
  else if leading < -400 then 0.0
  else if 0 ≤ power then Float.ofScientific coefficient false power.toNat
  else Float.ofScientific coefficient true (-power).toNat

/-- The sign in front of a number and the text behind it. -/
def takeSign : List Char → Bool × List Char
  | '-' :: rest => (true, rest)
  | '+' :: rest => (false, rest)
  | text => (false, text)

/-- The power of ten after `e` or `E`; no text at all means zero. -/
def readPower? : List Char → Option Int
  | [] => some 0
  | mark :: rest =>
      if mark = 'e' ∨ mark = 'E' then
        let (negative, digits) := takeSign rest
        if digits.isEmpty ∨ digits.any (fun digit => !digit.isDigit) then none
        else if negative then some (-(digitsValue digits : Int))
        else some (digitsValue digits)
      else none

/-- The magnitude of a double: digits around an optional point, then a power. -/
def readMagnitude? (text : List Char) : Option Float :=
  let (whole, afterWhole) := takeDigits text
  let (fraction, afterFraction) := match afterWhole with
    | '.' :: rest => takeDigits rest
    | rest => ([], rest)
  if whole.isEmpty ∧ fraction.isEmpty then none
  else
    match readPower? afterFraction with
    | none => none
    | some power =>
        some (nearestFloat (digitsValue (whole ++ fraction)) (power - fraction.length))

/-- Reads a whole text as a double. -/
def readFloat? (text : List Char) : Option Float :=
  let (negative, magnitude) := takeSign text
  let word := String.ofList (magnitude.map Char.toLower)
  let value? :=
    if word = "inf" ∨ word = "infinity" then some (1.0 / 0.0)
    else if word = "nan" then some (0.0 / 0.0)
    else readMagnitude? magnitude
  value?.map (fun value => if negative then -value else value)

/-- Reads a whole text as a signed 64-bit number. -/
def readInt64? (text : List Char) : Option Int64 :=
  let (negative, digits) := takeSign text
  if digits.isEmpty ∨ digits.any (fun digit => !digit.isDigit) then none
  else
    toInt64? (if negative then -(digitsValue digits : Int) else digitsValue digits)

end NovelEngine.Decimal
