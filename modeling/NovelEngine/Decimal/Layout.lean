import NovelEngine.Decimal.Shortest

/-!
Contract: the text of a double.

Owns:
- plain positional text, never with an exponent;
- scientific text with one digit before the point.

Does not own: which of the two a caller wants.
-/

namespace NovelEngine.Decimal

private def zeros (count : Nat) : String :=
  String.ofList (List.replicate count '0')

/-- Writes every place between the digits and the decimal point. -/
def Digits.positional (digits : Digits) : String :=
  let text := (toString digits.coefficient).toList
  let point := (text.length : Int) + digits.exponent
  if 0 ≤ digits.exponent then String.ofList text ++ zeros digits.exponent.toNat
  else if 0 < point then
    String.ofList (text.take point.toNat) ++ "." ++ String.ofList (text.drop point.toNat)
  else "0." ++ zeros (-point).toNat ++ String.ofList text

/-- One digit, the remaining digits behind a point, and the power of ten. -/
def Digits.scientific (digits : Digits) : String :=
  let text := (toString digits.coefficient).toList
  let power := (text.length : Int) + digits.exponent - 1
  let mantissa := match text with
    | [] => ""
    | [lead] => String.ofList [lead]
    | lead :: rest => String.ofList (lead :: '.' :: rest)
  mantissa ++ "e" ++ toString power

private def signed (number : Float) (text : String) : String :=
  if isNegative number then "-" ++ text else text

/-- Lays out a double with `layout`, naming the values that have no digits. -/
def render (layout : Digits → String) (number : Float) : String :=
  if number.isNaN then "NaN"
  else if number.isInf then signed number "inf"
  else
    let magnitude := Binary.ofFloat number
    if magnitude.significand = 0 then signed number "0"
    else signed number (layout (shortest magnitude))

/-- The shortest positional text that reads back: `0.5`, `3`, `-0`, `inf`, `NaN`. -/
def positionalText (number : Float) : String :=
  render Digits.positional number

/-- The shortest scientific text that reads back: `1e-8`, `2.5e20`. -/
def scientificText (number : Float) : String :=
  render Digits.scientific number

end NovelEngine.Decimal
