import NovelEngine.Decimal.Layout
import NovelEngine.Decimal.Reading
import NovelEngine.Decimal.Whole
import NovelEngine.Document.Fields
import NovelEngine.Text.Blank
import NovelEngine.Text.LetterCase

/-!
Contract: the dynamically typed values of scripts.

Owns:
- conversion of a value to a number, a whole number, a truth value and text;
- the comparison of two values;
- reading a value from a document.

Does not own: where values are stored.
-/

namespace NovelEngine

/-- A value in command parameters or in the variable store. -/
inductive Value where
  | boolean (value : Bool)
  | integer (value : Int64)
  | float (value : Float)
  | text (value : String)
deriving Repr, BEq

namespace Value

/-- The value of an unset parameter. -/
def zero : Value :=
  .integer 0

instance : Inhabited Value := ⟨zero⟩

/-! ## Conversions -/

/-- The number written in a text, blanks around it ignored. -/
def numberIn? (text : String) : Option Float :=
  Decimal.readFloat? (Text.trim text)

/-- Text that is no number counts as zero. -/
def toFloat : Value → Float
  | .boolean value => if value then 1.0 else 0.0
  | .integer value => Decimal.ofInt64 value
  | .float value => value
  | .text value => (numberIn? value).getD 0.0

/-- Truncates toward zero and stops at the ends of 64 bits; NaN counts as zero. -/
def toInt64 : Value → Int64
  | .integer value => value
  | value => Decimal.truncate value.toFloat

private def isFalseWord (text : String) : Bool :=
  text.isEmpty || text == "0" || String.ofList (text.toList.map Char.toLower) == "false"

/-- Zero and the texts empty, `0` and `false` are false, all else is true. -/
def toBool : Value → Bool
  | .boolean value => value
  | .integer value => value != 0
  | .float value => value != 0.0
  | .text value => !isFalseWord value

def isInteger : Value → Bool
  | .boolean _ => true
  | .integer _ => true
  | .float value => Decimal.isWhole value
  | .text value => (Decimal.readInt64? (Text.trim value)).isSome

/-- Whole doubles are written as 64-bit numbers, the largest ones cut to fit. -/
def toText : Value → String
  | .boolean value => if value then "true" else "false"
  | .integer value => toString value.toInt
  | .float value =>
      if Decimal.isWhole value then toString (Decimal.truncate value).toInt
      else Decimal.positionalText value
  | .text value => value

/-! ## Comparison -/

/-- Every value is numeric except text that is no number. -/
def isNumeric : Value → Bool
  | .text value => (numberIn? value).isSome
  | _ => true

/-- Negative when `left` sorts first, zero when both are equal, positive otherwise.

Numbers compare by difference; anything with a text that is no number compares
as text, letter case ignored. -/
def compare (left right : Value) : Float :=
  if left.isNumeric && right.isNumeric then
    if left.toFloat == right.toFloat then 0.0 else left.toFloat - right.toFloat
  else
    let leftText := Text.toLowerCase left.toText
    let rightText := Text.toLowerCase right.toText
    if leftText < rightText then -1.0
    else if leftText = rightText then 0.0
    else 1.0

/-! ## Documents -/

/-- A whole number becomes an integer if it fits 64 bits with a sign, else a double. -/
def decode? : Document → Option Value
  | .boolean value => some (.boolean value)
  | .integer value =>
      match Decimal.toInt64? value with
      | some fitting => some (.integer fitting)
      | none => some (.float (Decimal.ofInt value))
  | .float value => some (.float value)
  | .text value => some (.text value)
  | _ => none

end Value

end NovelEngine
