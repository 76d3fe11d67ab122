import NovelEngine.Decimal.Layout
import NovelEngine.Decimal.Remainder
import NovelEngine.Decimal.Whole
import NovelEngine.Snippet.Program

/-!
Contract: the values of the snippet language.

Owns:
- their text;
- arithmetic and comparison. Whole numbers never wrap around: a result that does
  not fit is a failure.

Does not own: variables and control flow.
-/

namespace NovelEngine.Snippet

inductive Datum where
  | unit
  | boolean (value : Bool)
  | integer (value : Int64)
  | float (value : Float)
  | text (value : String)
  | array (items : List Datum)
deriving Inhabited

namespace Datum

/-! ## Text -/

/-- Whole doubles keep a `.0`; very large and very small ones have a power of ten. -/
def floatText (number : Float) : String :=
  let size := number.abs
  if size == 0.0 then "0.0"
  else if size > 1e13 || size < 1e-7 then Decimal.scientificText number
  else if Decimal.isWhole number then Decimal.positionalText number ++ ".0"
  else Decimal.positionalText number

mutual

/-- The text of a value inside an array, where text is quoted. -/
def quotedText : Datum → String
  | .unit => "()"
  | .boolean value => if value then "true" else "false"
  | .integer value => toString value.toInt
  | .float value => floatText value
  | .text value => Document.writeQuoted value
  | .array items => "[" ++ quotedTexts items ++ "]"

def quotedTexts : List Datum → String
  | [] => ""
  | [item] => quotedText item
  | item :: rest => quotedText item ++ ", " ++ quotedTexts rest

end

/-- The text of a value. The unit value has none. -/
def toText : Datum → String
  | .unit => ""
  | .text value => value
  | datum => quotedText datum

/-! ## Arithmetic -/

/-- A whole number, if it fits 64 bits. -/
private def fitted? (value : Int) : Option Datum :=
  (Decimal.toInt64? value).map .integer

private def applyIntegers? (operator : Operator) (left right : Int64) : Option Datum :=
  let first := left.toInt
  let second := right.toInt
  match operator with
  | .add => fitted? (first + second)
  | .subtract => fitted? (first - second)
  | .multiply => fitted? (first * second)
  | .divide => if second = 0 then none else fitted? (first.tdiv second)
  | .modulo =>
      if second = 0 ∨ (second = -1 ∧ first = Int64.minValue.toInt) then none
      else fitted? (first.tmod second)
  | .equal => some (.boolean (first = second))
  | .notEqual => some (.boolean (first ≠ second))
  | .less => some (.boolean (first < second))
  | .lessOrEqual => some (.boolean (first ≤ second))
  | .greater => some (.boolean (first > second))
  | .greaterOrEqual => some (.boolean (first ≥ second))

private def applyFloats (operator : Operator) (left right : Float) : Datum :=
  match operator with
  | .add => .float (left + right)
  | .subtract => .float (left - right)
  | .multiply => .float (left * right)
  | .divide => .float (left / right)
  | .modulo => .float (Decimal.remainder left right)
  | .equal => .boolean (left == right)
  | .notEqual => .boolean (left != right)
  | .less => .boolean (left < right)
  | .lessOrEqual => .boolean (left ≤ right)
  | .greater => .boolean (left > right)
  | .greaterOrEqual => .boolean (left ≥ right)

private def applyTexts? (operator : Operator) (left right : String) : Option Datum :=
  match operator with
  | .add => some (.text (left ++ right))
  | .equal => some (.boolean (left = right))
  | .notEqual => some (.boolean (left ≠ right))
  | .less => some (.boolean (left < right))
  | .lessOrEqual => some (.boolean (¬ right < left))
  | .greater => some (.boolean (right < left))
  | .greaterOrEqual => some (.boolean (¬ left < right))
  | _ => none

private def applyBooleans? (operator : Operator) (left right : Bool) : Option Datum :=
  match operator with
  | .equal => some (.boolean (left == right))
  | .notEqual => some (.boolean (left != right))
  | .less => some (.boolean (!left && right))
  | .lessOrEqual => some (.boolean (!left || right))
  | .greater => some (.boolean (left && !right))
  | .greaterOrEqual => some (.boolean (left || !right))
  | _ => none

/-- Values of different types are never equal and never in order. -/
private def applyUnrelated? : Operator → Option Datum
  | .notEqual => some (.boolean true)
  | .equal | .less | .lessOrEqual | .greater | .greaterOrEqual => some (.boolean false)
  | _ => none

/-- Combines two values. A double makes the other number a double; a text next to
anything joins the texts. -/
def combine? (left : Datum) (operator : Operator) (right : Datum) : Option Datum :=
  match left, right with
  | .integer first, .integer second => applyIntegers? operator first second
  | .integer first, .float second => some (applyFloats operator (Decimal.ofInt64 first) second)
  | .float first, .integer second => some (applyFloats operator first (Decimal.ofInt64 second))
  | .float first, .float second => some (applyFloats operator first second)
  | .text first, .text second => applyTexts? operator first second
  | .boolean first, .boolean second => applyBooleans? operator first second
  | .unit, .unit =>
      match operator with
      | .equal => some (.boolean true)
      | .notEqual => some (.boolean false)
      | other => applyUnrelated? other
  | .text first, other =>
      if operator = .add then some (.text (first ++ other.toText)) else applyUnrelated? operator
  | other, .text second =>
      if operator = .add then some (.text (other.toText ++ second)) else applyUnrelated? operator
  | _, _ => applyUnrelated? operator

def negate? : Datum → Option Datum
  | .integer value => fitted? (-value.toInt)
  | .float value => some (.float (-value))
  | _ => none

/-! ## Arrays -/

/-- The position an index names in a list of `length` items; a negative index
counts from the end. -/
def position? (length : Nat) (index : Int64) : Option Nat :=
  let offset := index.toInt
  let position := if offset < 0 then offset + length else offset
  if 0 ≤ position ∧ position < length then some position.toNat else none

/-- Reads along a path of indices. -/
def readPath? : Datum → List Int64 → Option Datum
  | datum, [] => some datum
  | .array items, index :: path => do
      let position ← position? items.length index
      let item ← items[position]?
      readPath? item path
  | _, _ => none

/-- Replaces the value at the end of a path of indices. -/
def writePath? : Datum → List Int64 → Datum → Option Datum
  | _, [], value => some value
  | .array items, index :: path, value => do
      let position ← position? items.length index
      let item ← items[position]?
      return .array (items.set position (← writePath? item path value))
  | _, _, _ => none

/-- Calls a method. Returns the changed receiver and the result. -/
def method? (receiver : Datum) (name : String) (arguments : List Datum) :
    Option (Datum × Datum) :=
  match receiver, name, arguments with
  | .array items, "push", [item] => some (.array (items ++ [item]), .unit)
  | .array items, "pop", [] => some (.array items.dropLast, items.getLast?.getD .unit)
  | .array items, "len", [] => some (receiver, .integer (Int64.ofNat items.length))
  | .array _, "clear", [] => some (.array [], .unit)
  | .text value, "len", [] => some (receiver, .integer (Int64.ofNat value.length))
  | .text _, "clear", [] => some (.text "", .unit)
  | _, _, _ => none

end Datum

end NovelEngine.Snippet
