import NovelEngine.Value
import NovelEngine.Variable.Store

/-!
Contract: parameters that are written inline or read from a variable, and
conditions on them.

Owns:
- operands and their value in a store;
- the six comparisons and the conditions built from them.

Does not own: the commands that use them.
-/

namespace NovelEngine

/-- A parameter that is a slot to read or a value. -/
inductive Operand where
  | slot (reference : VariableRef)
  | literal (value : Value)
deriving Repr

namespace Operand

instance : Inhabited Operand := ⟨.literal .zero⟩

/-- The value of the operand for a script running as `context`. -/
def value (operand : Operand) (store : Store) (context : Context) : Value :=
  match operand with
  | .slot reference => store.get context reference
  | .literal value => value

def number (operand : Operand) (store : Store) (context : Context) : Float :=
  (operand.value store context).toFloat

def text (operand : Operand) (store : Store) (context : Context) : String :=
  (operand.value store context).toText

def boolean (operand : Operand) (store : Store) (context : Context) : Bool :=
  (operand.value store context).toBool

/-- A reference if the document reads as one, else a value. -/
def decode? (document : Document) : Option Operand :=
  if document.isValid then
    match VariableRef.decode? document with
    | some reference => some (.slot reference)
    | none => (Value.decode? document).map .literal
  else none

end Operand

inductive Comparison where
  | equal
  | notEqual
  | greater
  | greaterOrEqual
  | less
  | lessOrEqual
deriving DecidableEq, Repr

namespace Comparison

def holds (comparison : Comparison) (left right : Value) : Bool :=
  let order := left.compare right
  match comparison with
  | .equal => order == 0.0
  | .notEqual => order != 0.0
  | .greater => order > 0.0
  | .greaterOrEqual => order ≥ 0.0
  | .less => order < 0.0
  | .lessOrEqual => order ≤ 0.0

def ofName? : String → Option Comparison
  | "==" => some .equal
  | "!=" => some .notEqual
  | ">" => some .greater
  | ">=" => some .greaterOrEqual
  | "<" => some .less
  | "<=" => some .lessOrEqual
  | _ => none

end Comparison

/-- The test of an `if`. -/
structure Condition where
  left : Operand
  comparison : Comparison := .equal
  right : Operand := .literal (.boolean true)
deriving Repr

namespace Condition

def holds (condition : Condition) (store : Store) (context : Context) : Bool :=
  condition.comparison.holds (condition.left.value store context)
    (condition.right.value store context)

def decode? (document : Document) : Option Condition :=
  match document.fields? ["left", "operation", "right"] with
  | some [left, operation, right] => do
      return {
        left := ← left.required? Operand.decode?
        comparison := ← operation.defaulted? .equal
          (fun value => value.name? >>= Comparison.ofName?)
        right := ← right.defaulted? (.literal (.boolean true)) Operand.decode? }
  | _ => none

end Condition

end NovelEngine
