import NovelEngine.Decimal.Whole
import NovelEngine.Error
import NovelEngine.Variable.Bank

/-!
Contract: snippets that work on a bank of variables.

Owns: the arrays `numbers`, `strings` and `switches` that stand for the bank while
a snippet runs, and taking them back when it succeeds.

Does not own: the snippet language. An engine for it is known only by what it makes of a
source and the arrays.
-/

namespace NovelEngine

/-- What the game can see of a value of the snippet language. -/
structure SnippetValue where
  isUnit : Bool := false
  boolean? : Option Bool := none
  integer? : Option Int64 := none
  float? : Option Float := none
  text : String

namespace SnippetValue

def toNumber (value : SnippetValue) : Float :=
  (value.float? <|> value.integer?.map Decimal.ofInt64).getD 0.0

def toBoolean (value : SnippetValue) : Bool :=
  value.boolean?.getD false

/-- The text of a result. The unit value has none. -/
def toResult (value : SnippetValue) : String :=
  if value.isUnit then "" else value.text

end SnippetValue

/-- The arrays that a snippet starts with. -/
structure SnippetArrays where
  numbers : List Float
  strings : List String
  switches : List Bool

def SnippetArrays.ofBank (bank : Bank) : SnippetArrays where
  numbers := bank.numbers.toList
  strings := bank.texts.toList
  switches := bank.booleans.toList

/-- What a snippet that succeeds leaves behind: its result, and the items of each variable
that still holds an array. -/
structure SnippetResult where
  result : SnippetValue
  numbers? : Option (List SnippetValue)
  strings? : Option (List SnippetValue)
  switches? : Option (List SnippetValue)

/-- The bank after a run. A variable that no longer holds an array leaves its slots alone. -/
def SnippetResult.takeBack (after : SnippetResult) (bank : Bank) : Bank :=
  { bank with
    numbers := match after.numbers? with
      | some items => (items.map SnippetValue.toNumber).toArray
      | none => bank.numbers
    texts := match after.strings? with
      | some items => (items.map SnippetValue.text).toArray
      | none => bank.texts
    booleans := match after.switches? with
      | some items => (items.map SnippetValue.toBoolean).toArray
      | none => bank.booleans }

/-- An engine for a snippet language: a function of the source and the arrays, with `none` as
a failure. Every snippet comes to an end. -/
structure SnippetEngine where
  evaluate? : (source : String) → SnippetArrays → Option SnippetResult

namespace SnippetEngine

/-- The engine of a language without programs. -/
def refusing : SnippetEngine where
  evaluate? := fun _ _ => none

/-- Runs a snippet on a bank. Returns the text of its result and the changed bank. -/
def run (engine : SnippetEngine) (source : String) (bank : Bank) :
    Except Error (String × Bank) :=
  match engine.evaluate? source (.ofBank bank) with
  | some after => .ok (after.result.toResult, after.takeBack bank)
  | none => .error .snippetFailed

end SnippetEngine

end NovelEngine
