import NovelEngine.Snippet.Eval
import NovelEngine.SnippetEngine

/-!
Contract: a small snippet language as an engine.

Owns: the variables a program starts with, and what the game sees of those it leaves behind.

Does not own: the arrays that stand for a bank.
-/

namespace NovelEngine.Snippet

def Datum.seen (datum : Datum) : SnippetValue where
  isUnit := datum matches .unit
  boolean? := match datum with
    | .boolean value => some value
    | _ => none
  integer? := match datum with
    | .integer value => some value
    | _ => none
  float? := match datum with
    | .float value => some value
    | _ => none
  text := datum.toText

/-- The variables a program starts with. -/
def bindings (arrays : SnippetArrays) : List (String × Datum) :=
  [("switches", .array (arrays.switches.map .boolean)),
   ("strings", .array (arrays.strings.map .text)),
   ("numbers", .array (arrays.numbers.map .float))]

/-- The items of a variable that still holds an array. -/
def Machine.items? (machine : Machine) (name : String) : Option (List SnippetValue) :=
  match machine.find? name with
  | some (.array items) => some (items.map Datum.seen)
  | _ => none

def engine : SnippetEngine where
  evaluate? := fun source arrays => do
    let program ← Program.ofSource? source
    let (result, machine) ← program.run? (bindings arrays)
    return {
      result := result.seen
      numbers? := machine.items? "numbers"
      strings? := machine.items? "strings"
      switches? := machine.items? "switches" }

end NovelEngine.Snippet
