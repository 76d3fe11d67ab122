import NovelEngine.Decimal.Remainder
import NovelEngine.Engine.Outcome

/-!
Contract: the instructions that change variables.

Owns:
- the operations on numbers, texts, truth values and lists;
- changes of several neighbouring slots, which stop at the first failing slot;
- snippets that work on the local variables.

Does not own: how a slot is addressed and stored.
-/

namespace NovelEngine

/-! ## Neighbouring slots -/

/-- Applies `change` to `count` slots from `offset` behind `target` on, until one fails. -/
def changeRange (change : VariableRef → World → World × Option Error) (target : VariableRef) :
    (offset count : Nat) → World → World × Option Error
  | _, 0, world => (world, none)
  | offset, count + 1, world =>
      match target.shift offset with
      | .error error => (world, some error)
      | .ok slot =>
          match change slot world with
          | (world, some error) => (world, some error)
          | (world, none) => changeRange change target (offset + 1) count world

/-- Changes the slots of a command; a range of zero counts as one. -/
def changeSlots (activation : Activation) (world : World) (target : VariableRef)
    (range : Nat) (change : VariableRef → World → World × Option Error) : Outcome :=
  let (world, failure) := changeRange change target 0 (max range 1) world
  { activation, world, failure }

/-! ## Numbers -/

namespace NumberOperation

/-- A remainder has the sign of the divisor. -/
def apply (operation : NumberOperation) (current operand : Float) : Except Error Float :=
  match operation with
  | .set => .ok operand
  | .add => .ok (current + operand)
  | .subtract => .ok (current - operand)
  | .multiply => .ok (current * operand)
  | .divide => if operand == 0.0 then .error .divisionByZero else .ok (current / operand)
  | .modulo =>
      if operand == 0.0 then .error .divisionByZero
      else
        let remainder := Decimal.remainder current operand
        .ok (if remainder / operand < 0.0 then remainder + operand else remainder)

end NumberOperation

namespace World

/-- A random whole number between two bounds, each rounded to the nearest whole
number. If there is none between them the world is aborted. -/
def randomBetween (world : World) (first second : Float) : Float × World :=
  let (low, high) := if first ≤ second then (first, second) else (second, first)
  match world.dice.draw? (Decimal.round low).toInt (Decimal.round high).toInt with
  | some (number, dice) => (Decimal.ofInt number, { world with dice })
  | none => (0.0, { world with aborted := true })

end World

namespace NumberSource

/-- The number a source yields for a script running as `context`. -/
def yield (source : NumberSource) (world : World) (context : Context) : Float × World :=
  match source with
  | .random first second =>
      world.randomBetween (first.number world.store context) (second.number world.store context)
  | .operand read => (read.number world.store context, world)

end NumberSource

namespace Activation

/-- The operand is read again for every slot. -/
def changeNumbers (activation : Activation) (world : World) (change : NumberChange) : Outcome :=
  changeSlots activation world change.target change.range (fun slot world =>
    let (operand, world) := change.source.yield world activation.context
    let current := world.store.number activation.context slot
    match change.operation.apply current operand with
    | .ok value =>
        ({ world with store := world.store.setNumber activation.context slot value }, none)
    | .error error => (world, some error))

end Activation

/-! ## Texts -/

namespace TextOperation

def apply (operation : TextOperation) (current operand : String) : String :=
  match operation with
  | .set => operand
  | .append => current ++ operand
  | .upper => Text.toUpperCase current
  | .lower => Text.toLowerCase current

end TextOperation

namespace World

/-- Runs a snippet on the local variables of `context`; a failed one changes nothing. -/
def runSnippet (world : World) (context : Context) (source : String) :
    Except Error (String × World) :=
  match world.engine.run source (world.store.bank context .local) with
  | .ok (text, bank) =>
      .ok (text, { world with store := world.store.setBank context .local bank })
  | .error error => .error error

end World

namespace Activation

/-- The text a source yields, and the world after computing it. -/
def yieldText (activation : Activation) (world : World) :
    Option TextSource → Except Error (String × World)
  | some (.snippet source) => world.runSnippet activation.context source
  | some (.operand operand) => .ok (operand.text world.store activation.context, world)
  | none => .ok ("", world)

/-- The operand is computed once. If its snippet fails nothing is changed. -/
def changeTexts (activation : Activation) (world : World) (change : TextChange) : Outcome :=
  match activation.yieldText world change.source with
  | .error error =>
      { activation, world, notices := [.textSnippetFailed activation.context error] }
  | .ok (operand, world) =>
      changeSlots activation world change.target change.range (fun slot world =>
        let current := world.store.text activation.context slot
        let value := change.operation.apply current operand
        ({ world with store := world.store.setText activation.context slot value }, none))

/-- Runs a snippet for its effects. -/
def runSnippet (activation : Activation) (world : World) (source : String) : Outcome :=
  match world.runSnippet activation.context source with
  | .ok (_, world) => .ofWorld activation world
  | .error error => { activation, world, notices := [.snippetFailed activation.context error] }

/-! ## Truth values -/

/-- Sets every slot to one value, or inverts each. -/
def changeBooleans (activation : Activation) (world : World) (change : BooleanChange) :
    Outcome :=
  let value := change.value.boolean world.store activation.context
  changeSlots activation world change.target change.range (fun slot world =>
    let value := if change.toggle then !world.store.boolean activation.context slot else value
    ({ world with store := world.store.setBoolean activation.context slot value }, none))

end Activation

/-! ## Lists -/

namespace ListOperation

/-- Setting an item past the end fills the gap with zeros, within the slot limit. -/
def apply (operation : ListOperation) (items : List Value) (value : Value) (index : Nat) :
    Except Error (List Value) :=
  match operation with
  | .push => .ok (items ++ [value])
  | .pop => .ok items.dropLast
  | .clear => .ok []
  | .set =>
      if index ≤ maxSlot then .ok (Slots.write Value.zero items.toArray index value).toList
      else .error (.slotOutOfRange index)
  | .removeAt => .ok (items.eraseIdx index)

end ListOperation

namespace Activation

def changeLists (activation : Activation) (world : World) (change : ListChange) : Outcome :=
  let value := change.value.value world.store activation.context
  let index := Decimal.toSize (change.index.number world.store activation.context)
  let items := world.store.list activation.context change.target
  match change.operation.apply items value index with
  | .ok items =>
      .ofWorld activation
        { world with store := world.store.setList activation.context change.target items }
  | .error error => .failed activation world error

end Activation

end NovelEngine
