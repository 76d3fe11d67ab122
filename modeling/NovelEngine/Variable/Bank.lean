import NovelEngine.Slots
import NovelEngine.Value

/-!
Contract: one bank of variables, a growing row of slots for each kind.

Owns: typed reads and writes of one slot, with the default of its kind.

Does not own: which bank a scope and a context address.
-/

namespace NovelEngine

/-- Unwritten slots read as `0`, the empty text, `false` and the empty list. -/
structure Bank where
  numbers : Array Float := #[]
  texts : Array String := #[]
  booleans : Array Bool := #[]
  lists : Array (List Value) := #[]
deriving Inhabited, Repr

namespace Bank

def number (bank : Bank) (index : Nat) : Float :=
  Slots.read 0.0 bank.numbers index

def text (bank : Bank) (index : Nat) : String :=
  Slots.read "" bank.texts index

def boolean (bank : Bank) (index : Nat) : Bool :=
  Slots.read false bank.booleans index

def list (bank : Bank) (index : Nat) : List Value :=
  Slots.read [] bank.lists index

def setNumber (bank : Bank) (index : Nat) (value : Float) : Bank :=
  { bank with numbers := Slots.write 0.0 bank.numbers index value }

def setText (bank : Bank) (index : Nat) (value : String) : Bank :=
  { bank with texts := Slots.write "" bank.texts index value }

def setBoolean (bank : Bank) (index : Nat) (value : Bool) : Bank :=
  { bank with booleans := Slots.write false bank.booleans index value }

def setList (bank : Bank) (index : Nat) (value : List Value) : Bank :=
  { bank with lists := Slots.write [] bank.lists index value }

/-- Seeds a bank with call arguments: each goes to the next slot of its kind. -/
def withParameters (bank : Bank) (parameters : List Value) : Bank :=
  let rec fill (bank : Bank) (numbers texts booleans : Nat) : List Value → Bank
    | [] => bank
    | .text value :: rest => fill (bank.setText texts value) numbers (texts + 1) booleans rest
    | .boolean value :: rest =>
        fill (bank.setBoolean booleans value) numbers texts (booleans + 1) rest
    | parameter :: rest =>
        fill (bank.setNumber numbers parameter.toFloat) (numbers + 1) texts booleans rest
  fill bank 0 0 0 parameters

end Bank

end NovelEngine
