import NovelEngine.Context
import NovelEngine.Registry
import NovelEngine.Variable
import NovelEngine.Variable.Bank

/-!
Contract: the variable store that all running scripts share.

Owns:
- the bank that a scope and a context address, created when first written;
- typed reads and writes through a reference;
- the reset of temporary and local banks.

Does not own: the slot limit, which references carry.
-/

namespace NovelEngine

structure Store where
  global : Bank := {}
  persistent : Bank := {}
  locals : Registry Context Bank := {}
  temporaries : Registry Context Bank := {}
deriving Inhabited

namespace Store

/-! ## Banks -/

/-- The bank addressed by `scope` for a script running as `context`; empty if never written. -/
def bank (store : Store) (context : Context) : Scope → Bank
  | .global => store.global
  | .persistent => store.persistent
  | .local => (store.locals.find? context).getD {}
  | .temporary => (store.temporaries.find? context).getD {}

/-- Replaces the bank addressed by `scope`. -/
def setBank (store : Store) (context : Context) (scope : Scope) (bank : Bank) : Store :=
  match scope with
  | .global => { store with global := bank }
  | .persistent => { store with persistent := bank }
  | .local => { store with locals := store.locals.insert context bank }
  | .temporary => { store with temporaries := store.temporaries.insert context bank }

/-- Applies `change` to the bank addressed by `scope`. -/
def changeBank (store : Store) (context : Context) (scope : Scope) (change : Bank → Bank) :
    Store :=
  store.setBank context scope (change (store.bank context scope))

/-- Empties the temporary bank of `context` for the update about to run. -/
def resetTemporaries (store : Store) (context : Context) : Store :=
  { store with temporaries := store.temporaries.insert context {} }

/-- Forgets the local and temporary variables of `context`. -/
def clearLocals (store : Store) (context : Context) : Store :=
  { store with
    locals := store.locals.erase context
    temporaries := store.temporaries.erase context }

/-! ## Typed access -/

def number (store : Store) (context : Context) (reference : VariableRef) : Float :=
  (store.bank context reference.scope).number reference.index

def text (store : Store) (context : Context) (reference : VariableRef) : String :=
  (store.bank context reference.scope).text reference.index

def boolean (store : Store) (context : Context) (reference : VariableRef) : Bool :=
  (store.bank context reference.scope).boolean reference.index

def list (store : Store) (context : Context) (reference : VariableRef) : List Value :=
  (store.bank context reference.scope).list reference.index

def setNumber (store : Store) (context : Context) (reference : VariableRef) (value : Float) :
    Store :=
  store.changeBank context reference.scope (fun bank => bank.setNumber reference.index value)

def setText (store : Store) (context : Context) (reference : VariableRef) (value : String) :
    Store :=
  store.changeBank context reference.scope (fun bank => bank.setText reference.index value)

def setBoolean (store : Store) (context : Context) (reference : VariableRef) (value : Bool) :
    Store :=
  store.changeBank context reference.scope (fun bank => bank.setBoolean reference.index value)

def setList (store : Store) (context : Context) (reference : VariableRef)
    (value : List Value) : Store :=
  store.changeBank context reference.scope (fun bank => bank.setList reference.index value)

/-! ## Access by the kind of the reference -/

/-- Reads a slot by its kind. A list reads as its length. -/
def get (store : Store) (context : Context) (reference : VariableRef) : Value :=
  match reference.kind with
  | .number => .float (store.number context reference)
  | .text => .text (store.text context reference)
  | .boolean => .boolean (store.boolean context reference)
  | .list => .integer (Int64.ofNat (store.list context reference).length)

/-- Writes a slot, converting the value to its kind. A list gains the value at its end. -/
def assign (store : Store) (context : Context) (reference : VariableRef) (value : Value) :
    Store :=
  match reference.kind with
  | .number => store.setNumber context reference value.toFloat
  | .text => store.setText context reference value.toText
  | .boolean => store.setBoolean context reference value.toBool
  | .list => store.setList context reference (store.list context reference ++ [value])

/-- Seeds the local bank of a called script with its arguments. -/
def setParameters (store : Store) (context : Context) (parameters : List Value) : Store :=
  store.changeBank context .local (fun bank => bank.withParameters parameters)

end Store

end NovelEngine
