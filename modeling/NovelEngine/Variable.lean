import NovelEngine.Document.Fields
import NovelEngine.Error

/-!
Contract: addresses of variable slots.

Owns:
- the four scopes and four kinds of variables;
- references to one slot, the slot limit and the shift of a reference.

Does not own: the contents of the slots.
-/

namespace NovelEngine

/-- The highest slot a script may address, and the highest index of a list. -/
def maxSlot : Nat :=
  9999

/-- Who shares a variable. Temporary variables are reset on every update. -/
inductive Scope where
  | local
  | global
  | persistent
  | temporary
deriving DecidableEq, Repr, Inhabited

inductive Kind where
  | number
  | text
  | boolean
  | list
deriving DecidableEq, Repr, Inhabited

/-- The address of one variable slot. -/
structure VariableRef where
  scope : Scope := .local
  kind : Kind := .number
  index : Nat
deriving DecidableEq, Repr, Inhabited

namespace Scope

def name : Scope → String
  | .local => "local"
  | .global => "global"
  | .persistent => "persistent"
  | .temporary => "temp"

def ofName? : String → Option Scope
  | "local" => some .local
  | "global" => some .global
  | "persistent" => some .persistent
  | "temp" => some .temporary
  | _ => none

theorem ofName?_name (scope : Scope) : ofName? scope.name = some scope := by
  cases scope <;> rfl

end Scope

namespace Kind

def name : Kind → String
  | .number => "number"
  | .text => "string"
  | .boolean => "boolean"
  | .list => "list"

def ofName? : String → Option Kind
  | "number" => some .number
  | "string" => some .text
  | "boolean" => some .boolean
  | "list" => some .list
  | _ => none

theorem ofName?_name (kind : Kind) : ofName? kind.name = some kind := by
  cases kind <;> rfl

end Kind

namespace VariableRef

/-- The slot `distance` further on. Past the slot limit the error names the slot,
cut to 64 bits. -/
def shift (reference : VariableRef) (distance : Nat) : Except Error VariableRef :=
  if reference.index + distance ≤ maxSlot then
    .ok { reference with index := reference.index + distance }
  else .error (.slotOutOfRange (min (reference.index + distance) (UInt64.size - 1)))

/-- Reads a reference; `readName?` says how scope and kind may be written. -/
def decodeWith? (readName? : Document → Option String) (document : Document) :
    Option VariableRef :=
  match document.fields? ["scope", "kind", "index"] with
  | some [scope, kind, index] => do
      return {
        scope := ← scope.defaulted? .local (fun value => readName? value >>= Scope.ofName?)
        kind := ← kind.defaulted? .number (fun value => readName? value >>= Kind.ofName?)
        index := ← index.required? (Document.natural? maxSlot) }
  | _ => none

def decode? : Document → Option VariableRef :=
  decodeWith? Document.name?

def encode (reference : VariableRef) : Document :=
  .record [
    ("scope", .text reference.scope.name),
    ("kind", .text reference.kind.name),
    ("index", .integer reference.index)]

end VariableRef

end NovelEngine
