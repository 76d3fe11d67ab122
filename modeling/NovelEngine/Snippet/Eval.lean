import NovelEngine.Snippet.Datum

/-!
Contract: running programs of the snippet language.

Owns:
- variables in nested blocks, where the newest binding of a name counts;
- evaluation within a fixed number of operations, so that every run ends.

Does not own: the bindings a program starts with.
-/

namespace NovelEngine.Snippet

/-- Operations a program may spend before it fails. -/
def operationLimit : Nat :=
  1000000

/-- The bindings, newest first, and the operations spent. -/
structure Machine where
  bindings : List (String × Datum) := []
  operations : Nat := 0
deriving Inhabited

namespace Machine

/-- Spends one operation. -/
def charge? (machine : Machine) : Option Machine :=
  if machine.operations < operationLimit then
    some { machine with operations := machine.operations + 1 }
  else none

def find? (machine : Machine) (name : String) : Option Datum :=
  machine.bindings.lookup name

def bind (machine : Machine) (name : String) (value : Datum) : Machine :=
  { machine with bindings := (name, value) :: machine.bindings }

/-- Replaces the newest binding of a name. -/
def assign (machine : Machine) (name : String) (value : Datum) : Machine :=
  let rec replace : List (String × Datum) → List (String × Datum)
    | [] => []
    | binding :: rest =>
        if binding.1 = name then (name, value) :: rest else binding :: replace rest
  { machine with bindings := replace machine.bindings }

/-- Drops the bindings made since there were `count` of them. -/
def leaveBlock (machine : Machine) (count : Nat) : Machine :=
  { machine with bindings := machine.bindings.drop (machine.bindings.length - count) }

end Machine

mutual

/-- A value and the machine after computing it; `none` is a failure. -/
def evaluate? : (fuel : Nat) → Expression → Machine → Option (Datum × Machine)
  | 0, _, _ => none
  | fuel + 1, expression, machine =>
      match machine.charge? with
      | none => none
      | some machine =>
          match expression with
          | .unit => some (.unit, machine)
          | .boolean value => some (.boolean value, machine)
          | .integer value => some (.integer value, machine)
          | .float value => some (.float value, machine)
          | .text value => some (.text value, machine)
          | .named name => (machine.find? name).map (·, machine)
          | .array items =>
              (evaluateAll? fuel items machine).map (fun (items, machine) =>
                (.array items, machine))
          | .negate operand => do
              let (value, machine) ← evaluate? fuel operand machine
              return (← value.negate?, machine)
          | .invert operand => do
              match ← evaluate? fuel operand machine with
              | (.boolean value, machine) => return (.boolean (!value), machine)
              | _ => none
          | .both left right => do
              match ← evaluate? fuel left machine with
              | (.boolean true, machine) => requireBoolean? (evaluate? fuel right machine)
              | (.boolean false, machine) => return (.boolean false, machine)
              | _ => none
          | .either left right => do
              match ← evaluate? fuel left machine with
              | (.boolean false, machine) => requireBoolean? (evaluate? fuel right machine)
              | (.boolean true, machine) => return (.boolean true, machine)
              | _ => none
          | .apply operator left right => do
              let (left, machine) ← evaluate? fuel left machine
              let (right, machine) ← evaluate? fuel right machine
              return (← left.combine? operator right, machine)
          | .element array index => do
              let (array, machine) ← evaluate? fuel array machine
              match ← evaluate? fuel index machine with
              | (.integer index, machine) => return (← array.readPath? [index], machine)
              | _ => none
          | .method receiver name arguments => do
              let (arguments, machine) ← evaluateAll? fuel arguments machine
              match ← place? fuel receiver machine with
              | (some (root, path), machine) => do
                  let whole ← machine.find? root
                  let (changed, result) ← (← whole.readPath? path).method? name arguments
                  let whole ← whole.writePath? path changed
                  return (result, machine.assign root whole)
              | (none, machine) => do
                  let (receiver, machine) ← evaluate? fuel receiver machine
                  let (_, result) ← receiver.method? name arguments
                  return (result, machine)
          | .conditional test yes no => do
              match ← evaluate? fuel test machine with
              | (.boolean true, machine) => runBlock? fuel yes machine
              | (.boolean false, machine) => runBlock? fuel no machine
              | _ => none

/-- A truth value and nothing else. -/
def requireBoolean? : Option (Datum × Machine) → Option (Datum × Machine)
  | some (.boolean value, machine) => some (.boolean value, machine)
  | _ => none

def evaluateAll? : (fuel : Nat) → List Expression → Machine → Option (List Datum × Machine)
  | 0, _, _ => none
  | _ + 1, [], machine => some ([], machine)
  | fuel + 1, item :: rest, machine => do
      let (item, machine) ← evaluate? fuel item machine
      let (rest, machine) ← evaluateAll? fuel rest machine
      return (item :: rest, machine)

/-- The variable and the path of indices that an expression names, if it names a place. -/
def place? : (fuel : Nat) → Expression → Machine → Option (Option (String × List Int64) × Machine)
  | 0, _, _ => none
  | fuel + 1, expression, machine =>
      match expression with
      | .named name => some (some (name, []), machine)
      | .element array index => do
          match ← place? fuel array machine with
          | (some (name, path), machine) =>
              match ← evaluate? fuel index machine with
              | (.integer index, machine) => return (some (name, path ++ [index]), machine)
              | _ => none
          | (none, machine) => return (none, machine)
      | _ => some (none, machine)

/-- Runs statements with their own bindings; the result is that of the last one. -/
def runBlock? : (fuel : Nat) → List Statement → Machine → Option (Datum × Machine)
  | 0, _, _ => none
  | fuel + 1, statements, machine =>
      match runStatements? fuel statements .unit machine with
      | some (result, after) => some (result, after.leaveBlock machine.bindings.length)
      | none => none

def runStatements? : (fuel : Nat) → List Statement → Datum → Machine → Option (Datum × Machine)
  | 0, _, _, _ => none
  | _ + 1, [], result, machine => some (result, machine)
  | fuel + 1, statement :: rest, _, machine =>
      match runStatement? fuel statement machine with
      | some (result, machine) => runStatements? fuel rest result machine
      | none => none

def runStatement? : (fuel : Nat) → Statement → Machine → Option (Datum × Machine)
  | 0, _, _ => none
  | fuel + 1, statement, machine =>
      match machine.charge? with
      | none => none
      | some machine =>
          match statement with
          | .evaluate expression => evaluate? fuel expression machine
          | .bind name expression => do
              let (value, machine) ← evaluate? fuel expression machine
              return (.unit, machine.bind name value)
          | .assign place operator expression => do
              let (value, machine) ← evaluate? fuel expression machine
              match ← place? fuel place machine with
              | (some (root, path), machine) => do
                  let whole ← machine.find? root
                  let old ← whole.readPath? path
                  let value ← match operator with
                    | some operator => old.combine? operator value
                    | none => some value
                  return (.unit, machine.assign root (← whole.writePath? path value))
              | (none, _) => none
          | .repeated test body => runWhile? fuel test body machine
          | .loop body => runWhile? fuel (.boolean true) body machine
          | .fail _ => none

def runWhile? : (fuel : Nat) → Expression → List Statement → Machine → Option (Datum × Machine)
  | 0, _, _, _ => none
  | fuel + 1, test, body, machine =>
      match evaluate? fuel test machine with
      | some (.boolean true, machine) =>
          match runBlock? fuel body machine with
          | some (_, machine) => runWhile? fuel test body machine
          | none => none
      | some (.boolean false, machine) => some (.unit, machine)
      | _ => none

end

/-- Runs a program. Every descent or iteration that takes fuel also spends an
operation soon after, so the fuel outlasts the operations. -/
def Program.run? (program : Program) (bindings : List (String × Datum)) :
    Option (Datum × Machine) :=
  runStatements? (8 * operationLimit) program .unit { bindings }

end NovelEngine.Snippet
