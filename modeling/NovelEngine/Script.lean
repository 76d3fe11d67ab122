import NovelEngine.Command
import NovelEngine.Error
import NovelEngine.Registry
import NovelEngine.Script.Decode

/-!
Contract: command lists prepared for running.

Owns:
- the check that every block is indented one level deeper than its opener;
- the instruction of every command, the index of labels and the targets of jumps.

Does not own: the position of a running script.
-/

namespace NovelEngine

/-- A checked and indexed command list. -/
structure Script where
  commands : Array Command := #[]
  /-- The instruction of each command, `none` where the id is not known. -/
  instructions : Array (Option Instruction) := #[]
  /-- The first label of each name. -/
  labels : Registry String Nat := {}
  /-- Where each jump leads, if its label is known in advance. -/
  jumpTargets : Array (Option Nat) := #[]
deriving Inhabited

namespace Script

/-! ## Preparation -/

/-- The first indent that is too deep. The first command stands at indent 0, any
other at most one level below the command before it. -/
def checkIndents (index previous : Nat) : List Command → Except Error Unit
  | [] => .ok ()
  | command :: rest =>
      let limit := if index = 0 then 0 else previous + 1
      if limit < command.indent then
        .error (.malformedIndent index command.indent previous)
      else checkIndents (index + 1) command.indent rest

/-- The name a command declares as a label. -/
def declaredLabel? (command : Command) : Option String :=
  if command.id = "Label" then command.labelName? else none

/-- Adds the labels of `commands`, the first of which stands at `index`. Of two
labels with one name the first counts. -/
def indexLabels (labels : Registry String Nat) (index : Nat) :
    List Command → Registry String Nat
  | [] => labels
  | command :: rest =>
      let labels := match declaredLabel? command with
        | some name => if labels.contains name then labels else labels.insert name index
        | none => labels
      indexLabels labels (index + 1) rest

def instructionOf (command : Command) : Option Instruction :=
  (Opcode.ofId? command.id).map (fun opcode => Instruction.ofParams opcode command.params)

def targetOf (labels : Registry String Nat) (command : Command) : Option Nat :=
  if command.id = "JumpToLabel" then command.labelName? >>= labels.find? else none

/-- Checks and indexes a command list. -/
def compile (commands : List Command) : Except Error Script :=
  match checkIndents 0 0 commands with
  | .error error => .error error
  | .ok () =>
      let labels := indexLabels {} 0 commands
      .ok {
        commands := commands.toArray
        instructions := (commands.map instructionOf).toArray
        labels
        jumpTargets := (commands.map (targetOf labels)).toArray }

/-! ## Access -/

def size (script : Script) : Nat :=
  script.commands.size

def command? (script : Script) (index : Nat) : Option Command :=
  script.commands[index]?

/-- The instruction at `index`; `none` past the end and for unknown ids. -/
def instruction? (script : Script) (index : Nat) : Option Instruction :=
  (script.instructions[index]?).join

/-- The precomputed target of the jump at `index`. -/
def jumpTarget? (script : Script) (index : Nat) : Option Nat :=
  (script.jumpTargets[index]?).join

/-- The position of the label called `name`. -/
def label? (script : Script) (name : String) : Option Nat :=
  script.labels.find? name

/-- Searches the commands for the first label called `name`. -/
def findLabel? (script : Script) (name : String) : Option Nat :=
  script.commands.findIdx? (fun command => declaredLabel? command = some name)

/-- The ids of the commands that will be skipped because nothing handles them. -/
def unknownIds (script : Script) : List String :=
  script.commands.toList.filterMap (fun command =>
    if (Opcode.ofId? command.id).isNone then some command.id else none)

end Script

end NovelEngine
