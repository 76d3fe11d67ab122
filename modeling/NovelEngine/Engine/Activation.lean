import NovelEngine.SavedState
import NovelEngine.Script
import NovelEngine.Slots

/-!
Contract: one run of one script.

Owns:
- the position in the script: pointer, indent, taken branches, open loops;
- the suspension state and the operations that enter and leave it;
- jumps, and saving and restoring the position.

Does not own: anything outside the run, and the scripts it calls.
-/

namespace NovelEngine

/-- Live-preview state, used only while the configuration asks for a preview. -/
structure Preview where
  /-- The command to pause at. Everything before it runs without waiting. -/
  cursor : Option Nat := none
  waiting : Bool := false
  /-- Commands executed since the last wait. -/
  executedCommands : Nat := 0
deriving DecidableEq, Repr, Inhabited

/-- A script being run. The block structure is never stored: commands whose indent
differs from `indent` are stepped over, and falling back to an indent with a
registered loop goes back to the loop. -/
structure Activation where
  context : Context
  script : Script
  /-- The contexts that wait for this run, outermost first. -/
  callers : List Context := []
  pointer : Nat := 0
  indent : Nat := 0
  /-- Whether the chain of conditions at each indent has taken a branch. -/
  conditions : Array Bool := #[]
  /-- The loop command registered at each indent. -/
  loops : Array (Option Nat) := #[]
  /-- Labels found by earlier jumps. -/
  labels : Registry String Nat := {}
  isRunning : Bool := false
  isWaiting : Bool := false
  waitCounter : Nat := 0
  waitingFor : Option WaitReason := none
  isWaitingForMessage : Bool := false
  /-- Start over instead of finishing. -/
  repeats : Bool := false
  settings : MessageSettings := {}
  preview : Preview := {}
  /-- The current command is to run again. -/
  holdPointer : Bool := false
  /-- How often the script ran to its end. -/
  completions : Nat := 0
deriving Inhabited

namespace Activation

/-! ## Starting and stopping -/

/-- Goes to the top of the script. Labels, settings and the preview cursor stay. -/
def start (activation : Activation) : Activation :=
  { activation with
    pointer := 0
    indent := 0
    conditions := #[]
    loops := #[]
    isWaiting := false
    waitCounter := 0
    waitingFor := none
    isWaitingForMessage := false
    holdPointer := false
    preview := { activation.preview with executedCommands := 0 }
    isRunning := true }

def stop (activation : Activation) : Activation :=
  { activation with isRunning := false }

def resume (activation : Activation) : Activation :=
  { activation with isRunning := true }

/-! ## Blocks -/

def condition (activation : Activation) (indent : Nat) : Bool :=
  Slots.read false activation.conditions indent

def setCondition (activation : Activation) (indent : Nat) (taken : Bool) : Activation :=
  { activation with conditions := Slots.write false activation.conditions indent taken }

/-- The loop command registered at `indent`. -/
def loopStart? (activation : Activation) (indent : Nat) : Option Nat :=
  Slots.read none activation.loops indent

def setLoop (activation : Activation) (indent : Nat) (start : Option Nat) : Activation :=
  { activation with loops := Slots.write none activation.loops indent start }

/-- The nearest indent at or below `indent` with a registered loop, else 0. -/
def enclosingLoop (activation : Activation) : Nat → Nat
  | 0 => 0
  | indent + 1 =>
      if (activation.loopStart? (indent + 1)).isSome then indent + 1
      else activation.enclosingLoop indent

/-- The indent of the command at the pointer; past the end, that of the innermost open loop. -/
def nextIndent (activation : Activation) : Nat :=
  match activation.script.command? activation.pointer with
  | some next => next.indent
  | none => activation.enclosingLoop activation.indent

/-- Leaves the blocks that end before the pointer; a loop at the new indent starts again. -/
def settleIndent (activation : Activation) : Activation :=
  let indent := activation.nextIndent
  if indent < activation.indent then
    { activation with
      indent
      pointer := (activation.loopStart? indent).getD activation.pointer }
  else activation

/-- Steps past the current command, unless it is to run again. -/
def stepPast (activation : Activation) : Activation :=
  if activation.holdPointer then { activation with holdPointer := false }
  else { activation with pointer := activation.pointer + 1 }.settleIndent

/-! ## Waiting -/

/-- Suspends the run for a number of updates. -/
def wait (activation : Activation) (frames : Nat) : Activation :=
  { activation with waitCounter := frames, isWaiting := 0 < frames }

/-- Suspends the run until an event of the host. -/
def waitUntil (activation : Activation) (reason : WaitReason) : Activation :=
  { activation with isWaiting := true, waitingFor := some reason }

/-- Suspends the run on the current command until the message box is free. -/
def waitForBox (activation : Activation) : Activation :=
  { activation with isWaitingForMessage := true, isWaiting := true, holdPointer := true }

/-- Ends a countdown or a wait for an event. -/
def clearWait (activation : Activation) : Activation :=
  { activation with isWaiting := false, waitCounter := 0, waitingFor := none }

/-! ## Jumps -/

/-- Goes to the command at `index`, takes over its indent and cancels a wait. -/
def jumpTo (activation : Activation) (index : Nat) : Activation :=
  let indent := match activation.script.command? index with
    | some command => command.indent
    | none => activation.indent
  { activation with pointer := index, indent }.clearWait

/-- Goes to the label called `name` and remembers where it is. -/
def jumpToLabel (activation : Activation) (name : String) : Except Error Activation :=
  match activation.labels.find? name with
  | some index => .ok (activation.jumpTo index)
  | none =>
      match activation.script.findLabel? name with
      | some index =>
          .ok ({ activation with labels := activation.labels.insert name index }.jumpTo index)
      | none => .error (.unknownLabel name)

/-! ## The end of the script -/

/-- Whether the run has nothing left to execute and nothing to wait for. -/
def isAtEnd (activation : Activation) : Bool :=
  !(activation.pointer < activation.script.size || activation.isWaiting
    || !activation.isRunning)

/-! ## Saving -/

/-- Whether the command before the pointer asks the player for an answer. -/
def isBehindPrompt (activation : Activation) : Bool :=
  match activation.script.command? (activation.pointer - 1) with
  | some command => command.isInputPrompt
  | none => false

/-- Whether a snapshot describes a run that is about to execute a command again. -/
def isToRetry (activation : Activation) : Bool :=
  activation.isBehindPrompt || activation.isWaitingForMessage

/-- A snapshot of the position. Behind an input prompt, and on a command that waits
for the message box, it describes a run that is about to execute that command. -/
def save (activation : Activation) : SavedState :=
  { pointer := if activation.isBehindPrompt then activation.pointer - 1 else activation.pointer
    conditions := activation.conditions
    loops := activation.loops
    labels := activation.labels
    isWaiting := if activation.isToRetry then false else activation.isWaiting
    isRunning := activation.isRunning
    waitCounter := activation.waitCounter
    waitingFor := if activation.isToRetry then none else activation.waitingFor
    indent := activation.indent
    settings := activation.settings }

/-- Takes over a snapshot. A wait for a called script is dropped, since the called
script is not part of the snapshot. -/
def restore (activation : Activation) (state : SavedState) : Activation :=
  let restored :=
    { activation with
      pointer := state.pointer
      conditions := state.conditions
      loops := state.loops
      labels := state.labels
      isWaiting := state.isWaiting
      isRunning := state.isRunning
      waitCounter := state.waitCounter
      waitingFor := state.waitingFor
      indent := state.indent
      settings := state.settings
      isWaitingForMessage := false
      holdPointer := false }
  if state.waitingFor = some .callee then restored.clearWait else restored

end Activation

end NovelEngine
