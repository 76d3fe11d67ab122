import NovelEngine.Engine.Outcome

/-!
Contract: the instructions that move through a script.

Owns: loops, conditions, jumps, waits and leaving a script. These are the only
instructions that change indent, open loops and taken branches.

Does not own: calls of other scripts.
-/

namespace NovelEngine.Activation

/-- Registers the loop at the pointer and enters its block. -/
def enterLoop (activation : Activation) : Activation :=
  { activation.setLoop activation.indent (some activation.pointer) with
    indent := activation.indent + 1 }

/-- Closes the innermost open loop and goes back to its indent. -/
def breakLoop (activation : Activation) : Activation :=
  let indent := activation.enclosingLoop activation.indent
  { activation.setLoop indent none with indent }

/-- Notes whether the condition at the current indent holds, and enters its block if so. -/
def branch (activation : Activation) (holds : Bool) : Activation :=
  let noted := activation.setCondition activation.indent holds
  if holds then { noted with indent := activation.indent + 1 } else noted

/-- Enters the block if no earlier branch of the chain was taken. -/
def branchElse (activation : Activation) : Activation :=
  if activation.condition activation.indent then activation
  else { activation with indent := activation.indent + 1 }

/-- Closes all loops and goes to the last command. -/
def exitEvent (activation : Activation) : Activation :=
  { activation with loops := #[], pointer := activation.script.size - 1 }

/-- Evaluates a condition and takes its branch. -/
def testCondition (activation : Activation) (world : World) (test : Condition) : Outcome :=
  .ofActivation world
    (activation.branch (test.holds world.store activation.context))

/-- As `testCondition`, unless an earlier branch of the chain was taken. -/
def testElseIf (activation : Activation) (world : World) (id : String)
    (test : Option Condition) : Outcome :=
  if activation.condition activation.indent then .ofActivation world activation
  else
    match test with
    | some test => activation.testCondition world test
    | none => .failed activation world (.invalidParams id)

/-- Goes to the precomputed target of the jump at the pointer, else to the named label. -/
def followJump (activation : Activation) (world : World) (id : String)
    (name : Option String) : Outcome :=
  match activation.script.jumpTarget? activation.pointer with
  | some target => .ofActivation world (activation.jumpTo target)
  | none =>
      match name with
      | none => .failed activation world (.invalidParams id)
      | some name =>
          match activation.jumpToLabel name with
          | .ok jumped => .ofActivation world jumped
          | .error error => .failed activation world error

/-- Waits a number of updates, unless waits are skipped. -/
def waitFrames (activation : Activation) (world : World) (time : Operand) : Outcome :=
  if activation.isInstantSkip world then .ofActivation world activation
  else
    .ofActivation world
      (activation.wait (Decimal.toWord (time.number world.store activation.context)))

/-- Asks the frame driver for another scene and waits for the transition. -/
def changeScene (activation : Activation) (world : World) (uid : String) : Outcome :=
  { activation := activation.waitUntil .transition, world := world.requestScene uid }

end NovelEngine.Activation
