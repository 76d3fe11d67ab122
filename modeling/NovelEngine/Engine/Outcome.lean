import NovelEngine.Engine.World
import NovelEngine.Notice

/-!
Contract: what running one instruction leads to.

Owns: the record of the changed run and world, the notices, a failure, and a
script to be called.

Does not own: any instruction.
-/

namespace NovelEngine

/-- The result of one instruction. A failed instruction may have had effects. -/
structure Outcome where
  activation : Activation
  world : World
  notices : List Notice := []
  failure : Option Error := none
  /-- A started script that the run now waits for. -/
  callee : Option Activation := none

namespace Outcome

/-- Only the run has changed. -/
def ofActivation (world : World) (activation : Activation) : Outcome :=
  { activation, world }

/-- Only the world has changed. -/
def ofWorld (activation : Activation) (world : World) : Outcome :=
  { activation, world }

/-- Nothing has changed and the instruction failed. -/
def failed (activation : Activation) (world : World) (error : Error) : Outcome :=
  { activation, world, failure := some error }

end Outcome

end NovelEngine
