import NovelEngine.Engine.Outcome

/-!
Contract: calling and spawning other scripts.

Owns: the limit on nested calls and the preparation of a called script.

Does not own: running the called script.
-/

namespace NovelEngine

/-- Calls that may be nested, the outermost script included. -/
def maxCallDepth : Nat :=
  64

namespace Activation

/-- Whether one more nested call is allowed. -/
def mayCall (activation : Activation) : Bool :=
  activation.callers.length + 1 < maxCallDepth

/-- A started run of `script` that the caller will wait for. -/
def calleeOf (caller : Activation) (context : Context) (script : Script) : Activation :=
  { context, script, callers := caller.callers ++ [caller.context] : Activation }.start

/-- Calls a common event. With `wait` the caller is suspended until it ends,
otherwise it runs beside the scripts that are running. -/
def callEvent (activation : Activation) (world : World) (id : String)
    (parameters : List Value) (wait : Bool) : Outcome :=
  match world.board.events.find? id with
  | none =>
      { activation, world, notices := [.missingEvent activation.context id] }
  | some event =>
      if wait && !activation.mayCall then
        .failed activation world (.callDepth maxCallDepth)
      else
        let context : Context := { id := event.id, owner := some activation.context.id }
        let store := (world.store.clearLocals context).setParameters context parameters
        let world := { world with store }.activate id
        if wait then
          { activation := activation.waitUntil .callee
            world
            notices := [.callingEvent activation.context event.name]
            callee := some (activation.calleeOf context event.script) }
        else
          { activation
            world := world.spawn { context, script := event.script : Activation }.start
            notices := [.spawningEvent activation.context event.name] }

/-- Runs another scene's script to its end before going on. -/
def callScene (activation : Activation) (world : World) (uid : String) : Outcome :=
  match world.scenes.find? uid with
  | none => { activation, world, notices := [.missingScene activation.context uid] }
  | some scene =>
      if activation.mayCall then
        let context : Context := { id := scene.uid, owner := some activation.context.id }
        { activation := activation.waitUntil .callee
          world
          notices := [.callingScene activation.context scene.name]
          callee := some (activation.calleeOf context scene.script) }
      else .failed activation world (.callDepth maxCallDepth)

end Activation

end NovelEngine
