import NovelEngine.Dice
import NovelEngine.Engine.Activation
import NovelEngine.MessageBox
import NovelEngine.Mixer
import NovelEngine.Project
import NovelEngine.SnippetEngine
import NovelEngine.Stage
import NovelEngine.Variable.Store

/-!
Contract: everything that the running scripts share.

Owns:
- variables, stage, mixer, message box, scenes and common events;
- the count of running instances of each event;
- spawned scripts and the requested scene change, until the frame driver takes
  them;
- the engine for snippets and the dice, whatever they are.

Does not own: the scripts that are running.
-/

namespace NovelEngine

structure CommonEvent where
  id : String
  name : String
  parallel : Bool
  script : Script

structure Scene where
  uid : String
  name : String
  script : Script

/-- The common events by id, and how many runs of each are alive. -/
structure EventBoard where
  events : Registry String CommonEvent := {}
  active : Registry String Nat := {}
deriving Inhabited

namespace EventBoard

def isActive (board : EventBoard) (id : String) : Bool :=
  board.active.contains id

/-- How many runs of the event are alive. -/
def activeCount (board : EventBoard) (id : String) : Nat :=
  (board.active.find? id).getD 0

def activate (board : EventBoard) (id : String) : EventBoard :=
  { board with active := board.active.insert id (board.activeCount id + 1) }

/-- One run less. The last one takes the event off the board. -/
def deactivate (board : EventBoard) (id : String) : EventBoard :=
  match board.active.find? id with
  | some (remaining + 1) =>
      if remaining = 0 then { board with active := board.active.erase id }
      else { board with active := board.active.insert id remaining }
  | _ => board

end EventBoard

/-- Fast-forward state. Zero time means that waits are skipped outright. -/
structure Skip where
  enabled : Bool := false
  time : Nat := 0
deriving DecidableEq, Repr, Inhabited

structure World where
  config : Config := {}
  skip : Skip := {}
  store : Store := {}
  stage : Stage := {}
  mixer : Mixer := {}
  box : MessageBox := {}
  board : EventBoard := {}
  scenes : Registry String Scene := {}
  /-- Scripts started beside the running ones, for the frame driver to take. -/
  spawned : List Activation := []
  sceneRequest : Option String := none
  engine : SnippetEngine
  dice : Dice
  /-- Set when a random number was drawn from no numbers at all; the game cannot go on. -/
  aborted : Bool := false

namespace World

/-- An empty world without a snippet language, with dice that always show the lower bound. -/
def empty : World where
  engine := .refusing
  dice := .lowest

def addScene (world : World) (scene : Scene) : World :=
  { world with scenes := world.scenes.insert scene.uid scene }

def addEvent (world : World) (event : CommonEvent) : World :=
  { world with board := { world.board with
      events := world.board.events.insert event.id event } }

def spawn (world : World) (activation : Activation) : World :=
  { world with spawned := world.spawned ++ [activation] }

def takeSpawned (world : World) : List Activation × World :=
  (world.spawned, { world with spawned := [] })

def requestScene (world : World) (uid : String) : World :=
  { world with sceneRequest := some uid }

def takeSceneRequest (world : World) : Option String × World :=
  (world.sceneRequest, { world with sceneRequest := none })

def resetTemporaries (world : World) (context : Context) : World :=
  { world with store := world.store.resetTemporaries context }

def activate (world : World) (id : String) : World :=
  { world with board := world.board.activate id }

def deactivate (world : World) (id : String) : World :=
  { world with board := world.board.deactivate id }

def releaseBox (world : World) (context : Context) : World :=
  { world with box := world.box.release context }

def eraseBox (world : World) : World :=
  { world with box := world.box.erase }

end World

namespace Activation

/-- Whether waits are skipped outright, by fast-forward or on the way to the preview cursor. -/
def isInstantSkip (activation : Activation) (world : World) : Bool :=
  let previewing := world.config.preview && match activation.preview.cursor with
    | some cursor => activation.pointer < cursor
    | none => false
  (world.skip.enabled && world.skip.time == 0) || previewing

/-- Whether an input prompt of an unrelated context holds the message box. -/
def isLockedOut (activation : Activation) (world : World) : Bool :=
  world.box.isLockedAgainst activation.context activation.callers

/-- Suspends the run for the duration of an animation it was asked to wait for. -/
def waitForCompletion (activation : Activation) (world : World) (duration : Nat)
    (requested : Bool) : Activation :=
  if requested && duration != 0 && !activation.isInstantSkip world then
    { activation with isWaiting := true, waitCounter := duration }
  else activation

end Activation

end NovelEngine
