import NovelEngine.Engine.Host
import NovelEngine.Engine.HostEvent

/-!
Contract: a running game.

Owns:
- starting a project on a host: compiling its scripts, the first scene, parallel events;
- frames: the scene first, then everything that runs beside it;
- scene changes and the delivery of events.

Does not own: what a single script does in a frame.
-/

namespace NovelEngine

/-- The shared world, the thread of the scene and the threads beside it. -/
structure Game where
  world : World
  main : Thread
  parallel : List Thread := []

/-! ## Loading -/

/-- A world and the notices of building it. -/
structure Loading where
  world : World
  notices : List Notice := []

namespace Loading

/-- Compiles a script and reports the commands it does not know. -/
def compile (loading : Loading) (commands : List Command) : Except Error (Script × Loading) :=
  match Script.compile commands with
  | .error error => .error error
  | .ok script =>
      .ok (script, { loading with
        notices := loading.notices ++ script.unknownIds.map .unknownCommand })

def addScene (loading : Loading) (source : SceneSource) : Except Error Loading := do
  let (script, loading) ← loading.compile source.commands
  let scene : Scene := { uid := source.uid, name := source.name, script }
  return { loading with world := loading.world.addScene scene }

def addEvent (loading : Loading) (source : EventSource) : Except Error Loading := do
  let (script, loading) ← loading.compile source.commands
  let event : CommonEvent :=
    { id := source.id, name := source.name, parallel := source.parallel, script }
  return { loading with world := loading.world.addEvent event }

/-- Adds all scenes, then all events; the first script that does not compile ends the loading. -/
def addSources (loading : Loading) (scenes : List SceneSource) (events : List EventSource) :
    Except Error Loading := do
  let loading ← scenes.foldlM addScene loading
  events.foldlM addEvent loading

end Loading

/-- A started run of a scene. -/
def World.sceneThread (world : World) (uid : String) : Except Error Thread :=
  match world.scenes.find? uid with
  | some scene =>
      let run : Activation := { context := { id := scene.uid }, script := scene.script }
      .ok { root := run.start }
  | none => .error (.missingScene uid)

/-- A started run of a parallel event, which starts over at its end. -/
def CommonEvent.parallelThread (event : CommonEvent) : Thread :=
  let run : Activation := { context := { id := event.id }, script := event.script, repeats := true }
  { root := run.start }

/-- Counts one more run of each event. -/
def World.activateAll (world : World) (events : List CommonEvent) : World :=
  events.foldl (fun world event => world.activate event.id) world

/-- The scene a project starts with. -/
def Project.firstScene (project : Project) : Except Error String :=
  match project.startScene, project.scenes with
  | some uid, _ => .ok uid
  | none, scene :: _ => .ok scene.uid
  | none, [] => .error .emptyProject

/-- Starts a project on a host. -/
def Host.start (host : Host) (project : Project) : Except Error (Game × List Notice) := do
  let uid ← project.firstScene
  let loading ← Loading.addSources { world := host.world project.config }
    project.scenes project.events
  let main ← loading.world.sceneThread uid
  let events := host.parallelEvents loading.world
  return (
    { world := loading.world.activateAll events
      main
      parallel := events.map CommonEvent.parallelThread },
    loading.notices ++ [.startingScene uid])

/-! ## Events -/

namespace Game

/-- Offers an event to threads in order until one accepts it. -/
def notifyFirst? (event : HostEvent) (world : World) :
    List Thread → Option (List Thread × World × List Notice)
  | [] => none
  | thread :: rest =>
      match thread.notify? world event with
      | some run => some (run.thread :: rest, run.world, run.notices)
      | none =>
          (notifyFirst? event world rest).map (fun (rest, world, notices) =>
            (thread :: rest, world, notices))

/-- Delivers an event to the scene, else to the first parallel thread that waits for it. -/
def notify? (game : Game) (event : HostEvent) : Option (Game × List Notice) :=
  match game.main.notify? game.world event with
  | some run => some ({ game with main := run.thread, world := run.world }, run.notices)
  | none =>
      (notifyFirst? event game.world game.parallel).map (fun (parallel, world, notices) =>
        ({ game with parallel, world }, notices))

/-- Offers an event to every thread. -/
def notifyAll (event : HostEvent) (world : World) :
    List Thread → List Thread × World × List Notice
  | [] => ([], world, [])
  | thread :: rest =>
      let (thread, world, notices) := match thread.notify? world event with
        | some run => (run.thread, run.world, run.notices)
        | none => (thread, world, [])
      let (rest, world, later) := notifyAll event world rest
      (thread :: rest, world, notices ++ later)

/-- The first wait that an event of the host could end. -/
def pendingWait (game : Game) : Option WaitReason :=
  match game.main.pendingWait with
  | some reason => some reason
  | none => game.parallel.findSome? Thread.pendingWait

/-- Whether the scene has come to its end. -/
def isFinished (game : Game) : Bool :=
  !game.main.root.isRunning && game.main.callees.isEmpty

/-! ## Frames -/

/-- The old scene's prompt, locals and stage go away. -/
def leaveScene (game : Game) : World :=
  let context := game.main.root.context
  let world := (game.world.releaseBox context).eraseBox
  { world with store := world.store.clearLocals context, stage := {} }

/-- Replaces the scene and ends the transition for everyone. If the scene is missing
the transition ends for the first thread that waits for it. -/
def changeScene (game : Game) (uid : String) : Game × List Notice :=
  match game.world.sceneThread uid with
  | .ok main =>
      let (parallel, world, notices) :=
        notifyAll .transitionFinished game.leaveScene game.parallel
      ({ world, main, parallel }, .changingScene uid :: notices)
  | .error error =>
      match game.notify? .transitionFinished with
      | some (game, notices) => (game, .sceneChangeFailed error :: notices)
      | none => (game, [.sceneChangeFailed error])

/-- Updates threads in order and drops those that finish. -/
def updateParallel (fuel : Nat) :
    List Thread → World → Option (List Thread × World × List Notice)
  | [], world => some ([], world, [])
  | thread :: rest, world =>
      match thread.update fuel world with
      | none => none
      | some update =>
          let context := update.thread.root.context
          let (kept, world, done) := match update.progress with
            | .finished => ([], update.world.deactivate context.id, [.parallelDone context])
            | .running => ([update.thread], update.world, [])
          (updateParallel fuel rest world).map (fun (rest, world, later) =>
            (kept ++ rest, world, update.notices ++ done ++ later))

/-- Takes over the spawned scripts, which run from the next frame on. -/
def adoptSpawned (game : Game) : Game :=
  let (spawned, world) := game.world.takeSpawned
  { game with world, parallel := game.parallel ++ spawned.map (fun root => { root }) }

/-- Carries out a requested scene change. -/
def followSceneRequest (game : Game) : Game × List Notice :=
  let (request, world) := game.world.takeSceneRequest
  match request with
  | some uid => { game with world }.changeScene uid
  | none => (game, [])

/-- A frame: the progress of the scene, the game after it and its notices. -/
structure Tick where
  progress : Progress
  game : Game
  notices : List Notice

/-- Updates the scene, then everything beside it, and takes over the spawned scripts;
`none` if a script does not come to rest within `fuel` commands. -/
def runThreads (game : Game) (fuel : Nat) : Option Tick :=
  match game.main.update fuel game.world with
  | none => none
  | some update =>
      match updateParallel fuel game.parallel update.world with
      | none => none
      | some (parallel, world, notices) =>
          some {
            progress := update.progress
            game := adoptSpawned { world, main := update.thread, parallel }
            notices := update.notices ++ notices }

/-- Runs one frame: the threads first, then a scene change that one of them asked for. -/
def tick (game : Game) (fuel : Nat) : Option Tick :=
  (game.runThreads fuel).map (fun frame =>
    let (game, later) := frame.game.followSceneRequest
    { frame with game, notices := frame.notices ++ later })

end Game

end NovelEngine
