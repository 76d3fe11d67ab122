import NovelEngine.Player

/-!
Contract: the command line of the player.

Owns: reading the project file, the pace of frames, printing and exit codes.

Does not own: any rule of the game.
-/

namespace NovelEngine.Main

/-- Commands one script may execute within a frame before the player gives up. -/
def commandFuel : Nat :=
  UInt64.size

def projectPath : List String → String
  | path :: _ => path
  | [] => "project.json"

/-- The project in a file. -/
def loadProject (path : String) : IO (Except Error Project) := do
  try
    let text ← IO.FS.readFile path
    return Project.parse text
  catch _ =>
    return .error .unreadable

def report (error : Error) : IO UInt32 := do
  IO.eprintln ("Error: " ++ error.message)
  return 1

/-- Plays frames until the scene is over. -/
partial def playLoop (frameRate : Nat) (game : Game) : IO UInt32 := do
  if game.isFinished then return 0
  match Player.playFrame commandFuel game with
  | none => return 1
  | some (game, lines) =>
      if game.world.aborted then return 101
      for line in lines do
        IO.println line
      IO.sleep (1000 / frameRate).toUInt32
      playLoop frameRate game

end NovelEngine.Main

/-- Plays the project file named on the command line. -/
def main (arguments : List String) : IO UInt32 := do
  match ← NovelEngine.Main.loadProject (NovelEngine.Main.projectPath arguments) with
  | .error error => NovelEngine.Main.report error
  | .ok project =>
      match NovelEngine.Game.ofProject project with
      | .error error => NovelEngine.Main.report error
      | .ok (game, _) => NovelEngine.Main.playLoop (max project.config.frameRate 1) game
