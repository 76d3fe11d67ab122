import NovelEngine.Command
import NovelEngine.Document.Reader
import NovelEngine.Error

/-!
Contract: project files.

Owns: the configuration, the scenes and the common events of a game as they are
written, and reading them.

Does not own: compiled scripts and the running game.
-/

namespace NovelEngine

structure Config where
  frameRate : Nat := 60
  /-- Commands one script may run in one update before it has to yield; no limit if `none`. -/
  commandBudget : Option Nat := some 10000
  preview : Bool := false
  previewCommandLimit : Nat := 500
  skip : Bool := false
  /-- Frames a skipped wait still takes. Zero skips waits outright. -/
  skipTime : Nat := 0
deriving DecidableEq, Repr, Inhabited

namespace Config

def decode? (document : Document) : Option Config :=
  match document.fields?
      ["frameRate", "commandBudget", "preview", "previewCommandLimit", "skip", "skipTime"] with
  | some [frameRate, budget, preview, previewLimit, skip, skipTime] => do
      return {
        frameRate := ← frameRate.defaulted? 60 Document.word?
        commandBudget := ← budget.defaulted? (some 10000) (Document.nullable? Document.size?)
        preview := ← preview.defaulted? false Document.boolean?
        previewCommandLimit := ← previewLimit.defaulted? 500 Document.size?
        skip := ← skip.defaulted? false Document.boolean?
        skipTime := ← skipTime.defaulted? 0 Document.word? }
  | _ => none

end Config

structure SceneSource where
  uid : String
  name : String := ""
  commands : List Command := []
deriving Repr

namespace SceneSource

def decode? (document : Document) : Option SceneSource :=
  match document.fields? ["uid", "name", "commands"] with
  | some [uid, name, commands] => do
      return {
        uid := ← uid.required? Document.text?
        name := ← name.defaulted? "" Document.text?
        commands := ← commands.defaulted? [] (Document.list? Command.decode?) }
  | _ => none

end SceneSource

structure EventSource where
  id : String
  name : String := ""
  /-- Parallel events run beside the scene from the start. -/
  parallel : Bool := false
  commands : List Command := []
deriving Repr

namespace EventSource

def decode? (document : Document) : Option EventSource :=
  match document.fields? ["id", "name", "parallel", "commands"] with
  | some [id, name, parallel, commands] => do
      return {
        id := ← id.required? Document.text?
        name := ← name.defaulted? "" Document.text?
        parallel := ← parallel.defaulted? false Document.boolean?
        commands := ← commands.defaulted? [] (Document.list? Command.decode?) }
  | _ => none

end EventSource

structure Project where
  config : Config := {}
  scenes : List SceneSource := []
  events : List EventSource := []
  /-- The scene to start with, the first one if missing. -/
  startScene : Option String := none
deriving Repr, Inhabited

namespace Project

def decode? (document : Document) : Option Project :=
  match document.fields? ["config", "scenes", "commonEvents", "startScene"] with
  | some [config, scenes, events, startScene] => do
      return {
        config := ← config.defaulted? {} Config.decode?
        scenes := ← scenes.defaulted? [] (Document.list? SceneSource.decode?)
        events := ← events.defaulted? [] (Document.list? EventSource.decode?)
        startScene := ← startScene.lenient? Document.text? }
  | _ => none

/-- Reads the text of a project file. -/
def parse (text : String) : Except Error Project :=
  match Document.read? text >>= decode? with
  | some project => .ok project
  | none => .error .undecodable

end Project

end NovelEngine
