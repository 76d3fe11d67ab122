import NovelEngine.Engine.World

/-!
Contract: what a game needs of the machine it is played on.

Owns: the engine for snippets, the dice, and the order in which a table yields its events.

Does not own: what becomes of them in a running game.
-/

namespace NovelEngine

/-- A host of games. Its tables keep their entries in no order that a game could rely on. -/
structure Host where
  engine : SnippetEngine
  dice : Dice
  arrange : List CommonEvent → List CommonEvent
  arrange_perm : ∀ events, (arrange events).Perm events

namespace Host

/-- A host without a snippet language, with dice that always show the lower bound, and with
tables that yield their entries as they were entered. -/
def plain : Host where
  engine := .refusing
  dice := .lowest
  arrange := fun events => events
  arrange_perm := .refl

/-- An empty world. Skipping starts as configured. -/
def world (host : Host) (config : Config) : World where
  config
  skip := { enabled := config.skip, time := config.skipTime }
  engine := host.engine
  dice := host.dice

/-- The events of a world that run from the start. -/
def parallelEvents (host : Host) (world : World) : List CommonEvent :=
  host.arrange (world.board.events.values.filter CommonEvent.parallel)

end Host

end NovelEngine
