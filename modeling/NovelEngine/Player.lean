import NovelEngine.Player.Answers
import NovelEngine.Snippet

/-!
Contract: the host of the player without a screen.

Owns: pseudo-random numbers, tables that yield their events in the order of their ids, and
games and worlds on this host.

Does not own: the snippet language, and any rule of the game.
-/

namespace NovelEngine

namespace Player

/-- Mixes the bits of a seed, so that neighbouring seeds give unrelated numbers. -/
def mixed (seed : UInt64) : UInt64 :=
  let first := (seed ^^^ (seed >>> 30)) * 0xBF58476D1CE4E5B9
  let second := (first ^^^ (first >>> 27)) * 0x94D049BB133111EB
  second ^^^ (second >>> 31)

/-- Each number is drawn from a seed of its own. -/
def pseudoRandom (drawn : Nat) (low high : Int) : Int :=
  let seed := 0x9E3779B97F4A7C15 * UInt64.ofNat (drawn + 1)
  low + ((mixed seed).toNat % (high - low + 1).toNat : Nat)

theorem pseudoRandom_within (drawn : Nat) {low high : Int} (nonempty : low ≤ high) :
    low ≤ pseudoRandom drawn low high ∧ pseudoRandom drawn low high ≤ high := by
  have positive : 0 < (high - low + 1).toNat := by omega
  have bound := Nat.mod_lt (mixed (0x9E3779B97F4A7C15 * UInt64.ofNat (drawn + 1))).toNat positive
  unfold pseudoRandom
  dsimp only
  omega

def host : Host where
  engine := Snippet.engine
  dice := { result := pseudoRandom, within := pseudoRandom_within }
  arrange := (List.mergeSort · (fun event other => !decide (other.id < event.id)))
  arrange_perm := fun events => events.mergeSort_perm _

end Player

def World.ofConfig (config : Config) : World :=
  Player.host.world config

def Game.ofProject (project : Project) : Except Error (Game × List Notice) :=
  Player.host.start project

end NovelEngine
