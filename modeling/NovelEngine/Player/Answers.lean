import NovelEngine.Game

/-!
Contract: a player without a screen.

Owns: the answers of an impatient player, who dismisses every message, takes the
first choice and submits zero, and the lines this player sees.

Does not own: files, timing and output.
-/

namespace NovelEngine.Player

/-- The lines printed while answering a wait, and the event that answers it. -/
def answerTo? (box : MessageBox) : WaitReason → Option (List String × HostEvent)
  | .message =>
      match box.content with
      | some (.line character text) => some ([spokenLine character text], .messageDismissed)
      | _ => some ([], .messageDismissed)
  | .choice _ _ =>
      match box.content with
      | some (.choices texts) => some (["> " ++ texts.headD ""], .choiceSelected 0)
      | _ => some ([], .choiceSelected 0)
  | .input _ => some ([], .inputSubmitted .zero)
  | .transition => some ([], .transitionFinished)
  | .callee => none

/-- Answers whatever the game waits for. -/
def answer (game : Game) : Game × List String :=
  match game.pendingWait >>= answerTo? game.world.box with
  | some (lines, event) =>
      match game.notify? event with
      | some (game, _) => (game, lines)
      | none => (game, lines)
  | none => (game, [])

/-- One frame of play: the game moves, its sounds are dropped, its wait is answered.
A game that was aborted shows nothing more. -/
def playFrame (fuel : Nat) (game : Game) : Option (Game × List String) :=
  match game.tick fuel with
  | none => none
  | some tick =>
      if tick.game.world.aborted then some (tick.game, [])
      else
        let mixer := tick.game.world.mixer.takeSounds.2
        some (answer { tick.game with world := { tick.game.world with mixer } })

/-- Plays up to `frames` frames and collects the printed lines, latest first. -/
def play (fuel : Nat) : (frames : Nat) → Game → List String → Option (Game × List String)
  | 0, game, lines => if game.isFinished then some (game, lines) else none
  | frames + 1, game, lines =>
      if game.isFinished || game.world.aborted then some (game, lines)
      else
        match playFrame fuel game with
        | none => none
        | some (game, printed) => play fuel frames game (printed.reverse ++ lines)

end NovelEngine.Player
