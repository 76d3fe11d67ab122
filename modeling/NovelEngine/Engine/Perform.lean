import NovelEngine.Engine.Calls
import NovelEngine.Engine.Changes
import NovelEngine.Engine.Dialogue
import NovelEngine.Engine.Flow
import NovelEngine.Engine.Staging

/-!
Contract: what every instruction does.

Owns: the one function that runs an instruction.

Does not own: the pointer, which moves after an instruction, and scripts that an
instruction calls.
-/

namespace NovelEngine

/-- Runs one instruction of the command called `id`. -/
def Activation.perform (activation : Activation) (world : World) (id : String) :
    Instruction → Outcome
  | .loop => .ofActivation world activation.enterLoop
  | .breakLoop => .ofActivation world activation.breakLoop
  | .condition test => activation.testCondition world test
  | .conditionElse => .ofActivation world activation.branchElse
  | .conditionElseIf test => activation.testElseIf world id test
  | .label => .ofActivation world activation
  | .jumpToLabel name => activation.followJump world id name
  | .wait time => activation.waitFrames world time
  | .callEvent event parameters wait => activation.callEvent world event parameters wait
  | .callScene uid => activation.callScene world uid
  | .changeScene uid => activation.changeScene world uid
  | .exitEvent => .ofActivation world activation.exitEvent
  | .changeNumbers change => activation.changeNumbers world change
  | .changeTexts change => activation.changeTexts world change
  | .changeBooleans change => activation.changeBooleans world change
  | .changeLists change => activation.changeLists world change
  | .showMessage text character wait => activation.showMessage world text character wait
  | .showChoices choices target => activation.showChoices world choices target
  | .inputNumber target digits => activation.inputNumber world target digits
  | .inputText target letters => activation.inputText world target letters
  | .messageSettings autoErase waitAtEnd =>
      .ofActivation world (activation.changeSettings autoErase waitAtEnd)
  | .eraseMessage => activation.eraseMessage world
  | .playMusic channel name volume fadeIn =>
      activation.playMusic world channel name volume fadeIn
  | .stopMusic channel fadeOut wait => activation.stopMusic world channel fadeOut wait
  | .playSound name => activation.playSound world name
  | .snippet source => activation.runSnippet world source
  | .object kind slot timing action => activation.actOnObject world kind slot timing action
  | .shakeScreen range speed timing => activation.shakeScreen world range speed timing
  | .malformed => .failed activation world (.invalidParams id)

end NovelEngine
