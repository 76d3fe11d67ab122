import NovelEngine.Engine.Outcome

/-!
Contract: the instructions that use the message box.

Owns: messages, choices, input prompts and settings. While an input prompt of
another context is open, an instruction that shows something waits and runs
again later.

Does not own: the answers of the player.
-/

namespace NovelEngine.Activation

/-- Shows a line and waits for its dismissal, if the message or the settings ask for it. -/
def showMessage (activation : Activation) (world : World) (text : Operand)
    (character : Option String) (wait : Option Bool) : Outcome :=
  if activation.isLockedOut world then .ofActivation world activation.waitForBox
  else
    let line := Content.line character (text.text world.store activation.context)
    let shown := { world with box := world.box.present line }
    if activation.isInstantSkip world then
      .ofWorld activation (if activation.settings.autoErase then shown.eraseBox else shown)
    else if wait.getD activation.settings.waitAtEnd then
      { activation := activation.waitUntil .message, world := shown }
    else .ofWorld activation shown

/-- Offers choices and waits for one. -/
def showChoices (activation : Activation) (world : World) (choices : List ChoiceEntry)
    (target : Option VariableRef) : Outcome :=
  if activation.isLockedOut world then .ofActivation world activation.waitForBox
  else
    let texts := choices.map (fun choice => choice.text.text world.store activation.context)
    { activation := activation.waitUntil (.choice (choices.map ChoiceEntry.label) target)
      world := { world with box := world.box.present (.choices texts) } }

/-- Locks the box, shows a prompt and waits for the answer, which goes to `target`. -/
def openPrompt (activation : Activation) (world : World) (target : VariableRef)
    (content : Content) : Outcome :=
  match world.box.lock? activation.context activation.callers with
  | none => .ofActivation world activation.waitForBox
  | some box =>
      { activation := activation.waitUntil (.input target)
        world := { world with box := box.present content } }

/-- Asks for a number. The answer is stored as a number whatever the kind of `target`. -/
def inputNumber (activation : Activation) (world : World) (target : VariableRef)
    (digits : Nat) : Outcome :=
  activation.openPrompt world { target with kind := .number } (.numberInput digits)

/-- Asks for a text. The answer is stored as a text whatever the kind of `target`. -/
def inputText (activation : Activation) (world : World) (target : VariableRef)
    (letters : Nat) : Outcome :=
  activation.openPrompt world { target with kind := .text } (.textInput letters)

/-- Changes the settings that are given. -/
def changeSettings (activation : Activation) (autoErase waitAtEnd : Option Bool) : Activation :=
  { activation with settings := {
      autoErase := autoErase.getD activation.settings.autoErase
      waitAtEnd := waitAtEnd.getD activation.settings.waitAtEnd } }

/-- Gives up a prompt of its own and clears the box. -/
def eraseMessage (activation : Activation) (world : World) : Outcome :=
  .ofWorld activation (world.releaseBox activation.context).eraseBox

end NovelEngine.Activation
