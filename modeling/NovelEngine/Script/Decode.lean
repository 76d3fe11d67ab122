import NovelEngine.Script.Instruction
import NovelEngine.Script.Opcode

/-!
Contract: from opcodes and parameters to instructions.

Owns: the parameter shape of every command, with its defaults.

Does not own: what the instructions do.
-/

namespace NovelEngine.Instruction

open Document

private def slotOperand? (field : Field) : Option Operand :=
  field.defaulted? default Operand.decode?

private def namedBy? {α : Type} (ofName? : String → Option α) (document : Document) : Option α :=
  document.name? >>= ofName?

/-! ## Control flow -/

def labelName? (params : Document) : Option String :=
  match params.fields? ["name"] with
  | some [name] => name.required? text?
  | _ => none

def wait? (params : Document) : Option Instruction :=
  match params.fields? ["time"] with
  | some [time] => do return .wait (← time.required? Operand.decode?)
  | _ => none

def callEvent? (params : Document) : Option Instruction :=
  match params.fields? ["commonEventId", "parameters", "wait"] with
  | some [id, parameters, waits] => do
      return .callEvent (← id.required? text?)
        (← parameters.defaulted? [] (list? Value.decode?))
        (← waits.defaulted? true boolean?)
  | _ => none

private def sceneUid? (params : Document) : Option String :=
  match params.fields? ["uid"] with
  | some [uid] => uid.required? text?
  | _ => none

/-! ## Variables -/

private def numberOperation? : String → Option NumberOperation
  | "set" => some .set
  | "add" => some .add
  | "sub" => some .subtract
  | "mul" => some .multiply
  | "div" => some .divide
  | "mod" => some .modulo
  | _ => none

private def randomSource? (document : Document) : Option NumberSource :=
  match document.recordFields? ["random"] with
  | some [.given bounds] =>
      match bounds.fields? ["min", "max"] with
      | some [first, second] => do
          return .random (← first.required? Operand.decode?) (← second.required? Operand.decode?)
      | _ => none
  | _ => none

private def numberSource? (document : Document) : Option NumberSource :=
  randomSource? document <|> (Operand.decode? document).map .operand

def changeNumbers? (params : Document) : Option Instruction :=
  match params.fields? ["target", "range", "operation", "source"] with
  | some [target, range, operation, source] => do
      return .changeNumbers {
        target := ← target.required? VariableRef.decode?
        range := ← range.defaulted? 1 size?
        operation := ← operation.defaulted? .set (namedBy? numberOperation?)
        source := ← source.required? numberSource? }
  | _ => none

private def textOperation? : String → Option TextOperation
  | "set" => some .set
  | "add" => some .append
  | "upper" => some .upper
  | "lower" => some .lower
  | _ => none

private def snippetSource? (document : Document) : Option TextSource :=
  match document.recordFields? ["script"] with
  | some [.given (.text source)] => some (.snippet source)
  | _ => none

private def textSource? (document : Document) : Option TextSource :=
  snippetSource? document <|> (Operand.decode? document).map .operand

def changeTexts? (params : Document) : Option Instruction :=
  match params.fields? ["target", "range", "operation", "source"] with
  | some [target, range, operation, source] => do
      return .changeTexts {
        target := ← target.required? VariableRef.decode?
        range := ← range.defaulted? 1 size?
        operation := ← operation.defaulted? .set (namedBy? textOperation?)
        source := ← source.lenient? textSource? }
  | _ => none

def changeBooleans? (params : Document) : Option Instruction :=
  match params.fields? ["target", "range", "toggle", "value"] with
  | some [target, range, toggle, value] => do
      return .changeBooleans {
        target := ← target.required? VariableRef.decode?
        range := ← range.defaulted? 1 size?
        toggle := ← toggle.defaulted? false boolean?
        value := ← slotOperand? value }
  | _ => none

private def listOperation? : String → Option ListOperation
  | "push" => some .push
  | "pop" => some .pop
  | "clear" => some .clear
  | "set" => some .set
  | "removeAt" => some .removeAt
  | _ => none

def changeLists? (params : Document) : Option Instruction :=
  match params.fields? ["target", "operation", "value", "index"] with
  | some [target, operation, value, index] => do
      return .changeLists {
        target := ← target.required? VariableRef.decode?
        operation := ← operation.required? (namedBy? listOperation?)
        value := ← slotOperand? value
        index := ← slotOperand? index }
  | _ => none

/-! ## Message box -/

def showMessage? (params : Document) : Option Instruction :=
  match params.fields? ["text", "character", "waitForCompletion"] with
  | some [line, character, waits] => do
      return .showMessage (← line.required? Operand.decode?)
        (← character.lenient? text?) (← waits.lenient? boolean?)
  | _ => none

private def choiceEntry? (document : Document) : Option ChoiceEntry :=
  match document.fields? ["text", "label"] with
  | some [line, destination] => do
      return {
        text := ← line.required? Operand.decode?
        label := ← destination.lenient? text? }
  | _ => none

def showChoices? (params : Document) : Option Instruction :=
  match params.fields? ["choices", "variable"] with
  | some [choices, target] => do
      return .showChoices (← choices.required? (list? choiceEntry?))
        (← target.lenient? VariableRef.decode?)
  | _ => none

/-- A prompt for up to eight characters unless `lengthName` says otherwise. -/
def prompt? (lengthName : String) (params : Document) : Option (VariableRef × Nat) :=
  match params.fields? ["variable", lengthName] with
  | some [target, length] => do
      return (← target.required? VariableRef.decode?, ← length.defaulted? 8 word?)
  | _ => none

def messageSettings? (params : Document) : Option Instruction :=
  match params.fields? ["autoErase", "waitAtEnd"] with
  | some [autoErase, waitAtEnd] => do
      return .messageSettings (← autoErase.optional? boolean?) (← waitAtEnd.optional? boolean?)
  | _ => none

/-! ## Sound -/

def playMusic? (params : Document) : Option Instruction :=
  match params.fields? ["channel", "name", "volume", "fadeInDuration"] with
  | some [channel, name, volume, fadeIn] => do
      return .playMusic (← channel.defaulted? 0 size?) (← name.required? Operand.decode?)
        (← volume.defaulted? 100 word?) (← fadeIn.defaulted? 0 word?)
  | _ => none

def stopMusic? (params : Document) : Option Instruction :=
  match params.fields? ["channel", "fadeOutDuration", "waitForCompletion"] with
  | some [channel, fadeOut, waits] => do
      return .stopMusic (← channel.defaulted? 0 size?) (← fadeOut.defaulted? 0 word?)
        (← waits.defaulted? false boolean?)
  | _ => none

def playSound? (params : Document) : Option Instruction :=
  match params.fields? ["name"] with
  | some [name] => do return .playSound (← name.required? Operand.decode?)
  | _ => none

def snippet? (params : Document) : Option Instruction :=
  match params.fields? ["script"] with
  | some [source] => do return .snippet (← source.required? text?)
  | _ => none

/-! ## Objects -/

/-- The slot and timing that all object commands share. They are written as records only. -/
def target? (params : Document) : Option (Operand × Timing) :=
  match params.recordFields? ["number", "duration", "easing", "waitForCompletion"] with
  | some [number, duration, easing, waits] => do
      return (← slotOperand? number, {
        duration := ← duration.defaulted? 0 word?
        easing := ← easing.defaulted? .linear
          (fun value => value.relaxedName? >>= Easing.ofName?)
        waitForCompletion := ← waits.defaulted? false boolean? })
  | _ => none

private def tone? : Document → Option Tone
  | .list [red, green, blue, grey] => do
      return {
        red := ← signedWord? red
        green := ← signedWord? green
        blue := ← signedWord? blue
        grey := ← signedWord? grey }
  | _ => none

/-- The strength and pace of a shake. -/
private def shake? (params : Document) : Option (Float × Float) :=
  match params.recordFields? ["range", "speed"] with
  | some [range, speed] => do
      return (← range.defaulted? 6.0 float?, ← speed.defaulted? 5.0 float?)
  | _ => none

def action? (params : Document) : ObjectVerb → Option ObjectAction
  | .appear =>
      match params.recordFields? ["graphic", "x", "y"] with
      | some [graphic, x, y] => do
          return .appear (← graphic.optional? text?) (← x.optional? Operand.decode?)
            (← y.optional? Operand.decode?)
      | _ => none
  | .erase => some .erase
  | .move =>
      match params.recordFields? ["x", "y"] with
      | some [x, y] => do
          return .move (← x.required? Operand.decode?) (← y.required? Operand.decode?)
      | _ => none
  | .zoom =>
      match params.recordFields? ["zoomX", "zoomY"] with
      | some [x, y] => do
          return .zoom (← x.defaulted? 100.0 float?) (← y.defaulted? 100.0 float?)
      | _ => none
  | .tint =>
      match params.recordFields? ["tone"] with
      | some [tone] => do return .tint (← tone.required? tone?)
      | _ => none
  | .blend =>
      match params.recordFields? ["opacity", "blendMode"] with
      | some [opacity, mode] => do
          return .blend (← opacity.required? Operand.decode?)
            (← mode.defaulted? .normal (namedBy? BlendMode.ofName?))
      | _ => none
  | .shake => do
      let (range, speed) ← shake? params
      return .shake range speed
  | .mask =>
      match params.recordFields? ["mask"] with
      | some [mask] => do return .mask (← mask.optional? text?)
      | _ => none
  | .effect =>
      match params.recordFields? ["effect"] with
      | some [effect] => do return .effect (← effect.required? text?)
      | _ => none

def object? (kind : ObjectKind) (verb : ObjectVerb) (params : Document) :
    Option Instruction := do
  let (slot, timing) ← target? params
  let action ← action? params verb
  return .object kind slot timing action

def shakeScreen? (params : Document) : Option Instruction := do
  let (_, timing) ← target? params
  let (range, speed) ← shake? params
  return .shakeScreen range speed timing

/-! ## All commands -/

/-- The instruction of an opcode, `none` if its parameters cannot be read. -/
def decode? (opcode : Opcode) (params : Document) : Option Instruction :=
  match opcode with
  | .loop => some .loop
  | .breakLoop => some .breakLoop
  | .condition => (Condition.decode? params).map .condition
  | .conditionElse => some .conditionElse
  | .conditionElseIf => some (.conditionElseIf (Condition.decode? params))
  | .label => some .label
  | .jumpToLabel => some (.jumpToLabel (labelName? params))
  | .wait => wait? params
  | .callEvent => callEvent? params
  | .callScene => (sceneUid? params).map .callScene
  | .changeScene => (sceneUid? params).map .changeScene
  | .exitEvent => some .exitEvent
  | .changeNumbers => changeNumbers? params
  | .changeTexts => changeTexts? params
  | .changeBooleans => changeBooleans? params
  | .changeLists => changeLists? params
  | .showMessage => showMessage? params
  | .showChoices => showChoices? params
  | .inputNumber =>
      (prompt? "digits" params).map (fun (target, digits) => .inputNumber target digits)
  | .inputText =>
      (prompt? "letters" params).map (fun (target, letters) => .inputText target letters)
  | .messageSettings => messageSettings? params
  | .eraseMessage => some .eraseMessage
  | .playMusic => playMusic? params
  | .stopMusic => stopMusic? params
  | .playSound => playSound? params
  | .snippet => snippet? params
  | .object kind verb => object? kind verb params
  | .shakeScreen => shakeScreen? params

/-- The instruction of an opcode. Missing parameters count as an empty record. -/
def ofParams (opcode : Opcode) (params : Document) : Instruction :=
  let params := if params.isNull then .record [] else params
  (decode? opcode params).getD .malformed

end NovelEngine.Instruction
