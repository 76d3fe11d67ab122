import NovelEngine.Stage

/-!
Contract: the commands the engine knows, by name.

Owns: the table from command ids to opcodes. Every object kind has the same nine
commands, named after it.

Does not own: the parameters and the effect of a command.
-/

namespace NovelEngine

/-- The nine commands that every kind of object has. -/
inductive ObjectVerb where
  | appear
  | erase
  | move
  | zoom
  | tint
  | blend
  | shake
  | mask
  | effect
deriving DecidableEq, Repr

inductive Opcode where
  | loop
  | breakLoop
  | condition
  | conditionElse
  | conditionElseIf
  | label
  | jumpToLabel
  | wait
  | callEvent
  | callScene
  | changeScene
  | exitEvent
  | changeNumbers
  | changeTexts
  | changeBooleans
  | changeLists
  | showMessage
  | showChoices
  | inputNumber
  | inputText
  | messageSettings
  | eraseMessage
  | playMusic
  | stopMusic
  | playSound
  | snippet
  | object (kind : ObjectKind) (verb : ObjectVerb)
  | shakeScreen
deriving DecidableEq, Repr

namespace Opcode

/-- The commands that do not belong to an object kind. -/
def plainTable : List (String × Opcode) :=
  [("Loop", .loop),
   ("BreakLoop", .breakLoop),
   ("Condition", .condition),
   ("ConditionElse", .conditionElse),
   ("ConditionElseIf", .conditionElseIf),
   ("Label", .label),
   ("JumpToLabel", .jumpToLabel),
   ("WaitCommand", .wait),
   ("CallCommonEvent", .callEvent),
   ("CallScene", .callScene),
   ("ChangeScene", .changeScene),
   ("ExitEvent", .exitEvent),
   ("ChangeNumberVariables", .changeNumbers),
   ("ChangeStringVariables", .changeTexts),
   ("ChangeBooleanVariables", .changeBooleans),
   ("ChangeListVariables", .changeLists),
   ("ShowMessage", .showMessage),
   ("ShowChoices", .showChoices),
   ("Choice", .showChoices),
   ("InputNumber", .inputNumber),
   ("InputText", .inputText),
   ("MessageSettings", .messageSettings),
   ("EraseMessage", .eraseMessage),
   ("PlayMusic", .playMusic),
   ("StopMusic", .stopMusic),
   ("PlaySound", .playSound),
   ("Script", .snippet),
   ("ShakeScreen", .shakeScreen)]

/-- The commands of one object kind. -/
def objectTable (kind : ObjectKind) : List (String × Opcode) :=
  [("Show" ++ kind.title, .object kind .appear),
   ("Erase" ++ kind.title, .object kind .erase),
   ("Move" ++ kind.title, .object kind .move),
   ("Zoom" ++ kind.title, .object kind .zoom),
   ("Tint" ++ kind.title, .object kind .tint),
   ("Blend" ++ kind.title, .object kind .blend),
   ("Shake" ++ kind.title, .object kind .shake),
   ("Mask" ++ kind.title, .object kind .mask),
   (kind.title ++ "Effect", .object kind .effect)]

/-- All commands. -/
def table : List (String × Opcode) :=
  plainTable ++ ObjectKind.all.flatMap objectTable

/-- The opcode of a command id. -/
def ofId? (id : String) : Option Opcode :=
  table.lookup id

end Opcode

end NovelEngine
