import NovelEngine.Operand
import NovelEngine.Stage

/-!
Contract: commands with their parameters taken apart.

Owns: the instruction type and the parameter records of the larger commands.

Does not own: reading parameters and running instructions.
-/

namespace NovelEngine

/-- How long an animation takes and whether the script waits for its end. -/
structure Timing where
  duration : Nat := 0
  easing : Easing := .linear
  waitForCompletion : Bool := false
deriving DecidableEq, Repr

inductive NumberOperation where
  | set
  | add
  | subtract
  | multiply
  | divide
  | modulo
deriving DecidableEq, Repr

/-- Where a number comes from: a random whole number between two bounds, or an operand. -/
inductive NumberSource where
  | random (first second : Operand)
  | operand (operand : Operand)
deriving Repr

structure NumberChange where
  target : VariableRef
  range : Nat
  operation : NumberOperation
  source : NumberSource
deriving Repr

inductive TextOperation where
  | set
  | append
  | upper
  | lower
deriving DecidableEq, Repr

/-- Where a text comes from: the result of a snippet, or an operand. -/
inductive TextSource where
  | snippet (source : String)
  | operand (operand : Operand)
deriving Repr

structure TextChange where
  target : VariableRef
  range : Nat
  operation : TextOperation
  source : Option TextSource
deriving Repr

structure BooleanChange where
  target : VariableRef
  range : Nat
  toggle : Bool
  value : Operand
deriving Repr

inductive ListOperation where
  | push
  | pop
  | clear
  | set
  | removeAt
deriving DecidableEq, Repr

structure ListChange where
  target : VariableRef
  operation : ListOperation
  value : Operand
  index : Operand
deriving Repr

/-- One offered choice and the label it jumps to. -/
structure ChoiceEntry where
  text : Operand
  label : Option String
deriving Repr

/-- What an object command does to the object in its slot. -/
inductive ObjectAction where
  /-- Creates the object if its slot is empty. -/
  | appear (graphic : Option String) (x y : Option Operand)
  | erase
  | move (x y : Operand)
  | zoom (x y : Float)
  | tint (tone : Tone)
  | blend (opacity : Operand) (mode : BlendMode)
  | shake (range speed : Float)
  | mask (name : Option String)
  | effect (name : String)
deriving Repr

inductive Instruction where
  | loop
  | breakLoop
  | condition (test : Condition)
  | conditionElse
  /-- The test is needed only when no earlier branch was taken; `none` if it cannot be read. -/
  | conditionElseIf (test : Option Condition)
  | label
  /-- The name is needed only when the target was not found in advance. -/
  | jumpToLabel (name : Option String)
  | wait (time : Operand)
  | callEvent (id : String) (parameters : List Value) (wait : Bool)
  | callScene (uid : String)
  | changeScene (uid : String)
  | exitEvent
  | changeNumbers (change : NumberChange)
  | changeTexts (change : TextChange)
  | changeBooleans (change : BooleanChange)
  | changeLists (change : ListChange)
  | showMessage (text : Operand) (character : Option String) (wait : Option Bool)
  | showChoices (choices : List ChoiceEntry) (target : Option VariableRef)
  | inputNumber (target : VariableRef) (digits : Nat)
  | inputText (target : VariableRef) (letters : Nat)
  | messageSettings (autoErase waitAtEnd : Option Bool)
  | eraseMessage
  | playMusic (channel : Nat) (name : Operand) (volume fadeIn : Nat)
  | stopMusic (channel fadeOut : Nat) (waitForCompletion : Bool)
  | playSound (name : Operand)
  | snippet (source : String)
  | object (kind : ObjectKind) (slot : Operand) (timing : Timing) (action : ObjectAction)
  | shakeScreen (range speed : Float) (timing : Timing)
  /-- The parameters cannot be read; running the command fails. -/
  | malformed
deriving Repr

end NovelEngine
