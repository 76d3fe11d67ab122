import NovelEngine.Engine.Changes

/-!
Contract: the instructions that animate objects and play sound.

Owns: the nine object commands, the shaking screen, and music and sounds. Commands
on an empty slot do nothing, except the one that shows an object.

Does not own: the end state of an animation.
-/

namespace NovelEngine

namespace ObjectAction

/-- The animation of an action, with its operands read. -/
def animation (action : ObjectAction) (store : Store) (context : Context) : Animation :=
  match action with
  | .appear .. => .appear
  | .erase => .disappear
  | .move x y => .move (x.number store context) (y.number store context)
  | .zoom x y => .zoom x y
  | .tint tone => .tint tone
  | .blend opacity mode => .blend (opacity.number store context) mode
  | .shake range speed => .shake range speed
  | .mask name => .mask name
  | .effect name => .effect name

end ObjectAction

namespace Activation

/-- Creates the object if needed, sets what is given and lets it appear. -/
def showObject (activation : Activation) (world : World) (kind : ObjectKind) (slot : Nat)
    (timing : Timing) (graphic : Option String) (x y : Option Operand) : Outcome :=
  let object := (world.stage.object? kind slot).getD {}
  let number (operand : Operand) : Float := operand.number world.store activation.context
  let placed := { object with
    graphic := graphic <|> object.graphic
    x := (x.map number).getD object.x
    y := (y.map number).getD object.y }
  let world := { world with
    stage := world.stage.place kind slot (placed.animate timing.easing .appear) }
  { activation := activation.waitForCompletion world timing.duration timing.waitForCompletion
    world }

/-- Animates an existing object. -/
def animateObject (activation : Activation) (world : World) (kind : ObjectKind) (slot : Nat)
    (timing : Timing) (animation : Animation) : Outcome :=
  match world.stage.object? kind slot with
  | none => { activation, world, notices := [.emptySlot activation.context kind slot] }
  | some object =>
      let world := { world with
        stage := world.stage.place kind slot (object.animate timing.easing animation) }
      { activation := activation.waitForCompletion world timing.duration timing.waitForCompletion
        world }

/-- Lets an object disappear, and removes it if that takes no time. -/
def eraseObject (activation : Activation) (world : World) (kind : ObjectKind) (slot : Nat)
    (timing : Timing) : Outcome :=
  let outcome := activation.animateObject world kind slot timing .disappear
  if timing.duration = 0 then
    { outcome with world := { outcome.world with stage := outcome.world.stage.remove kind slot } }
  else outcome

/-- Runs an object command on the slot its operand names. -/
def actOnObject (activation : Activation) (world : World) (kind : ObjectKind) (slot : Operand)
    (timing : Timing) (action : ObjectAction) : Outcome :=
  let slot := Decimal.toSize (slot.number world.store activation.context)
  match action with
  | .appear graphic x y => activation.showObject world kind slot timing graphic x y
  | .erase => activation.eraseObject world kind slot timing
  | action =>
      activation.animateObject world kind slot timing
        (action.animation world.store activation.context)

def shakeScreen (activation : Activation) (world : World) (range speed : Float)
    (timing : Timing) : Outcome :=
  let screen := world.stage.screen.animate timing.easing (.shake range speed)
  let world := { world with stage := { world.stage with screen } }
  { activation := activation.waitForCompletion world timing.duration timing.waitForCompletion
    world }

/-! ## Sound -/

/-- The loudest volume a script can ask for. -/
def fullVolume : Nat :=
  100

def playMusic (activation : Activation) (world : World) (channel : Nat) (name : Operand)
    (volume fadeIn : Nat) : Outcome :=
  let track : Track := {
    name := name.text world.store activation.context
    volume := min volume fullVolume
    fadeIn }
  .ofWorld activation { world with mixer := world.mixer.playMusic channel track }

/-- Silences a channel and waits for the fade, if asked to and something was playing. -/
def stopMusic (activation : Activation) (world : World) (channel fadeOut : Nat)
    (waitForCompletion : Bool) : Outcome :=
  let (mixer, duration) := world.mixer.stopMusic channel fadeOut
  let world := { world with mixer }
  { activation := activation.waitForCompletion world duration waitForCompletion, world }

def playSound (activation : Activation) (world : World) (name : Operand) : Outcome :=
  .ofWorld activation
    { world with mixer := world.mixer.playSound (name.text world.store activation.context) }

end Activation

end NovelEngine
