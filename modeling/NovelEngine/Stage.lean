import NovelEngine.Registry

/-!
Contract: the objects on screen.

Owns:
- the six kinds of objects, each addressed by a sparse slot number;
- animations: each applies its end state at once and reports its duration.

Does not own: how an animation looks and whether a script waits for it.
-/

namespace NovelEngine

inductive Easing where
  | linear
  | easeIn
  | easeOut
  | easeInOut
deriving DecidableEq, Repr, Inhabited

namespace Easing

def name : Easing → String
  | .linear => "linear"
  | .easeIn => "easeIn"
  | .easeOut => "easeOut"
  | .easeInOut => "easeInOut"

def ofName? : String → Option Easing
  | "linear" => some .linear
  | "easeIn" => some .easeIn
  | "easeOut" => some .easeOut
  | "easeInOut" => some .easeInOut
  | _ => none

end Easing

inductive BlendMode where
  | normal
  | add
  | subtract
deriving DecidableEq, Repr, Inhabited

namespace BlendMode

def name : BlendMode → String
  | .normal => "normal"
  | .add => "add"
  | .subtract => "subtract"

def ofName? : String → Option BlendMode
  | "normal" => some .normal
  | "add" => some .add
  | "subtract" => some .subtract
  | _ => none

end BlendMode

inductive ObjectKind where
  | picture
  | character
  | background
  | video
  | text
  | hotspot
deriving DecidableEq, Repr, Inhabited

namespace ObjectKind

def all : List ObjectKind :=
  [.picture, .character, .background, .video, .text, .hotspot]

/-- The name of the kind inside command names and notices. -/
def title : ObjectKind → String
  | .picture => "Picture"
  | .character => "Character"
  | .background => "Background"
  | .video => "Video"
  | .text => "Text"
  | .hotspot => "Hotspot"

end ObjectKind

/-- The change of four colour channels. -/
structure Tone where
  red : Int := 0
  green : Int := 0
  blue : Int := 0
  grey : Int := 0
deriving DecidableEq, Repr, Inhabited

/-- An animation of one object, described by its end state. -/
inductive Animation where
  | appear
  | disappear
  | move (x y : Float)
  | zoom (x y : Float)
  | tint (tone : Tone)
  | blend (opacity : Float) (mode : BlendMode)
  | shake (range speed : Float)
  | mask (name : Option String)
  | effect (name : String)
deriving Repr

structure StageObject where
  graphic : Option String := none
  visible : Bool := false
  x : Float := 0.0
  y : Float := 0.0
  zoomX : Float := 100.0
  zoomY : Float := 100.0
  opacity : Float := 255.0
  blendMode : BlendMode := .normal
  tone : Tone := {}
  mask : Option String := none
  easing : Easing := .linear
  /-- The animation started last. -/
  animation : Option Animation := none
deriving Repr, Inhabited

namespace StageObject

/-- Limits an opacity to 0 through 255; NaN stays. -/
def clampOpacity (opacity : Float) : Float :=
  if opacity < 0.0 then 0.0 else if opacity > 255.0 then 255.0 else opacity

/-- Applies the end state of an animation. Shakes, masks and effects have no easing. -/
def animate (object : StageObject) (easing : Easing) : Animation → StageObject
  | .appear => { object with visible := true, easing, animation := some .appear }
  | .disappear => { object with visible := false, easing, animation := some .disappear }
  | .move x y => { object with x, y, easing, animation := some (.move x y) }
  | .zoom x y => { object with zoomX := x, zoomY := y, easing, animation := some (.zoom x y) }
  | .tint tone => { object with tone, easing, animation := some (.tint tone) }
  | .blend opacity mode =>
      { object with
        opacity := clampOpacity opacity
        blendMode := mode
        easing
        animation := some (.blend (clampOpacity opacity) mode) }
  | .shake range speed =>
      { object with easing := .linear, animation := some (.shake range speed) }
  | .mask name =>
      { object with mask := name, easing := .linear, animation := some (.mask name) }
  | .effect name => { object with easing := .linear, animation := some (.effect name) }

end StageObject

/-- The objects of all kinds, and the screen as a whole. -/
structure Stage where
  objects : Registry (ObjectKind × Nat) StageObject := {}
  screen : StageObject := {}
deriving Inhabited

namespace Stage

def object? (stage : Stage) (kind : ObjectKind) (slot : Nat) : Option StageObject :=
  stage.objects.find? (kind, slot)

def place (stage : Stage) (kind : ObjectKind) (slot : Nat) (object : StageObject) : Stage :=
  { stage with objects := stage.objects.insert (kind, slot) object }

def remove (stage : Stage) (kind : ObjectKind) (slot : Nat) : Stage :=
  { stage with objects := stage.objects.erase (kind, slot) }

/-- How many objects of one kind there are. -/
def count (stage : Stage) (kind : ObjectKind) : Nat :=
  stage.objects.entries.countP (fun entry => entry.1.1 = kind)

/-! ## Laws -/

section Slots

variable (stage : Stage) (kind : ObjectKind) (slot : Nat)

@[simp] theorem object?_place_same (object : StageObject) :
    (stage.place kind slot object).object? kind slot = some object :=
  stage.objects.find?_insert_same (kind, slot) object

@[simp] theorem object?_remove_same : (stage.remove kind slot).object? kind slot = none :=
  stage.objects.find?_erase_same (kind, slot)

variable {kind slot} {other : ObjectKind}

theorem object?_place_other {place : Nat} (object : StageObject)
    (different : (other, place) ≠ (kind, slot)) :
    (stage.place kind slot object).object? other place = stage.object? other place :=
  stage.objects.find?_insert_other object different

theorem object?_remove_other {place : Nat} (different : (other, place) ≠ (kind, slot)) :
    (stage.remove kind slot).object? other place = stage.object? other place :=
  stage.objects.find?_erase_other different

theorem count_place_other (object : StageObject) (different : other ≠ kind) :
    (stage.place kind slot object).count other = stage.count other :=
  stage.objects.countP_insert (fun _ => decide_eq_false (Ne.symm different)) object

theorem count_remove_other (different : other ≠ kind) :
    (stage.remove kind slot).count other = stage.count other :=
  stage.objects.countP_erase (fun _ => decide_eq_false (Ne.symm different))

end Slots

/-- There is nothing to remove from an empty slot. -/
theorem remove_of_empty {stage : Stage} {kind : ObjectKind} {slot : Nat}
    (empty : stage.object? kind slot = none) : stage.remove kind slot = stage := by
  unfold remove
  rw [Registry.erase_of_missing empty]

end Stage

end NovelEngine
