import NovelEngine.Proofs.Stillness

/-!
Contract: the commands that animate an object touch the slot they address.

Owns:
- the names of the nine commands of each kind of object, and what they are decoded to;
- the stage outside of one slot, which every such command leaves alone;
- the object in the slot, and when and how long a run waits for its animation.

Does not own: the end state of an animation.

Showing an object is the only command that does not need one. All others look for it first,
and without one there is nothing to wait for either.
-/

namespace NovelEngine

/-! ## Names -/

/-- The id of the command for objects of one kind. -/
def ObjectVerb.commandId (verb : ObjectVerb) (kind : ObjectKind) : String :=
  match verb with
  | .appear => "Show" ++ kind.title
  | .erase => "Erase" ++ kind.title
  | .move => "Move" ++ kind.title
  | .zoom => "Zoom" ++ kind.title
  | .tint => "Tint" ++ kind.title
  | .blend => "Blend" ++ kind.title
  | .shake => "Shake" ++ kind.title
  | .mask => "Mask" ++ kind.title
  | .effect => kind.title ++ "Effect"

namespace Opcode

/-- No two commands have one id. -/
theorem nodup_table : (table.map Prod.fst).Nodup := by
  decide +kernel

theorem ofId?_of_mem {id : String} {opcode : Opcode} (listed : (id, opcode) ∈ table) :
    ofId? id = some opcode := by
  obtain ⟨before, after, split⟩ := List.append_of_mem listed
  have distinct := nodup_table
  rw [split, List.map_append, List.map_cons, List.nodup_append] at distinct
  refine List.lookup_eq_some_iff.mpr ⟨before, after, split, fun entry earlier => ?_⟩
  have apart := distinct.2.2 entry.1 (List.mem_map_of_mem earlier) id List.mem_cons_self
  simpa using Ne.symm apart

theorem ofId?_commandId (kind : ObjectKind) (verb : ObjectVerb) :
    ofId? (verb.commandId kind) = some (.object kind verb) := by
  apply ofId?_of_mem
  have known : kind ∈ ObjectKind.all := by cases kind <;> decide
  have named : (verb.commandId kind, Opcode.object kind verb) ∈ objectTable kind := by
    cases verb <;> simp [objectTable, ObjectVerb.commandId]
  exact List.mem_append_right _ (List.mem_flatMap.mpr ⟨kind, known, named⟩)

end Opcode

/-- The parameters as a command reads them: missing ones count as an empty record. -/
def Command.fields (command : Command) : Document :=
  if command.params.isNull then .record [] else command.params

theorem Script.instructionOf_object {command : Command} {kind : ObjectKind} {verb : ObjectVerb}
    (named : command.id = verb.commandId kind) {number : Operand} {timing : Timing}
    {action : ObjectAction}
    (targeted : Instruction.target? command.fields = some (number, timing))
    (acts : Instruction.action? command.fields verb = some action) :
    Script.instructionOf command = some (.object kind number timing action) := by
  have decoded : Instruction.decode? (.object kind verb) command.fields =
      some (.object kind number timing action) := by
    simp [Instruction.decode?, Instruction.object?, targeted, acts]
  have read : Instruction.ofParams (.object kind verb) command.params =
      .object kind number timing action := by
    unfold Instruction.ofParams
    exact congrArg (Option.getD · .malformed) decoded
  unfold Script.instructionOf
  rw [named, Opcode.ofId?_commandId, Option.map_some, read]

/-! ## The stage outside of a slot -/

namespace Stage

/-- The stages differ in one slot at most. -/
structure SameOutside (before after : Stage) (kind : ObjectKind) (slot : Nat) : Prop where
  screen : after.screen = before.screen
  objects : ∀ other place, (other, place) ≠ (kind, slot) →
    after.object? other place = before.object? other place
  counts : ∀ other, other ≠ kind → after.count other = before.count other

theorem SameOutside.refl (stage : Stage) {kind : ObjectKind} {slot : Nat} :
    stage.SameOutside stage kind slot :=
  ⟨rfl, fun _ _ _ => rfl, fun _ _ => rfl⟩

theorem SameOutside.trans {first second third : Stage} {kind : ObjectKind} {slot : Nat}
    (left : first.SameOutside second kind slot) (right : second.SameOutside third kind slot) :
    first.SameOutside third kind slot where
  screen := right.screen.trans left.screen
  objects := fun other place different =>
    (right.objects other place different).trans (left.objects other place different)
  counts := fun other different =>
    (right.counts other different).trans (left.counts other different)

variable (stage : Stage) (kind : ObjectKind) (slot : Nat)

theorem sameOutside_place (object : StageObject) :
    stage.SameOutside (stage.place kind slot object) kind slot where
  screen := rfl
  objects := fun _ _ different => stage.object?_place_other object different
  counts := fun _ different => stage.count_place_other object different

theorem sameOutside_remove : stage.SameOutside (stage.remove kind slot) kind slot where
  screen := rfl
  objects := fun _ _ different => stage.object?_remove_other different
  counts := fun _ different => stage.count_remove_other different

end Stage

/-! ## Waiting for an animation -/

/-- Whether a run waits for the command to be completed: it has an object to animate, is asked
to wait, takes time, and waits are not skipped. -/
structure Activation.AwaitsObject (activation : Activation) (world : World) (verb : ObjectVerb)
    (kind : ObjectKind) (slot : Nat) (timing : Timing) : Prop where
  present : verb = .appear ∨ (world.stage.object? kind slot).isSome = true
  requested : timing.waitForCompletion = true
  takesTime : timing.duration ≠ 0
  unskipped : activation.isInstantSkip world = false

theorem Activation.waitForCompletion_eq (activation : Activation) (world : World)
    (duration : Nat) (requested : Bool) :
    activation.waitForCompletion world duration requested =
      if requested = true ∧ duration ≠ 0 ∧ activation.isInstantSkip world = false then
        { activation with isWaiting := true, waitCounter := duration }
      else activation := by
  unfold waitForCompletion
  simp [and_assoc]

/-- What an object command does: it changes nothing but the slot it addresses, and of the run
nothing but its countdown. -/
structure Outcome.TouchesSlot (outcome : Outcome) (activation : Activation) (world : World)
    (verb : ObjectVerb) (kind : ObjectKind) (slot : Nat) (timing : Timing) : Prop where
  beyondStage : outcome.world = { world with stage := outcome.world.stage }
  beyondSlot : world.stage.SameOutside outcome.world.stage kind slot
  empty : verb ≠ .appear → world.stage.object? kind slot = none →
    outcome.world = world ∧ outcome.activation = activation
  shown : verb = .appear →
    ∃ object, outcome.world.stage.object? kind slot = some object ∧ object.visible = true
  erased : verb = .erase → timing.duration = 0 → outcome.world.stage.object? kind slot = none
  waits : activation.AwaitsObject world verb kind slot timing →
    outcome.activation = { activation with isWaiting := true, waitCounter := timing.duration }
  goesOn : ¬ activation.AwaitsObject world verb kind slot timing →
    outcome.activation = activation
  succeeds : outcome.failure = none
  callee : outcome.callee = none

section Outcomes

variable (activation : Activation) (world : World) {verb : ObjectVerb} {kind : ObjectKind}
  {slot : Nat} (timing : Timing)

/-- An animation that is fired leaves a stage that differs in the slot, and a run that waits if
it is to. -/
theorem Outcome.touchesSlot_of_stage {stage : Stage}
    (present : verb = .appear ∨ (world.stage.object? kind slot).isSome = true)
    (outside : world.stage.SameOutside stage kind slot)
    (shown : verb = .appear →
      ∃ object, stage.object? kind slot = some object ∧ object.visible = true)
    (erased : verb = .erase → timing.duration = 0 → stage.object? kind slot = none) :
    Outcome.TouchesSlot
      { activation := activation.waitForCompletion { world with stage } timing.duration
          timing.waitForCompletion
        world := { world with stage } }
      activation world verb kind slot timing where
  beyondStage := rfl
  beyondSlot := outside
  empty := by
    intro other empty
    have found := present.resolve_left other
    rw [empty] at found
    cases found
  shown := shown
  erased := erased
  waits := by
    intro awaits
    dsimp only
    rw [Activation.waitForCompletion_eq]
    exact if_pos ⟨awaits.requested, awaits.takesTime, awaits.unskipped⟩
  goesOn := by
    intro unasked
    dsimp only
    rw [Activation.waitForCompletion_eq]
    exact if_neg (fun all => unasked ⟨present, all.1, all.2.1, all.2.2⟩)
  succeeds := rfl
  callee := rfl

/-- Without an object, and if none is to be shown, nothing happens. -/
theorem Outcome.touchesSlot_of_empty (other : verb ≠ .appear)
    (empty : world.stage.object? kind slot = none) (notices : List Notice) :
    Outcome.TouchesSlot { activation, world, notices } activation world verb kind slot
      timing where
  beyondStage := rfl
  beyondSlot := .refl world.stage
  empty := fun _ _ => ⟨rfl, rfl⟩
  shown := fun shows => absurd shows other
  erased := fun _ _ => empty
  waits := by
    intro awaits
    have found := awaits.present.resolve_left other
    rw [empty] at found
    cases found
  goesOn := fun _ => rfl
  succeeds := rfl
  callee := rfl

end Outcomes

/-! ## The commands -/

namespace Activation

variable (activation : Activation) (world : World) (kind : ObjectKind) (slot : Nat)
  (timing : Timing)

theorem showObject_touches (graphic : Option String) (x y : Option Operand) :
    (activation.showObject world kind slot timing graphic x y).TouchesSlot activation world
      .appear kind slot timing := by
  apply Outcome.touchesSlot_of_stage activation world timing (.inl rfl)
    (world.stage.sameOutside_place kind slot _)
  · intro _
    exact ⟨_, world.stage.object?_place_same kind slot _, rfl⟩
  · exact nofun

theorem animateObject_touches {verb : ObjectVerb} (shows : verb ≠ .appear)
    (erases : verb ≠ .erase) (animation : Animation) :
    (activation.animateObject world kind slot timing animation).TouchesSlot activation world
      verb kind slot timing := by
  unfold animateObject
  cases found : world.stage.object? kind slot with
  | none => exact Outcome.touchesSlot_of_empty activation world timing shows found _
  | some object =>
      apply Outcome.touchesSlot_of_stage activation world timing
        (.inr (Option.isSome_of_eq_some found)) (world.stage.sameOutside_place kind slot _)
      · exact fun appears => absurd appears shows
      · exact fun disappears => absurd disappears erases

/-- An object that disappears at once is removed, and then the run does not wait. -/
theorem eraseObject_touches :
    (activation.eraseObject world kind slot timing).TouchesSlot activation world .erase kind
      slot timing := by
  unfold eraseObject animateObject
  cases found : world.stage.object? kind slot with
  | none =>
      dsimp only
      rw [Stage.remove_of_empty found, ite_self]
      exact Outcome.touchesSlot_of_empty activation world timing (by decide) found _
  | some object =>
      have present := Option.isSome_of_eq_some found
      have placed :=
        world.stage.sameOutside_place kind slot (object.animate timing.easing .disappear)
      dsimp only
      split
      · apply Outcome.touchesSlot_of_stage activation world timing (.inr present)
          (placed.trans (Stage.sameOutside_remove _ kind slot))
        · exact nofun
        · exact fun _ _ => Stage.object?_remove_same _ kind slot
      · rename_i lasting
        apply Outcome.touchesSlot_of_stage activation world timing (.inr present) placed
        · exact nofun
        · exact fun _ instant => absurd instant lasting

theorem actOnObject_touches (number : Operand) (action : ObjectAction) :
    (activation.actOnObject world kind number timing action).TouchesSlot activation world
      action.verb kind (Decimal.toSize (number.number world.store activation.context))
      timing := by
  cases action with
  | appear graphic x y => exact activation.showObject_touches world kind _ timing graphic x y
  | erase => exact activation.eraseObject_touches world kind _ timing
  | _ =>
      apply activation.animateObject_touches world kind _ timing
      · exact nofun
      · exact nofun

end Activation

/-! ## The length of a wait -/

/-- Wherever the run `held` is the innermost of a thread, exactly so many updates pass in which
no command is executed. Each takes one frame off, and after the last one the run is `freed`. -/
def Activation.RestsFor (held freed : Activation) (frames : Nat) : Prop :=
  ∀ (thread : Thread) (outer : List Activation) (world : World),
    thread.chain = outer ++ [held] → ∀ passed < frames, ∃ later : Thread,
      later.chain = outer ++ [freed.wait (frames - (passed + 1))] ∧
      Thread.PausesFor (passed + 1) thread world later (world.resetTemporaries freed.context)

/-- A run that was made to wait rests, once it has stepped past the command. -/
theorem Activation.restsFor_of_waits {activation held : Activation} {duration : Nat}
    (takesTime : duration ≠ 0)
    (waits : held = { activation with isWaiting := true, waitCounter := duration })
    (running : activation.isRunning = true) (roomy : 0 < activation.callRoom) :
    held.stepPast.RestsFor activation.stepPast duration := by
  intro thread outer world chain passed passes
  have counting : held = activation.wait duration := by
    rw [waits]
    simp [wait, Nat.pos_of_ne_zero takesTime]
  rw [counting, stepPast_wait] at chain
  have stepped : activation.stepPast.isRunning = true := by
    obtain ⟨_, _, moved⟩ := activation.stepPast_eq
    rw [moved]
    exact running
  rw [← activation.stepPast_sameRun.callRoom] at roomy
  exact Thread.pausesFor_of_counting chain roomy stepped world passes

/-- An object command touches one slot. Take any kind of object and any of its nine commands,
with parameters that can be read. Its instruction changes nothing but the stage, and of the
stage nothing but the slot that the parameters address. If the slot is empty, every command
except showing changes nothing; showing leaves a visible object there, and erasing at once
leaves the slot empty. Of the run only its countdown changes: it waits exactly if there is an
object, the command asks to wait, takes time and waits are not skipped, and then it rests for
exactly the frames of the animation. -/
theorem Activation.objectCommand_touches_slot (activation : Activation) (world : World)
    {kind : ObjectKind} {verb : ObjectVerb} {command : Command}
    (named : command.id = verb.commandId kind) {number : Operand} {timing : Timing}
    {action : ObjectAction}
    (targeted : Instruction.target? command.fields = some (number, timing))
    (acts : Instruction.action? command.fields verb = some action) {slot : Nat}
    (addressed : Decimal.toSize (number.number world.store activation.context) = slot) :
    ∃ instruction, Script.instructionOf command = some instruction ∧
      (activation.perform world command.id instruction).TouchesSlot activation world verb kind
        slot timing ∧
      (activation.AwaitsObject world verb kind slot timing →
        activation.isRunning = true → 0 < activation.callRoom →
        (activation.perform world command.id instruction).activation.stepPast.RestsFor
          activation.stepPast timing.duration) := by
  have touches := activation.actOnObject_touches world kind timing number action
  rw [Instruction.action?_verb acts, addressed] at touches
  refine ⟨_, Script.instructionOf_object named targeted acts, touches, ?_⟩
  intro awaits running roomy
  exact restsFor_of_waits awaits.takesTime (touches.waits awaits) running roomy

/-- A porter in front of a stage with a lantern. -/
private def porter : Activation :=
  { context := { id := "porter" }, script := {}, isRunning := true }

private def lanternStage : World :=
  { World.empty with stage := ({} : Stage).place .hotspot 2 {} }

private def moveLantern : Command where
  id := "MoveHotspot"
  params := .record [("number", .integer 2), ("x", .integer 5), ("y", .integer 6),
    ("duration", .integer 3), ("waitForCompletion", .boolean true)]

/-- The porter waits three frames for the lantern, and there is still no picture in its slot. -/
theorem moveLantern_touches_slot :
    ∃ instruction, Script.instructionOf moveLantern = some instruction ∧
      (porter.perform lanternStage moveLantern.id instruction).world.stage.object? .picture 2 =
        none ∧
      (porter.perform lanternStage moveLantern.id instruction).activation =
        { porter with isWaiting := true, waitCounter := 3 } ∧
      (porter.perform lanternStage moveLantern.id instruction).activation.stepPast.RestsFor
        porter.stepPast 3 := by
  have named : moveLantern.id = ObjectVerb.move.commandId .hotspot := rfl
  have targeted : Instruction.target? moveLantern.fields =
      some (.literal (.integer 2), { duration := 3, waitForCompletion := true }) := rfl
  have acts : Instruction.action? moveLantern.fields .move =
      some (.move (.literal (.integer 5)) (.literal (.integer 6))) := rfl
  have addressed : Decimal.toSize
      ((Operand.literal (.integer 2)).number lanternStage.store porter.context) = 2 := by
    decide +kernel
  obtain ⟨instruction, decoded, touches, rests⟩ :=
    porter.objectCommand_touches_slot lanternStage named targeted acts addressed
  have awaits : porter.AwaitsObject lanternStage .move .hotspot 2
      { duration := 3, waitForCompletion := true } :=
    ⟨.inr rfl, rfl, by decide, rfl⟩
  exact ⟨instruction, decoded, touches.beyondSlot.objects .picture 2 (by decide),
    touches.waits awaits, rests awaits rfl (by decide)⟩

end NovelEngine
