import NovelEngine.Proofs.Endings

/-!
Contract: commands that leave the run that executes them where it is.

Owns:
- the position of a run: pointer, indent, taken branches and open loops;
- the instructions that look at the position, and the independence of all others;
- plain commands, which neither move a run nor suspend it.

Does not own: the order in which commands run.

Plain is said of what a command does in all runs and all worlds, not of its kind. It
follows that a plain command does not look at the position either, since each kind of
command that looks at it also changes it somewhere.
-/

namespace NovelEngine

/-! ## Positions -/

/-- Where a run stands in its script. -/
structure Position where
  pointer : Nat := 0
  indent : Nat := 0
  conditions : Array Bool := #[]
  loops : Array (Option Nat) := #[]

namespace Activation

def position (activation : Activation) : Position where
  pointer := activation.pointer
  indent := activation.indent
  conditions := activation.conditions
  loops := activation.loops

/-- The same run at another position. -/
def placed (activation : Activation) (position : Position) : Activation :=
  { activation with
    pointer := position.pointer
    indent := position.indent
    conditions := position.conditions
    loops := position.loops }

end Activation

/-- The outcome of the same instruction in a run at another position. -/
def Outcome.placed (outcome : Outcome) (position : Position) : Outcome :=
  { outcome with activation := outcome.activation.placed position }

/-- Whether the instruction looks at the position of the run. The test of an else-if that
cannot be read does not matter. -/
def Instruction.isFlow : Instruction → Bool
  | .loop => true
  | .breakLoop => true
  | .condition .. => true
  | .conditionElse => true
  | .conditionElseIf test => test.isSome
  | .jumpToLabel .. => true
  | .exitEvent => true
  | _ => false

/-! ## Instructions at another position -/

namespace Activation

variable (activation : Activation) (position : Position) {world : World}

theorem isInstantSkip_placed (off : world.config.preview = false) :
    (activation.placed position).isInstantSkip world = activation.isInstantSkip world := by
  simp [isInstantSkip, off]

theorem waitForCompletion_placed (off : world.config.preview = false) (duration : Nat)
    (requested : Bool) :
    (activation.placed position).waitForCompletion world duration requested =
      (activation.waitForCompletion world duration requested).placed position := by
  unfold waitForCompletion
  rw [isInstantSkip_placed _ _ off]
  split <;> rfl

private theorem animateObject_placed (off : world.config.preview = false) (kind : ObjectKind)
    (slot : Nat) (timing : Timing) (animation : Animation) :
    (activation.placed position).animateObject world kind slot timing animation =
      (activation.animateObject world kind slot timing animation).placed position := by
  unfold animateObject
  split
  · rfl
  · dsimp only
    rw [waitForCompletion_placed _ _ (by exact off)]
    rfl

private theorem actOnObject_placed (off : world.config.preview = false) (kind : ObjectKind)
    (slot : Operand) (timing : Timing) (action : ObjectAction) :
    (activation.placed position).actOnObject world kind slot timing action =
      (activation.actOnObject world kind slot timing action).placed position := by
  have context : (activation.placed position).context = activation.context := rfl
  unfold actOnObject
  rw [context]
  dsimp only
  split
  · unfold showObject
    rw [context]
    dsimp only
    rw [waitForCompletion_placed _ _ (by exact off)]
    rfl
  · unfold eraseObject
    rw [animateObject_placed _ _ off]
    dsimp only
    split <;> rfl
  · exact animateObject_placed _ _ off _ _ _ _

private theorem showMessage_placed (off : world.config.preview = false) (text : Operand)
    (character : Option String) (wait : Option Bool) :
    (activation.placed position).showMessage world text character wait =
      (activation.showMessage world text character wait).placed position := by
  have locked : (activation.placed position).isLockedOut world =
      activation.isLockedOut world := rfl
  have settings : (activation.placed position).settings = activation.settings := rfl
  unfold showMessage
  rw [locked, isInstantSkip_placed _ _ off, settings]
  split
  · rfl
  · dsimp only
    split
    · rfl
    · split <;> rfl

private theorem callEvent_placed (id : String) (parameters : List Value) (wait : Bool) :
    (activation.placed position).callEvent world id parameters wait =
      (activation.callEvent world id parameters wait).placed position := by
  have room : (activation.placed position).mayCall = activation.mayCall := rfl
  unfold callEvent
  rw [room]
  split
  · rfl
  · split
    · rfl
    · cases wait <;> rfl

private theorem callScene_placed (uid : String) :
    (activation.placed position).callScene world uid =
      (activation.callScene world uid).placed position := by
  have room : (activation.placed position).mayCall = activation.mayCall := rfl
  unfold callScene
  rw [room]
  split
  · rfl
  · split <;> rfl

private theorem openPrompt_placed (target : VariableRef) (content : Content) :
    (activation.placed position).openPrompt world target content =
      (activation.openPrompt world target content).placed position := by
  have lock : world.box.lock? (activation.placed position).context
      (activation.placed position).callers =
        world.box.lock? activation.context activation.callers := rfl
  unfold openPrompt
  rw [lock]
  split <;> rfl

private theorem changeTexts_placed (change : TextChange) :
    (activation.placed position).changeTexts world change =
      (activation.changeTexts world change).placed position := by
  have same : (activation.placed position).yieldText world change.source =
      activation.yieldText world change.source := rfl
  unfold changeTexts
  rw [same]
  split <;> rfl

/-- What an instruction does that does not look at the position is the same everywhere. -/
theorem perform_placed (off : world.config.preview = false) (id : String)
    {instruction : Instruction} (still : instruction.isFlow = false) :
    ((activation.placed position).perform world id instruction).activation =
        (activation.perform world id instruction).activation.placed position ∧
      ((activation.placed position).perform world id instruction).world =
        (activation.perform world id instruction).world := by
  have whole {left right : Outcome} (same : left = right.placed position) :
      left.activation = right.activation.placed position ∧ left.world = right.world := by
    rw [same]
    exact ⟨rfl, rfl⟩
  cases instruction with
  | conditionElseIf test =>
      cases test with
      | some test => cases still
      | none =>
          simp only [perform, testElseIf]
          constructor <;> split <;> split <;> rfl
  | wait time =>
      apply whole
      simp only [perform, waitFrames, isInstantSkip_placed _ _ off]
      split <;> rfl
  | callEvent event parameters wait => exact whole (callEvent_placed _ _ event parameters wait)
  | callScene uid => exact whole (callScene_placed _ _ uid)
  | changeTexts change => exact whole (changeTexts_placed _ _ change)
  | changeLists change =>
      have context : (activation.placed position).context = activation.context := rfl
      apply whole
      simp only [perform, changeLists, context]
      split <;> rfl
  | showMessage text character wait =>
      exact whole (showMessage_placed _ _ off text character wait)
  | showChoices choices target =>
      have locked : (activation.placed position).isLockedOut world =
          activation.isLockedOut world := rfl
      apply whole
      simp only [perform, showChoices, locked]
      split <;> rfl
  | inputNumber target digits => exact whole (openPrompt_placed _ _ _ _)
  | inputText target letters => exact whole (openPrompt_placed _ _ _ _)
  | stopMusic channel fadeOut wait =>
      apply whole
      simp only [perform, stopMusic]
      rw [waitForCompletion_placed _ _ (by exact off)]
      rfl
  | snippet source =>
      have context : (activation.placed position).context = activation.context := rfl
      apply whole
      simp only [perform, runSnippet, context]
      split <;> rfl
  | object kind slot timing action =>
      exact whole (actOnObject_placed _ _ off kind slot timing action)
  | shakeScreen range speed timing =>
      apply whole
      simp only [perform, shakeScreen]
      rw [waitForCompletion_placed _ _ (by exact off)]
      rfl
  | loop => cases still
  | breakLoop => cases still
  | condition test => cases still
  | conditionElse => cases still
  | jumpToLabel name => cases still
  | exitEvent => cases still
  | _ => exact ⟨rfl, rfl⟩

end Activation

/-! ## Plain commands -/

/-- A run is where it was and waits for nothing. -/
structure Activation.StandsStill (before after : Activation) : Prop where
  position : after.position = before.position
  awake : after.IsAwake

/-- A command that neither moves nor suspends any run that can execute it, in any world. A
command that nothing handles is plain. -/
def Command.IsPlain (command : Command) : Prop :=
  ∀ instruction, Script.instructionOf command = some instruction →
    ∀ (activation : Activation) (world : World), activation.IsAwake →
      activation.StandsStill (activation.perform world command.id instruction).activation

/-- A run that has just been created and not been started. -/
private def idle (script : Script) (pointer : Nat) : Activation :=
  { context := { id := "" }, script, pointer }

private theorem branch_conditions (holds : Bool) :
    ((idle {} 0).branch holds).position ≠ (idle {} 0).position := by
  intro same
  have sizes := congrArg (fun position => position.conditions.size) same
  cases holds <;> cases sizes

/-- Every instruction that looks at the position changes it in some run. -/
theorem Command.IsPlain.still {command : Command} (plain : command.IsPlain)
    {instruction : Instruction} (decoded : Script.instructionOf command = some instruction) :
    instruction.isFlow = false := by
  have stays (script : Script) (pointer : Nat) :
      ((idle script pointer).perform .empty command.id instruction).activation.position =
        (idle script pointer).position :=
    (plain instruction decoded _ .empty ⟨rfl, rfl, rfl, rfl⟩).position
  cases instruction with
  | loop => cases congrArg Position.indent (stays {} 0)
  | breakLoop => cases congrArg (fun position => position.loops.size) (stays {} 0)
  | condition test => exact absurd (stays {} 0) (branch_conditions _)
  | conditionElse => cases congrArg Position.indent (stays {} 0)
  | conditionElseIf test =>
      cases test with
      | none => rfl
      | some test => exact absurd (stays {} 0) (branch_conditions _)
  | jumpToLabel name =>
      cases congrArg Position.pointer (stays { jumpTargets := #[some 1] } 0)
  | exitEvent => cases congrArg Position.pointer (stays {} 1)
  | _ => rfl

/-- A command that leaves a run awake calls no script. -/
theorem Activation.callee_of_awake {activation : Activation} {world : World} {id : String}
    {instruction : Instruction}
    (awake : (activation.perform world id instruction).activation.IsAwake) :
    (activation.perform world id instruction).callee = none := by
  cases called : (activation.perform world id instruction).callee with
  | none => rfl
  | some callee =>
      have waits := (Activation.perform_call called).2
      have reason := awake.reason
      rw [waits] at reason
      cases reason

end NovelEngine
