import NovelEngine.Proofs.Effect

/-!
Contract: instructions that address no temporary variable.

Owns:
- which instructions those are;
- the world without its temporary variables and its command budget;
- the law that such an instruction does the same in both.

Does not own: the updates, which reset temporary variables and spend the budget.
-/

namespace NovelEngine

/-! ## Instructions by the variables that they address -/

def VariableRef.avoidsTemporaries (reference : VariableRef) : Bool :=
  decide (reference.scope ≠ .temporary)

def Operand.avoidsTemporaries : Operand → Bool
  | .slot reference => reference.avoidsTemporaries
  | .literal _ => true

def Condition.avoidsTemporaries (condition : Condition) : Bool :=
  condition.left.avoidsTemporaries && condition.right.avoidsTemporaries

def NumberSource.avoidsTemporaries : NumberSource → Bool
  | .random first second => first.avoidsTemporaries && second.avoidsTemporaries
  | .operand read => read.avoidsTemporaries

/-- Snippets work on local variables only. -/
def TextSource.avoidsTemporaries : TextSource → Bool
  | .snippet _ => true
  | .operand read => read.avoidsTemporaries

def ObjectAction.avoidsTemporaries : ObjectAction → Bool
  | .appear _ x y => x.all Operand.avoidsTemporaries && y.all Operand.avoidsTemporaries
  | .move x y => x.avoidsTemporaries && y.avoidsTemporaries
  | .blend opacity _ => opacity.avoidsTemporaries
  | _ => true

/-- Whether no operand and no target of the instruction is a temporary variable. -/
def Instruction.avoidsTemporaries : Instruction → Bool
  | .condition test => test.avoidsTemporaries
  | .conditionElseIf test => test.all Condition.avoidsTemporaries
  | .wait time => time.avoidsTemporaries
  | .changeNumbers change =>
      change.target.avoidsTemporaries && change.source.avoidsTemporaries
  | .changeTexts change =>
      change.target.avoidsTemporaries && change.source.all TextSource.avoidsTemporaries
  | .changeBooleans change =>
      change.target.avoidsTemporaries && change.value.avoidsTemporaries
  | .changeLists change =>
      change.target.avoidsTemporaries && change.value.avoidsTemporaries
        && change.index.avoidsTemporaries
  | .showMessage text _ _ => text.avoidsTemporaries
  | .showChoices choices target =>
      choices.all (fun choice => choice.text.avoidsTemporaries)
        && target.all VariableRef.avoidsTemporaries
  | .inputNumber target _ => target.avoidsTemporaries
  | .inputText target _ => target.avoidsTemporaries
  | .playMusic _ name _ _ => name.avoidsTemporaries
  | .playSound name => name.avoidsTemporaries
  | .object _ slot _ action => slot.avoidsTemporaries && action.avoidsTemporaries
  | _ => true

/-! ## Worlds -/

def World.withBudget (world : World) (budget : Option Nat) : World :=
  { world with config := { world.config with commandBudget := budget } }

/-- The world without its temporary variables and without a command budget. -/
def World.timeless (world : World) : World :=
  { world with
    config := { world.config with commandBudget := none }
    store := { world.store with temporaries := {} } }

def Outcome.timeless (outcome : Outcome) : Outcome :=
  { outcome with world := outcome.world.timeless }

section Slots

variable (world : World) (context : Context) {reference : VariableRef}

theorem World.bank_timeless (avoids : reference.avoidsTemporaries = true) :
    world.timeless.store.bank context reference.scope =
      world.store.bank context reference.scope := by
  have lasting := of_decide_eq_true avoids
  cases scope : reference.scope with
  | temporary => exact absurd scope lasting
  | _ => rfl

theorem World.changeBank_timeless (avoids : reference.avoidsTemporaries = true)
    (change : Bank → Bank) :
    { world.timeless with
      store := world.timeless.store.changeBank context reference.scope change } =
      World.timeless
        { world with store := world.store.changeBank context reference.scope change } := by
  have lasting := of_decide_eq_true avoids
  unfold Store.changeBank
  rw [world.bank_timeless context avoids]
  cases scope : reference.scope with
  | temporary => exact absurd scope lasting
  | _ => rfl

theorem World.number_timeless (avoids : reference.avoidsTemporaries = true) :
    world.timeless.store.number context reference = world.store.number context reference := by
  unfold Store.number
  rw [world.bank_timeless context avoids]

theorem World.text_timeless (avoids : reference.avoidsTemporaries = true) :
    world.timeless.store.text context reference = world.store.text context reference := by
  unfold Store.text
  rw [world.bank_timeless context avoids]

theorem World.boolean_timeless (avoids : reference.avoidsTemporaries = true) :
    world.timeless.store.boolean context reference = world.store.boolean context reference := by
  unfold Store.boolean
  rw [world.bank_timeless context avoids]

theorem World.list_timeless (avoids : reference.avoidsTemporaries = true) :
    world.timeless.store.list context reference = world.store.list context reference := by
  unfold Store.list
  rw [world.bank_timeless context avoids]

end Slots

/-! ## Operands -/

section Operands

variable (world : World) (context : Context) {operand : Operand}

theorem Operand.value_timeless (avoids : operand.avoidsTemporaries = true) :
    operand.value world.timeless.store context = operand.value world.store context := by
  cases operand with
  | literal value => rfl
  | slot reference =>
      have avoids : reference.avoidsTemporaries = true := avoids
      simp only [Operand.value, Store.get, world.number_timeless context avoids,
        world.text_timeless context avoids, world.boolean_timeless context avoids,
        world.list_timeless context avoids]

theorem Operand.number_timeless (avoids : operand.avoidsTemporaries = true) :
    operand.number world.timeless.store context = operand.number world.store context :=
  congrArg Value.toFloat (value_timeless world context avoids)

theorem Operand.text_timeless (avoids : operand.avoidsTemporaries = true) :
    operand.text world.timeless.store context = operand.text world.store context :=
  congrArg Value.toText (value_timeless world context avoids)

theorem Operand.boolean_timeless (avoids : operand.avoidsTemporaries = true) :
    operand.boolean world.timeless.store context = operand.boolean world.store context :=
  congrArg Value.toBool (value_timeless world context avoids)

theorem Condition.holds_timeless {condition : Condition}
    (avoids : condition.avoidsTemporaries = true) :
    condition.holds world.timeless.store context = condition.holds world.store context := by
  obtain ⟨left, right⟩ := Bool.and_eq_true_iff.mp avoids
  unfold holds
  rw [Operand.value_timeless world context left, Operand.value_timeless world context right]

theorem ObjectAction.animation_timeless {action : ObjectAction}
    (avoids : action.avoidsTemporaries = true) :
    action.animation world.timeless.store context = action.animation world.store context := by
  cases action with
  | move x y =>
      obtain ⟨across, down⟩ := Bool.and_eq_true_iff.mp avoids
      simp only [animation, Operand.number_timeless world context across,
        Operand.number_timeless world context down]
  | blend opacity mode => simp only [animation, Operand.number_timeless world context avoids]
  | _ => rfl

theorem NumberSource.yield_timeless {source : NumberSource}
    (avoids : source.avoidsTemporaries = true) :
    source.yield world.timeless context =
      ((source.yield world context).1, (source.yield world context).2.timeless) := by
  cases source with
  | operand read => simp only [yield, Operand.number_timeless world context avoids]
  | random first second =>
      obtain ⟨low, high⟩ := Bool.and_eq_true_iff.mp avoids
      have dice : world.timeless.dice = world.dice := rfl
      simp only [yield, Operand.number_timeless world context low,
        Operand.number_timeless world context high, World.randomBetween, dice]
      split <;> rfl

end Operands

/-! ## Ranges of slots -/

/-- What does not matter to the change of any slot does not matter to a range of slots. -/
theorem changeRange_map {transform : World → World}
    {change : VariableRef → World → World × Option Error} {target : VariableRef}
    (same : ∀ offset slot world, target.shift offset = .ok slot →
      change slot (transform world) = (transform (change slot world).1, (change slot world).2))
    (offset count : Nat) (world : World) :
    changeRange change target offset count (transform world) =
      (transform (changeRange change target offset count world).1,
        (changeRange change target offset count world).2) := by
  induction count generalizing offset world with
  | zero => rfl
  | succ count inductionHypothesis =>
      unfold changeRange
      cases shifted : target.shift offset with
      | error error => rfl
      | ok slot =>
          dsimp only
          rw [same offset slot world shifted]
          obtain ⟨changed, failure⟩ := change slot world
          cases failure with
          | some error => rfl
          | none => exact inductionHypothesis (offset + 1) changed

theorem VariableRef.shift_avoidsTemporaries {target slot : VariableRef} {offset : Nat}
    (avoids : target.avoidsTemporaries = true) (shifted : target.shift offset = .ok slot) :
    slot.avoidsTemporaries = true := by
  unfold VariableRef.shift at shifted
  split at shifted
  · cases shifted
    exact avoids
  · cases shifted

theorem changeSlots_timeless {change : VariableRef → World → World × Option Error}
    {target : VariableRef} (avoids : target.avoidsTemporaries = true)
    (same : ∀ slot world, slot.avoidsTemporaries = true →
      change slot world.timeless = ((change slot world).1.timeless, (change slot world).2))
    (activation : Activation) (world : World) (range : Nat) :
    changeSlots activation world.timeless target range change =
      (changeSlots activation world target range change).timeless := by
  unfold changeSlots
  rw [changeRange_map (fun _ slot world shifted =>
    same slot world (VariableRef.shift_avoidsTemporaries avoids shifted))]
  rfl

/-! ## Instructions -/

namespace Activation

variable (activation : Activation) (world : World)

private theorem changeNumbers_timeless {change : NumberChange}
    (target : change.target.avoidsTemporaries = true)
    (source : change.source.avoidsTemporaries = true) :
    activation.changeNumbers world.timeless change =
      (activation.changeNumbers world change).timeless := by
  refine changeSlots_timeless target (fun slot world avoids => ?_) _ _ _
  rw [NumberSource.yield_timeless world activation.context source]
  obtain ⟨operand, world⟩ := change.source.yield world activation.context
  dsimp only
  rw [world.number_timeless activation.context avoids]
  split
  · exact congrArg (·, none) (world.changeBank_timeless activation.context avoids _)
  · rfl

private theorem runSnippet_timeless (context : Context) (source : String) :
    world.timeless.runSnippet context source =
      (world.runSnippet context source).map (fun result => (result.1, result.2.timeless)) := by
  have engine : world.timeless.engine = world.engine := rfl
  have bank : world.timeless.store.bank context .local = world.store.bank context .local := rfl
  unfold World.runSnippet
  rw [engine, bank]
  cases world.engine.run source (world.store.bank context .local) <;> rfl

private theorem yieldText_timeless {source : Option TextSource}
    (avoids : source.all TextSource.avoidsTemporaries = true) :
    activation.yieldText world.timeless source =
      (activation.yieldText world source).map (fun result => (result.1, result.2.timeless)) := by
  cases source with
  | none => rfl
  | some source =>
      cases source with
      | snippet source => exact runSnippet_timeless world activation.context source
      | operand read =>
          simp only [yieldText, Operand.text_timeless world activation.context avoids]
          rfl

private theorem changeTexts_timeless {change : TextChange}
    (target : change.target.avoidsTemporaries = true)
    (source : change.source.all TextSource.avoidsTemporaries = true) :
    activation.changeTexts world.timeless change =
      (activation.changeTexts world change).timeless := by
  unfold changeTexts
  rw [yieldText_timeless activation world source]
  cases activation.yieldText world change.source with
  | error error => rfl
  | ok result =>
      refine changeSlots_timeless target (fun slot world avoids => ?_) _ _ _
      rw [world.text_timeless activation.context avoids]
      exact congrArg (·, none) (world.changeBank_timeless activation.context avoids _)

private theorem changeBooleans_timeless {change : BooleanChange}
    (target : change.target.avoidsTemporaries = true)
    (value : change.value.avoidsTemporaries = true) :
    activation.changeBooleans world.timeless change =
      (activation.changeBooleans world change).timeless := by
  unfold changeBooleans
  rw [Operand.boolean_timeless world activation.context value]
  refine changeSlots_timeless target (fun slot world avoids => ?_) _ _ _
  rw [world.boolean_timeless activation.context avoids]
  exact congrArg (·, none) (world.changeBank_timeless activation.context avoids _)

private theorem changeLists_timeless {change : ListChange}
    (target : change.target.avoidsTemporaries = true)
    (value : change.value.avoidsTemporaries = true)
    (index : change.index.avoidsTemporaries = true) :
    activation.changeLists world.timeless change =
      (activation.changeLists world change).timeless := by
  unfold changeLists
  rw [Operand.value_timeless world activation.context value,
    Operand.number_timeless world activation.context index,
    world.list_timeless activation.context target]
  dsimp only
  split
  · exact congrArg (Outcome.ofWorld activation)
      (world.changeBank_timeless activation.context target _)
  · rfl

private theorem showMessage_timeless {text : Operand} (avoids : text.avoidsTemporaries = true)
    (character : Option String) (wait : Option Bool) :
    activation.showMessage world.timeless text character wait =
      (activation.showMessage world text character wait).timeless := by
  have locked : activation.isLockedOut world.timeless = activation.isLockedOut world := rfl
  have skips : activation.isInstantSkip world.timeless = activation.isInstantSkip world := rfl
  unfold showMessage
  rw [Operand.text_timeless world activation.context avoids, locked, skips]
  split
  · rfl
  · dsimp only
    split
    · split <;> rfl
    · split <;> rfl

private theorem showChoices_timeless {choices : List ChoiceEntry}
    (avoids : choices.all (fun choice => choice.text.avoidsTemporaries) = true)
    (target : Option VariableRef) :
    activation.showChoices world.timeless choices target =
      (activation.showChoices world choices target).timeless := by
  have texts : choices.map (fun choice =>
      choice.text.text world.timeless.store activation.context) =
        choices.map (fun choice => choice.text.text world.store activation.context) := by
    refine List.map_congr_left (fun choice member => ?_)
    exact Operand.text_timeless world activation.context
      (List.all_eq_true.mp avoids choice member)
  have locked : activation.isLockedOut world.timeless = activation.isLockedOut world := rfl
  unfold showChoices
  rw [texts, locked]
  split <;> rfl

private theorem openPrompt_timeless (target : VariableRef) (content : Content) :
    activation.openPrompt world.timeless target content =
      (activation.openPrompt world target content).timeless := by
  have box : world.timeless.box = world.box := rfl
  unfold openPrompt
  rw [box]
  split <;> rfl

private theorem animateObject_timeless (kind : ObjectKind) (slot : Nat) (timing : Timing)
    (animation : Animation) :
    activation.animateObject world.timeless kind slot timing animation =
      (activation.animateObject world kind slot timing animation).timeless := by
  have stage : world.timeless.stage = world.stage := rfl
  unfold animateObject
  rw [stage]
  split <;> rfl

private theorem showObject_timeless (kind : ObjectKind) (slot : Nat) (timing : Timing)
    (graphic : Option String) {x y : Option Operand}
    (across : x.all Operand.avoidsTemporaries = true)
    (down : y.all Operand.avoidsTemporaries = true) :
    activation.showObject world.timeless kind slot timing graphic x y =
      (activation.showObject world kind slot timing graphic x y).timeless := by
  have read (operand : Option Operand) (avoids : operand.all Operand.avoidsTemporaries = true) :
      operand.map (fun operand => operand.number world.timeless.store activation.context) =
        operand.map (fun operand => operand.number world.store activation.context) := by
    cases operand with
    | none => rfl
    | some operand =>
        exact congrArg some (Operand.number_timeless world activation.context avoids)
  unfold showObject
  dsimp only
  rw [read x across, read y down]
  rfl

private theorem actOnObject_timeless (kind : ObjectKind) {slot : Operand} (timing : Timing)
    {action : ObjectAction} (place : slot.avoidsTemporaries = true)
    (avoids : action.avoidsTemporaries = true) :
    activation.actOnObject world.timeless kind slot timing action =
      (activation.actOnObject world kind slot timing action).timeless := by
  unfold actOnObject
  rw [Operand.number_timeless world activation.context place]
  dsimp only
  split
  · obtain ⟨across, down⟩ := Bool.and_eq_true_iff.mp avoids
    exact showObject_timeless activation world kind _ timing _ across down
  · unfold eraseObject
    rw [animateObject_timeless]
    dsimp only
    split <;> rfl
  · rw [ObjectAction.animation_timeless world activation.context avoids]
    exact animateObject_timeless activation world kind _ timing _

private theorem callEvent_timeless (id : String) (parameters : List Value) (wait : Bool) :
    activation.callEvent world.timeless id parameters wait =
      (activation.callEvent world id parameters wait).timeless := by
  have board : world.timeless.board = world.board := rfl
  unfold callEvent
  rw [board]
  split
  · rfl
  · split
    · rfl
    · cases wait <;> rfl

private theorem callScene_timeless (uid : String) :
    activation.callScene world.timeless uid = (activation.callScene world uid).timeless := by
  have scenes : world.timeless.scenes = world.scenes := rfl
  unfold callScene
  rw [scenes]
  split
  · rfl
  · split <;> rfl

private theorem followJump_timeless (id : String) (name : Option String) :
    activation.followJump world.timeless id name =
      (activation.followJump world id name).timeless := by
  unfold followJump
  split
  · rfl
  · split
    · rfl
    · split <;> rfl

/-- An instruction that addresses no temporary variable does the same whatever temporary
variables and whatever budget there are. -/
theorem perform_timeless (id : String) {instruction : Instruction}
    (avoids : instruction.avoidsTemporaries = true) :
    activation.perform world.timeless id instruction =
      (activation.perform world id instruction).timeless := by
  cases instruction with
  | condition test =>
      simp only [perform, testCondition,
        Condition.holds_timeless world activation.context avoids]
      rfl
  | conditionElseIf test =>
      simp only [perform, testElseIf]
      split
      · rfl
      · cases test with
        | none => rfl
        | some test =>
            simp only [testCondition, Condition.holds_timeless world activation.context avoids]
            rfl
  | wait time =>
      have skips : activation.isInstantSkip world.timeless = activation.isInstantSkip world :=
        rfl
      simp only [perform, waitFrames, skips,
        Operand.number_timeless world activation.context avoids]
      split <;> rfl
  | jumpToLabel name => exact followJump_timeless activation world id name
  | callEvent event parameters wait =>
      exact callEvent_timeless activation world event parameters wait
  | callScene uid => exact callScene_timeless activation world uid
  | changeNumbers change =>
      obtain ⟨target, source⟩ := Bool.and_eq_true_iff.mp avoids
      exact changeNumbers_timeless activation world target source
  | changeTexts change =>
      obtain ⟨target, source⟩ := Bool.and_eq_true_iff.mp avoids
      exact changeTexts_timeless activation world target source
  | changeBooleans change =>
      obtain ⟨target, value⟩ := Bool.and_eq_true_iff.mp avoids
      exact changeBooleans_timeless activation world target value
  | changeLists change =>
      obtain ⟨addresses, index⟩ := Bool.and_eq_true_iff.mp avoids
      obtain ⟨target, value⟩ := Bool.and_eq_true_iff.mp addresses
      exact changeLists_timeless activation world target value index
  | showMessage text character wait =>
      exact showMessage_timeless activation world avoids character wait
  | showChoices choices target =>
      exact showChoices_timeless activation world (Bool.and_eq_true_iff.mp avoids).1 target
  | inputNumber target digits => exact openPrompt_timeless activation world _ _
  | inputText target letters => exact openPrompt_timeless activation world _ _
  | playMusic channel name volume fadeIn =>
      simp only [perform, playMusic, Operand.text_timeless world activation.context avoids]
      rfl
  | playSound name =>
      simp only [perform, playSound, Operand.text_timeless world activation.context avoids]
      rfl
  | snippet source =>
      simp only [perform, runSnippet, runSnippet_timeless]
      cases world.runSnippet activation.context source <;> rfl
  | object kind slot timing action =>
      obtain ⟨place, acts⟩ := Bool.and_eq_true_iff.mp avoids
      exact actOnObject_timeless activation world kind timing place acts
  | _ => rfl

end Activation

end NovelEngine
