import NovelEngine.Engine.Perform

/-!
Contract: what one instruction can do, said once.

Owns:
- the ways in which an instruction changes the run that executes it;
- the part of the world that instructions on variables can reach;
- the ways in which an instruction uses the message box;
- the script that an instruction calls.

Does not own: the pointer, which moves after an instruction, and the run of a
called script.

Later modules take instructions apart only through the statements below.
-/

namespace NovelEngine

/-! ## Instructions by what they wait for -/

namespace Instruction

/-- Whether the instruction shows something in the message box. While an unrelated
prompt holds the box such an instruction waits for it. -/
def speaks : Instruction → Bool
  | .showMessage .. => true
  | .showChoices .. => true
  | .inputNumber .. => true
  | .inputText .. => true
  | _ => false

/-- The answer that a prompt waits for. -/
def answer? : Instruction → Option WaitReason
  | .showChoices choices target => some (.choice (choices.map ChoiceEntry.label) target)
  | .inputNumber target _ => some (.input { target with kind := .number })
  | .inputText target _ => some (.input { target with kind := .text })
  | _ => none

/-- Whether the instruction tests a condition or belongs to a chain of conditions. -/
def isBranch : Instruction → Bool
  | .condition .. => true
  | .conditionElse => true
  | .conditionElseIf .. => true
  | _ => false

end Instruction

/-- Whether the player has to answer with a choice or an input. -/
def WaitReason.isPrompt : WaitReason → Bool
  | .choice .. => true
  | .input .. => true
  | _ => false

/-! ## The run that executes an instruction -/

/-- What an instruction can do to the run that executes it. -/
inductive Effect (activation : Activation) : Instruction → Activation → Prop where
  | keep (instruction : Instruction) : Effect activation instruction activation
  | enterLoop : Effect activation .loop activation.enterLoop
  | breakLoop : Effect activation .breakLoop activation.breakLoop
  | branch {instruction : Instruction} (chain : instruction.isBranch = true) (holds : Bool) :
      Effect activation instruction (activation.branch holds)
  | branchElse : Effect activation .conditionElse activation.branchElse
  | jump (name : Option String) (labels : Registry String Nat) (index : Nat) :
      Effect activation (.jumpToLabel name) ({ activation with labels }.jumpTo index)
  | exit : Effect activation .exitEvent activation.exitEvent
  | settings (instruction : Instruction) (settings : MessageSettings) :
      Effect activation instruction { activation with settings }
  | wait (instruction : Instruction) (frames : Nat) :
      Effect activation instruction (activation.wait frames)
  | prompt {instruction : Instruction} {reason : WaitReason}
      (raised : instruction.answer? = some reason) :
      Effect activation instruction (activation.waitUntil reason)
  | suspend (instruction : Instruction) {reason : WaitReason}
      (other : reason.isPrompt = false) :
      Effect activation instruction (activation.waitUntil reason)
  | park {instruction : Instruction} (speaks : instruction.speaks = true) :
      Effect activation instruction activation.waitForBox

namespace Activation

variable (activation : Activation) (world : World)

/-- Waiting for an animation is a countdown like any other. -/
theorem waitForCompletion_effect (instruction : Instruction) (duration : Nat)
    (requested : Bool) :
    Effect activation instruction
      (activation.waitForCompletion world duration requested) := by
  unfold waitForCompletion
  split
  · rename_i counted
    have positive : 0 < duration := by
      simp only [Bool.and_eq_true, bne_iff_ne] at counted
      omega
    have asWait : activation.wait duration =
        { activation with isWaiting := true, waitCounter := duration } := by
      simp [wait, positive]
    rw [← asWait]
    exact .wait instruction duration
  · exact .keep instruction

/-- A jump by name ends on some command and may note the label. -/
theorem jumpToLabel_eq {activation jumped : Activation} {name : String}
    (found : activation.jumpToLabel name = .ok jumped) :
    ∃ labels index, jumped = { activation with labels }.jumpTo index := by
  unfold jumpToLabel at found
  split at found
  · cases found
    exact ⟨activation.labels, _, rfl⟩
  · split at found
    · cases found
      exact ⟨_, _, rfl⟩
    · cases found

private theorem jumpToLabel_effect {name : String} {jumped : Activation}
    (found : activation.jumpToLabel name = .ok jumped) (given : Option String) :
    Effect activation (.jumpToLabel given) jumped := by
  obtain ⟨labels, index, rfl⟩ := jumpToLabel_eq found
  exact .jump given labels index

private theorem followJump_effect (id : String) (name : Option String) :
    Effect activation (.jumpToLabel name) (activation.followJump world id name).activation := by
  unfold followJump
  split
  · exact .jump name activation.labels _
  · split
    · exact .keep _
    · split
      · rename_i found
        exact jumpToLabel_effect activation found _
      · exact .keep _

private theorem callEvent_effect (id : String) (parameters : List Value) (wait : Bool) :
    Effect activation (.callEvent id parameters wait)
      (activation.callEvent world id parameters wait).activation := by
  unfold callEvent
  split
  · exact .keep _
  · split
    · exact .keep _
    · cases wait
      · exact .keep _
      · exact .suspend _ rfl

private theorem callScene_effect (uid : String) :
    Effect activation (.callScene uid) (activation.callScene world uid).activation := by
  unfold callScene
  split
  · exact .keep _
  · split
    · exact .suspend _ rfl
    · exact .keep _

private theorem showMessage_effect (text : Operand) (character : Option String)
    (wait : Option Bool) :
    Effect activation (.showMessage text character wait)
      (activation.showMessage world text character wait).activation := by
  unfold showMessage
  split
  · exact .park rfl
  · dsimp only
    split
    · exact .keep _
    · split
      · exact .suspend _ rfl
      · exact .keep _

private theorem showChoices_effect (choices : List ChoiceEntry) (target : Option VariableRef) :
    Effect activation (.showChoices choices target)
      (activation.showChoices world choices target).activation := by
  unfold showChoices
  split
  · exact .park rfl
  · exact .prompt rfl

private theorem openPrompt_effect {instruction : Instruction} {target : VariableRef}
    (content : Content) (speaks : instruction.speaks = true)
    (raised : instruction.answer? = some (.input target)) :
    Effect activation instruction
      (activation.openPrompt world target content).activation := by
  unfold openPrompt
  split
  · exact .park speaks
  · exact .prompt raised

private theorem changeTexts_activation (change : TextChange) :
    (activation.changeTexts world change).activation = activation := by
  unfold changeTexts
  split <;> rfl

private theorem changeLists_activation (change : ListChange) :
    (activation.changeLists world change).activation = activation := by
  unfold changeLists
  dsimp only
  split <;> rfl

private theorem runSnippet_activation (source : String) :
    (activation.runSnippet world source).activation = activation := by
  unfold runSnippet
  split <;> rfl

private theorem animateObject_effect (instruction : Instruction) (kind : ObjectKind)
    (slot : Nat) (timing : Timing) (animation : Animation) :
    Effect activation instruction
      (activation.animateObject world kind slot timing animation).activation := by
  unfold animateObject
  split
  · exact .keep _
  · exact waitForCompletion_effect _ _ _ _ _

private theorem actOnObject_effect (instruction : Instruction) (kind : ObjectKind)
    (slot : Operand) (timing : Timing) (action : ObjectAction) :
    Effect activation instruction
      (activation.actOnObject world kind slot timing action).activation := by
  unfold actOnObject
  dsimp only
  split
  · exact waitForCompletion_effect _ _ _ _ _
  · unfold eraseObject
    dsimp only
    split <;> exact animateObject_effect _ _ _ _ _ _ _
  · exact animateObject_effect _ _ _ _ _ _ _

/-- Every instruction has one of the listed effects on its run. -/
theorem perform_effect (id : String) (instruction : Instruction) :
    Effect activation instruction (activation.perform world id instruction).activation := by
  cases instruction with
  | loop => exact .enterLoop
  | breakLoop => exact .breakLoop
  | condition test => exact .branch rfl _
  | conditionElse => exact .branchElse
  | conditionElseIf test =>
      simp only [perform, testElseIf]
      split
      · exact .keep _
      · cases test with
        | none => exact .keep _
        | some test => exact .branch rfl _
  | label => exact .keep _
  | jumpToLabel name => exact followJump_effect activation world id name
  | wait time =>
      simp only [perform, waitFrames]
      split
      · exact .keep _
      · exact .wait _ _
  | callEvent event parameters wait =>
      exact callEvent_effect activation world event parameters wait
  | callScene uid => exact callScene_effect activation world uid
  | changeScene uid => exact .suspend _ rfl
  | exitEvent => exact .exit
  | changeNumbers change => exact .keep _
  | changeTexts change =>
      simp only [perform, changeTexts_activation]
      exact .keep _
  | changeBooleans change => exact .keep _
  | changeLists change =>
      simp only [perform, changeLists_activation]
      exact .keep _
  | showMessage text character wait =>
      exact showMessage_effect activation world text character wait
  | showChoices choices target => exact showChoices_effect activation world choices target
  | inputNumber target digits => exact openPrompt_effect _ _ _ rfl rfl
  | inputText target letters => exact openPrompt_effect _ _ _ rfl rfl
  | messageSettings autoErase waitAtEnd => exact .settings _ _
  | eraseMessage => exact .keep _
  | playMusic channel name volume fadeIn => exact .keep _
  | stopMusic channel fadeOut wait => exact waitForCompletion_effect _ _ _ _ _
  | playSound name => exact .keep _
  | snippet source =>
      simp only [perform, runSnippet_activation]
      exact .keep _
  | object kind slot timing action => exact actOnObject_effect _ _ _ _ _ _ _
  | shakeScreen range speed timing => exact waitForCompletion_effect _ _ _ _ _
  | malformed => exact .keep _

/-- Two states of one run: what is fixed when a run is created is the same in both. -/
structure SameRun (before after : Activation) : Prop where
  context : after.context = before.context
  script : after.script = before.script
  callers : after.callers = before.callers
  repeats : after.repeats = before.repeats

theorem SameRun.refl : activation.SameRun activation where
  context := rfl
  script := rfl
  callers := rfl
  repeats := rfl

theorem SameRun.trans {first second third : Activation} (left : first.SameRun second)
    (right : second.SameRun third) : first.SameRun third where
  context := right.context.trans left.context
  script := right.script.trans left.script
  callers := right.callers.trans left.callers
  repeats := right.repeats.trans left.repeats

/-- What is fixed when a run is created. -/
def identity : Context × Script × List Context × Bool :=
  (activation.context, activation.script, activation.callers, activation.repeats)

theorem sameRun_iff {run other : Activation} :
    run.SameRun other ↔ other.identity = run.identity := by
  constructor
  · intro same
    simp only [identity, same.context, same.script, same.callers, same.repeats]
  · intro same
    simp only [identity, Prod.mk.injEq] at same
    exact ⟨same.1, same.2.1, same.2.2.1, same.2.2.2⟩

end Activation

theorem Effect.sameRun {activation next : Activation} {instruction : Instruction}
    (effect : Effect activation instruction next) : activation.SameRun next := by
  cases effect with
  | branch chain holds => cases holds <;> exact ⟨rfl, rfl, rfl, rfl⟩
  | branchElse =>
      unfold Activation.branchElse
      split <;> exact ⟨rfl, rfl, rfl, rfl⟩
  | _ => exact ⟨rfl, rfl, rfl, rfl⟩

/-- An instruction neither stops its run nor touches the preview. -/
theorem Effect.aside {activation next : Activation} {instruction : Instruction}
    (effect : Effect activation instruction next) :
    next.isRunning = activation.isRunning ∧ next.preview = activation.preview := by
  cases effect with
  | branch chain holds => cases holds <;> exact ⟨rfl, rfl⟩
  | branchElse =>
      unfold Activation.branchElse
      split <;> exact ⟨rfl, rfl⟩
  | _ => exact ⟨rfl, rfl⟩

/-! ## The world around an instruction -/

/-- Two worlds that differ at most in their variables, their dice and the abort mark. -/
def World.SameBeyondStore (before after : World) : Prop :=
  ∃ store dice aborted, after = { before with store, dice, aborted }

namespace World.SameBeyondStore

theorem refl (world : World) : world.SameBeyondStore world :=
  ⟨world.store, world.dice, world.aborted, rfl⟩

theorem trans {first second third : World} (left : first.SameBeyondStore second)
    (right : second.SameBeyondStore third) : first.SameBeyondStore third := by
  obtain ⟨_, _, _, rfl⟩ := left
  obtain ⟨store, dice, aborted, rfl⟩ := right
  exact ⟨store, dice, aborted, rfl⟩

theorem ofStore (world : World) (store : Store) :
    world.SameBeyondStore { world with store } :=
  ⟨store, world.dice, world.aborted, rfl⟩

end World.SameBeyondStore

/-- Between two worlds the configuration stays, and so does a requested scene change, if only
in favour of another one. -/
structure World.KeepsRequest (before after : World) : Prop where
  config : after.config = before.config
  request : before.sceneRequest.isSome = true → after.sceneRequest.isSome = true

theorem World.KeepsRequest.of_same {before after : World} (config : after.config = before.config)
    (request : after.sceneRequest = before.sceneRequest) : before.KeepsRequest after :=
  ⟨config, fun due => request ▸ due⟩

theorem World.SameBeyondStore.keepsRequest {before after : World}
    (same : before.SameBeyondStore after) : before.KeepsRequest after := by
  obtain ⟨_, _, _, equal⟩ := same
  rw [equal]
  exact .of_same rfl rfl

/-- What each slot keeps of the world, a range of slots keeps. -/
theorem changeRange_keeps {Keeps : World → World → Prop} (refl : ∀ world, Keeps world world)
    (trans : ∀ {first second third}, Keeps first second → Keeps second third →
      Keeps first third)
    {change : VariableRef → World → World × Option Error}
    (keeps : ∀ slot (world : World), Keeps world (change slot world).1)
    (target : VariableRef) (offset count : Nat) (world : World) :
    Keeps world (changeRange change target offset count world).1 := by
  induction count generalizing offset world with
  | zero => exact refl world
  | succ count inductionHypothesis =>
      have first := fun slot => keeps slot world
      unfold changeRange
      split
      · exact refl world
      · rename_i slot _
        have step := first slot
        split
        · rename_i changed error equal
          rw [equal] at step
          exact step
        · rename_i changed equal
          rw [equal] at step
          exact trans step (inductionHypothesis (offset + 1) changed)

theorem changeRange_sameBeyondStore {change : VariableRef → World → World × Option Error}
    (keeps : ∀ slot (world : World), world.SameBeyondStore (change slot world).1)
    (target : VariableRef) (offset count : Nat) (world : World) :
    world.SameBeyondStore (changeRange change target offset count world).1 :=
  changeRange_keeps .refl .trans keeps target offset count world

namespace Activation

variable (activation : Activation) (world : World)

private theorem yield_sameBeyondStore (source : NumberSource) (context : Context) :
    world.SameBeyondStore (source.yield world context).2 := by
  cases source with
  | random first second =>
      simp only [NumberSource.yield, World.randomBetween]
      split
      · exact ⟨world.store, _, world.aborted, rfl⟩
      · exact ⟨world.store, world.dice, true, rfl⟩
  | operand read => exact .refl world

theorem changeNumbers_sameBeyondStore (change : NumberChange) :
    world.SameBeyondStore (activation.changeNumbers world change).world := by
  refine changeRange_sameBeyondStore (fun slot world => ?_) _ _ _ _
  have yielded := yield_sameBeyondStore world change.source activation.context
  dsimp only
  split
  · exact yielded.trans (.ofStore _ _)
  · exact yielded

private theorem runSnippet_sameBeyondStore {context : Context} {source text : String}
    {after : World} (ran : world.runSnippet context source = .ok (text, after)) :
    world.SameBeyondStore after := by
  unfold World.runSnippet at ran
  split at ran
  · cases ran
    exact .ofStore _ _
  · cases ran

theorem changeTexts_sameBeyondStore (change : TextChange) :
    world.SameBeyondStore (activation.changeTexts world change).world := by
  unfold changeTexts
  split
  · exact .refl world
  · rename_i operand after yielded
    have computed : world.SameBeyondStore after := by
      unfold yieldText at yielded
      split at yielded
      · exact runSnippet_sameBeyondStore world yielded
      · cases yielded
        exact .refl world
      · cases yielded
        exact .refl world
    exact computed.trans
      (changeRange_sameBeyondStore (fun _ _ => .ofStore _ _) _ _ _ _)

theorem changeBooleans_sameBeyondStore (change : BooleanChange) :
    world.SameBeyondStore (activation.changeBooleans world change).world :=
  changeRange_sameBeyondStore (fun _ _ => .ofStore _ _) _ _ _ _

theorem changeLists_sameBeyondStore (change : ListChange) :
    world.SameBeyondStore (activation.changeLists world change).world := by
  unfold changeLists
  dsimp only
  split
  · exact .ofStore _ _
  · exact .refl world

theorem snippet_sameBeyondStore (source : String) :
    world.SameBeyondStore (activation.runSnippet world source).world := by
  unfold runSnippet
  split
  · rename_i ran
    exact runSnippet_sameBeyondStore world ran
  · exact .refl world

end Activation

/-- Whether the box asks for an input. -/
def Content.isInput : Content → Bool
  | .numberInput .. => true
  | .textInput .. => true
  | _ => false

@[simp] theorem MessageBox.present_owner (box : MessageBox) (content : Content) :
    (box.present content).owner = box.owner := by
  cases content <;> rfl

@[simp] theorem MessageBox.erase_owner (box : MessageBox) : box.erase.owner = box.owner := by
  unfold erase
  split <;> rfl

/-- Who is locked out depends on the owner of the box only. -/
theorem Activation.isLockedOut_congr {activation : Activation} {left right : World}
    (owner : left.box.owner = right.box.owner) :
    activation.isLockedOut left = activation.isLockedOut right := by
  unfold isLockedOut MessageBox.isLockedAgainst
  rw [owner]

/-- What an instruction can do to the message box, to the spawned scripts and by a call. -/
inductive Use (activation : Activation) (world : World) : Outcome → Prop where
  | apart {outcome : Outcome} (box : outcome.world.box = world.box)
      (spawned : outcome.world.spawned = world.spawned) (callee : outcome.callee = none)
      (quiet : outcome.activation.waitingFor = activation.waitingFor ∨
        outcome.activation.waitingFor = none ∨
        outcome.activation.waitingFor = some .transition ∧
          outcome.world.sceneRequest.isSome = true) :
      Use activation world outcome
  /-- A line or choices are shown, and a line may be cleared at once. -/
  | speak {outcome : Outcome} {content : Content}
      (free : activation.isLockedOut world = false) (shows : content.isInput = false)
      (box : outcome.world.box = world.box.present content ∨
        outcome.world.box = (world.box.present content).erase)
      (spawned : outcome.world.spawned = world.spawned) (callee : outcome.callee = none)
      (heard : outcome.activation.waitingFor = activation.waitingFor ∨
        outcome.activation.waitingFor = some .message ∨
        ∃ labels target, outcome.activation.waitingFor = some (.choice labels target)) :
      Use activation world outcome
  | ask {outcome : Outcome} {content : Content} {target : VariableRef}
      (free : activation.isLockedOut world = false) (asks : content.isInput = true)
      (box : outcome.world.box =
        { world.box with owner := some activation.context }.present content)
      (spawned : outcome.world.spawned = world.spawned) (callee : outcome.callee = none)
      (waits : outcome.activation = activation.waitUntil (.input target)) :
      Use activation world outcome
  | giveUp {outcome : Outcome}
      (box : outcome.world.box = (world.box.release activation.context).erase)
      (spawned : outcome.world.spawned = world.spawned) (callee : outcome.callee = none)
      (keeps : outcome.activation = activation) : Use activation world outcome
  | spawn {outcome : Outcome} (context : Context) (script : Script)
      (box : outcome.world.box = world.box)
      (spawned : outcome.world.spawned =
        world.spawned ++ [{ context, script : Activation }.start])
      (callee : outcome.callee = none) (keeps : outcome.activation = activation) :
      Use activation world outcome
  | call {outcome : Outcome} (context : Context) (script : Script)
      (allowed : activation.mayCall = true) (box : outcome.world.box = world.box)
      (spawned : outcome.world.spawned = world.spawned)
      (callee : outcome.callee = some (activation.calleeOf context script))
      (waits : outcome.activation = activation.waitUntil .callee) :
      Use activation world outcome

namespace Activation

variable (activation : Activation) (world : World)

/-- An instruction that keeps its run and changes variables only. -/
private theorem use_of_sameBeyondStore {outcome : Outcome}
    (keeps : outcome.activation = activation)
    (same : world.SameBeyondStore outcome.world) (callee : outcome.callee = none) :
    Use activation world outcome := by
  obtain ⟨_, _, _, equal⟩ := same
  refine .apart ?_ ?_ callee (.inl (by rw [keeps]))
  · rw [equal]
  · rw [equal]

@[simp] theorem waitForCompletion_waitingFor (duration : Nat) (requested : Bool) :
    (activation.waitForCompletion world duration requested).waitingFor =
      activation.waitingFor := by
  unfold waitForCompletion
  split <;> rfl

private theorem followJump_use (id : String) (name : Option String) :
    Use activation world (activation.followJump world id name) := by
  unfold followJump
  split
  · exact .apart rfl rfl rfl (.inr (.inl rfl))
  · split
    · exact .apart rfl rfl rfl (.inl rfl)
    · rename_i name
      cases jump : activation.jumpToLabel name with
      | error error => exact .apart rfl rfl rfl (.inl rfl)
      | ok jumped =>
          refine .apart rfl rfl rfl (.inr (.inl ?_))
          unfold jumpToLabel at jump
          split at jump
          · cases jump
            rfl
          · split at jump
            · cases jump
              rfl
            · cases jump

private theorem callEvent_use (id : String) (parameters : List Value) (wait : Bool) :
    Use activation world (activation.callEvent world id parameters wait) := by
  unfold callEvent
  split
  · exact .apart rfl rfl rfl (.inl rfl)
  · rename_i event found
    cases wait with
    | false => exact .spawn _ event.script rfl rfl rfl rfl
    | true =>
        cases allowed : activation.mayCall with
        | false => exact .apart rfl rfl rfl (.inl rfl)
        | true => exact .call _ event.script allowed rfl rfl rfl rfl

private theorem callScene_use (uid : String) :
    Use activation world (activation.callScene world uid) := by
  unfold callScene
  split
  · exact .apart rfl rfl rfl (.inl rfl)
  · rename_i scene found
    split
    · rename_i allowed
      exact .call _ scene.script allowed rfl rfl rfl rfl
    · exact .apart rfl rfl rfl (.inl rfl)

private theorem showMessage_use (text : Operand) (character : Option String)
    (wait : Option Bool) :
    Use activation world (activation.showMessage world text character wait) := by
  unfold showMessage
  cases locked : activation.isLockedOut world with
  | true => exact .apart rfl rfl rfl (.inl rfl)
  | false =>
      let line := Content.line character (text.text world.store activation.context)
      have shows : line.isInput = false := rfl
      simp only [Bool.false_eq_true, if_false]
      split
      · by_cases erases : activation.settings.autoErase = true
        · simp only [erases, if_true]
          exact .speak locked shows (.inr rfl) rfl rfl (.inl rfl)
        · simp only [erases]
          exact .speak locked shows (.inl rfl) rfl rfl (.inl rfl)
      · split
        · exact .speak locked shows (.inl rfl) rfl rfl (.inr (.inl rfl))
        · exact .speak locked shows (.inl rfl) rfl rfl (.inl rfl)

private theorem showChoices_use (choices : List ChoiceEntry) (target : Option VariableRef) :
    Use activation world (activation.showChoices world choices target) := by
  unfold showChoices
  cases locked : activation.isLockedOut world with
  | true => exact .apart rfl rfl rfl (.inl rfl)
  | false =>
      let texts := choices.map (fun choice => choice.text.text world.store activation.context)
      have shows : (Content.choices texts).isInput = false := rfl
      exact .speak locked shows (.inl rfl) rfl rfl (.inr (.inr ⟨_, _, rfl⟩))

private theorem openPrompt_use (target : VariableRef) {content : Content}
    (asks : content.isInput = true) :
    Use activation world (activation.openPrompt world target content) := by
  unfold openPrompt MessageBox.lock?
  cases locked : world.box.isLockedAgainst activation.context activation.callers with
  | true => exact .apart rfl rfl rfl (.inl rfl)
  | false => exact .ask locked asks rfl rfl rfl rfl

private theorem animateObject_use (kind : ObjectKind) (slot : Nat) (timing : Timing)
    (animation : Animation) :
    Use activation world (activation.animateObject world kind slot timing animation) := by
  unfold animateObject
  split
  · exact .apart rfl rfl rfl (.inl rfl)
  · exact .apart rfl rfl rfl (.inl (waitForCompletion_waitingFor _ _ _ _))

private theorem actOnObject_use (kind : ObjectKind) (slot : Operand) (timing : Timing)
    (action : ObjectAction) :
    Use activation world (activation.actOnObject world kind slot timing action) := by
  unfold actOnObject
  dsimp only
  split
  · exact .apart rfl rfl rfl (.inl (waitForCompletion_waitingFor _ _ _ _))
  · unfold eraseObject animateObject
    dsimp only
    split
    · split
      · exact .apart rfl rfl rfl (.inl rfl)
      · exact .apart rfl rfl rfl (.inl (waitForCompletion_waitingFor _ _ _ _))
    · split
      · exact .apart rfl rfl rfl (.inl rfl)
      · exact .apart rfl rfl rfl (.inl (waitForCompletion_waitingFor _ _ _ _))
  · exact animateObject_use _ _ _ _ _ _

/-- Every instruction uses what the runs share in one of the listed ways. -/
theorem perform_use (id : String) (instruction : Instruction) :
    Use activation world (activation.perform world id instruction) := by
  cases instruction with
  | loop => exact .apart rfl rfl rfl (.inl rfl)
  | breakLoop => exact .apart rfl rfl rfl (.inl rfl)
  | condition test =>
      refine .apart rfl rfl rfl (.inl ?_)
      simp only [perform, testCondition, Outcome.ofActivation, branch]
      split <;> rfl
  | conditionElse =>
      refine .apart rfl rfl rfl (.inl ?_)
      simp only [perform, Outcome.ofActivation, branchElse]
      split <;> rfl
  | conditionElseIf test =>
      simp only [perform, testElseIf]
      split
      · exact .apart rfl rfl rfl (.inl rfl)
      · cases test with
        | none => exact .apart rfl rfl rfl (.inl rfl)
        | some test =>
            refine .apart rfl rfl rfl (.inl ?_)
            simp only [testCondition, Outcome.ofActivation, branch]
            split <;> rfl
  | label => exact .apart rfl rfl rfl (.inl rfl)
  | jumpToLabel name => exact followJump_use activation world id name
  | wait time =>
      simp only [perform, waitFrames]
      split
      · exact .apart rfl rfl rfl (.inl rfl)
      · exact .apart rfl rfl rfl (.inl rfl)
  | callEvent event parameters wait =>
      exact callEvent_use activation world event parameters wait
  | callScene uid => exact callScene_use activation world uid
  | changeScene uid => exact .apart rfl rfl rfl (.inr (.inr ⟨rfl, rfl⟩))
  | exitEvent => exact .apart rfl rfl rfl (.inl rfl)
  | changeNumbers change =>
      exact use_of_sameBeyondStore _ _ rfl (changeNumbers_sameBeyondStore _ _ _) rfl
  | changeTexts change =>
      refine use_of_sameBeyondStore _ _ (changeTexts_activation _ _ _)
        (changeTexts_sameBeyondStore _ _ _) ?_
      simp only [perform, changeTexts]
      split <;> rfl
  | changeBooleans change =>
      exact use_of_sameBeyondStore _ _ rfl (changeBooleans_sameBeyondStore _ _ _) rfl
  | changeLists change =>
      refine use_of_sameBeyondStore _ _ (changeLists_activation _ _ _)
        (changeLists_sameBeyondStore _ _ _) ?_
      simp only [perform, changeLists]
      split <;> rfl
  | showMessage text character wait =>
      exact showMessage_use activation world text character wait
  | showChoices choices target => exact showChoices_use activation world choices target
  | inputNumber target digits => exact openPrompt_use activation world _ rfl
  | inputText target letters => exact openPrompt_use activation world _ rfl
  | messageSettings autoErase waitAtEnd => exact .apart rfl rfl rfl (.inl rfl)
  | eraseMessage => exact .giveUp rfl rfl rfl rfl
  | playMusic channel name volume fadeIn => exact .apart rfl rfl rfl (.inl rfl)
  | stopMusic channel fadeOut wait =>
      exact .apart rfl rfl rfl (.inl (waitForCompletion_waitingFor _ _ _ _))
  | playSound name => exact .apart rfl rfl rfl (.inl rfl)
  | snippet source =>
      refine use_of_sameBeyondStore _ _ (runSnippet_activation _ _ _)
        (snippet_sameBeyondStore _ _ _) ?_
      simp only [perform, runSnippet]
      split <;> rfl
  | object kind slot timing action => exact actOnObject_use _ _ _ _ _ _
  | shakeScreen range speed timing =>
      exact .apart rfl rfl rfl (.inl (waitForCompletion_waitingFor _ _ _ _))
  | malformed => exact .apart rfl rfl rfl (.inl rfl)

/-- No instruction changes the configuration or takes back a requested scene change. -/
theorem perform_keepsRequest (id : String) (instruction : Instruction) :
    world.KeepsRequest (activation.perform world id instruction).world := by
  cases instruction with
  | conditionElseIf test =>
      simp only [perform, testElseIf]
      split
      · exact .of_same rfl rfl
      · cases test <;> exact .of_same rfl rfl
  | jumpToLabel name =>
      simp only [perform, followJump]
      split
      · exact .of_same rfl rfl
      · split
        · exact .of_same rfl rfl
        · split <;> exact .of_same rfl rfl
  | wait time =>
      simp only [perform, waitFrames]
      split <;> exact .of_same rfl rfl
  | callEvent event parameters wait =>
      simp only [perform, callEvent]
      split
      · exact .of_same rfl rfl
      · split
        · exact .of_same rfl rfl
        · cases wait <;> exact .of_same rfl rfl
  | callScene uid =>
      simp only [perform, callScene]
      split
      · exact .of_same rfl rfl
      · split <;> exact .of_same rfl rfl
  | changeScene uid => exact ⟨rfl, fun _ => rfl⟩
  | changeNumbers change => exact (changeNumbers_sameBeyondStore _ _ change).keepsRequest
  | changeTexts change => exact (changeTexts_sameBeyondStore _ _ change).keepsRequest
  | changeBooleans change => exact (changeBooleans_sameBeyondStore _ _ change).keepsRequest
  | changeLists change => exact (changeLists_sameBeyondStore _ _ change).keepsRequest
  | snippet source => exact (snippet_sameBeyondStore _ _ source).keepsRequest
  | showMessage text character wait =>
      simp only [perform, showMessage]
      split
      · exact .of_same rfl rfl
      · split
        · split <;> exact .of_same rfl rfl
        · split <;> exact .of_same rfl rfl
  | showChoices choices target =>
      simp only [perform, showChoices]
      split <;> exact .of_same rfl rfl
  | inputNumber target digits =>
      simp only [perform, inputNumber, openPrompt]
      split <;> exact .of_same rfl rfl
  | inputText target letters =>
      simp only [perform, inputText, openPrompt]
      split <;> exact .of_same rfl rfl
  | object kind slot timing action =>
      simp only [perform, actOnObject]
      split
      · exact .of_same rfl rfl
      · simp only [eraseObject, animateObject]
        split <;> split <;> exact .of_same rfl rfl
      · simp only [animateObject]
        split <;> exact .of_same rfl rfl
  | _ => exact .of_same rfl rfl

/-- A prompt that is not locked out waits for its answer. -/
theorem perform_answer {activation : Activation} {world : World} {instruction : Instruction}
    {reason : WaitReason} (asks : instruction.answer? = some reason)
    (free : activation.isLockedOut world = false) (id : String) :
    (activation.perform world id instruction).activation = activation.waitUntil reason ∧
      (activation.perform world id instruction).callee = none := by
  have unlocked : world.box.isLockedAgainst activation.context activation.callers = false :=
    free
  cases instruction <;> simp only [Instruction.answer?, reduceCtorEq, Option.some.injEq] at asks
  all_goals
    subst asks
    simp [perform, showChoices, inputNumber, inputText, openPrompt, MessageBox.lock?, free,
      unlocked]

/-- A call is allowed by the depth of calls, and the caller only comes to wait. -/
private theorem perform_called {activation : Activation} {world : World} {id : String}
    {instruction : Instruction} {callee : Activation}
    (called : (activation.perform world id instruction).callee = some callee) :
    ∃ context script, activation.mayCall = true ∧
      callee = activation.calleeOf context script ∧
      (activation.perform world id instruction).activation =
        activation.waitUntil .callee := by
  have use := activation.perform_use world id instruction
  cases use with
  | call context script allowed _ _ calls waits =>
      rw [calls] at called
      cases called
      exact ⟨context, script, allowed, rfl, waits⟩
  | apart _ _ none => simp [called] at none
  | speak _ _ _ _ none => simp [called] at none
  | ask _ _ _ _ none => simp [called] at none
  | giveUp _ _ none => simp [called] at none
  | spawn _ _ _ _ none => simp [called] at none

/-- An instruction that calls a script changes its run only by waiting for it. -/
theorem perform_call {activation : Activation} {world : World} {id : String}
    {instruction : Instruction} {callee : Activation}
    (called : (activation.perform world id instruction).callee = some callee) :
    (∃ context script, callee = activation.calleeOf context script) ∧
      (activation.perform world id instruction).activation =
        activation.waitUntil .callee := by
  obtain ⟨context, script, _, started, waits⟩ := perform_called called
  exact ⟨⟨context, script, started⟩, waits⟩

/-- A called script has one more caller, which the depth of calls allows. -/
theorem perform_depth {activation : Activation} {world : World} {id : String}
    {instruction : Instruction} {callee : Activation}
    (called : (activation.perform world id instruction).callee = some callee) :
    callee.callers.length = activation.callers.length + 1 ∧
      activation.callers.length + 1 < maxCallDepth := by
  obtain ⟨context, script, allowed, rfl, _⟩ := perform_called called
  refine ⟨?_, of_decide_eq_true allowed⟩
  show (activation.callers ++ [activation.context]).length = activation.callers.length + 1
  rw [List.length_append, List.length_singleton]

end Activation

end NovelEngine
