import NovelEngine.Engine.HostEvent
import NovelEngine.Proofs.Effect

/-!
Contract: what one instruction or event does to the other scripts of a game.

Owns:
- the instructions that call or spawn a script, and what exactly they leave behind;
- what every other instruction and every event spares: the scripts that are known and
  running, and the locals of every context but its own.

Does not own: the run of a called script.

A called or spawned script starts in a context made of its own id and the id of its
caller. The locals of that context are cleared, whoever else is using them.
-/

namespace NovelEngine

/-- Whether the instruction calls or spawns another script. -/
def Instruction.calls : Instruction → Bool
  | .callEvent .. => true
  | .callScene .. => true
  | _ => false

/-! ## Locals of other contexts -/

/-- The local variables of a context. -/
def World.locals (world : World) (context : Context) : Bank :=
  world.store.bank context .local

namespace Store

variable {context other : Context}

theorem bank_setBank_other (store : Store) (different : other ≠ context) (scope : Scope)
    (bank : Bank) :
    (store.setBank context scope bank).bank other .local = store.bank other .local := by
  match scope with
  | .local => simp [setBank, Store.bank, Registry.find?_insert_other _ _ different]
  | .global => rfl
  | .persistent => rfl
  | .temporary => rfl

@[simp] theorem bank_clearLocals_same (store : Store) (context : Context) :
    (store.clearLocals context).bank context .local = {} := by
  simp [clearLocals, Store.bank]

theorem bank_clearLocals_other (store : Store) (different : other ≠ context) :
    (store.clearLocals context).bank other .local = store.bank other .local := by
  simp [clearLocals, Store.bank, Registry.find?_erase_other _ different]

theorem bank_assign_other (store : Store) (different : other ≠ context)
    (reference : VariableRef) (value : Value) :
    (store.assign context reference value).bank other .local = store.bank other .local := by
  unfold assign
  split <;> exact bank_setBank_other _ different _ _

end Store

/-- What a script in `context` spares of the other scripts: it neither changes which
scripts are known and running, nor touches the locals of another context. -/
structure World.SparesOthers (context : Context) (before after : World) : Prop where
  board : after.board = before.board
  scenes : after.scenes = before.scenes
  spawned : after.spawned = before.spawned
  locals : ∀ {other}, other ≠ context → after.locals other = before.locals other

namespace World.SparesOthers

variable {context : Context}

theorem refl (world : World) : world.SparesOthers context world :=
  ⟨rfl, rfl, rfl, fun _ => rfl⟩

theorem trans {first second third : World} (left : first.SparesOthers context second)
    (right : second.SparesOthers context third) : first.SparesOthers context third where
  board := right.board.trans left.board
  scenes := right.scenes.trans left.scenes
  spawned := right.spawned.trans left.spawned
  locals := fun different => (right.locals different).trans (left.locals different)

theorem setBank (world : World) (scope : Scope) (bank : Bank) :
    world.SparesOthers context
      { world with store := world.store.setBank context scope bank } :=
  ⟨rfl, rfl, rfl, fun different => Store.bank_setBank_other _ different _ _⟩

end World.SparesOthers

/-! ## Instructions on variables -/

namespace Activation

variable (activation : Activation) (world : World)

private theorem yield_spares (source : NumberSource) (context : Context) :
    world.SparesOthers context (source.yield world context).2 := by
  cases source with
  | random first second =>
      simp only [NumberSource.yield, World.randomBetween]
      split <;> exact ⟨rfl, rfl, rfl, fun _ => rfl⟩
  | operand read => exact .refl world

private theorem changeNumbers_spares (change : NumberChange) :
    world.SparesOthers activation.context (activation.changeNumbers world change).world := by
  refine changeRange_keeps .refl .trans (fun slot world => ?_) _ _ _ _
  have yielded := yield_spares world change.source activation.context
  dsimp only
  split
  · exact yielded.trans (.setBank _ _ _)
  · exact yielded

private theorem runSnippet_spares {context : Context} {source text : String} {after : World}
    (ran : world.runSnippet context source = .ok (text, after)) :
    world.SparesOthers context after := by
  unfold World.runSnippet at ran
  split at ran
  · cases ran
    exact .setBank _ _ _
  · cases ran

private theorem changeTexts_spares (change : TextChange) :
    world.SparesOthers activation.context (activation.changeTexts world change).world := by
  unfold changeTexts
  split
  · exact .refl world
  · rename_i operand after yielded
    have computed : world.SparesOthers activation.context after := by
      unfold yieldText at yielded
      split at yielded
      · exact runSnippet_spares world yielded
      · cases yielded
        exact .refl world
      · cases yielded
        exact .refl world
    exact computed.trans
      (changeRange_keeps .refl .trans (fun _ _ => .setBank _ _ _) _ _ _ _)

private theorem changeLists_spares (change : ListChange) :
    world.SparesOthers activation.context (activation.changeLists world change).world := by
  unfold changeLists
  dsimp only
  split
  · exact .setBank _ _ _
  · exact .refl world

private theorem snippet_spares (source : String) :
    world.SparesOthers activation.context (activation.runSnippet world source).world := by
  unfold runSnippet
  split
  · rename_i ran
    exact runSnippet_spares world ran
  · exact .refl world

end Activation

/-! ## Instructions that start a script -/

/-- The context in which a script starts that is called or spawned from `activation`. -/
def Activation.contextUnder (activation : Activation) (id : String) : Context :=
  { id, owner := some activation.context.id }

/-- The world in which an event starts: the locals of its context hold the parameters
and nothing else, and one more run of it is on the board. -/
def World.enterEvent (world : World) (context : Context) (id : String)
    (parameters : List Value) : World :=
  { world with store :=
      (world.store.clearLocals context).setParameters context parameters }.activate id

/-- What an instruction can do to the other scripts. -/
inductive Calling (activation : Activation) (world : World) : Instruction → Outcome → Prop where
  | apart {instruction : Instruction} {outcome : Outcome}
      (spares : world.SparesOthers activation.context outcome.world)
      (callee : outcome.callee = none) : Calling activation world instruction outcome
  | spawnEvent {id : String} {parameters : List Value} {event : CommonEvent}
      {outcome : Outcome} (found : world.board.events.find? id = some event)
      (entered : outcome.world =
        (world.enterEvent (activation.contextUnder event.id) id parameters).spawn
          { context := activation.contextUnder event.id
            script := event.script : Activation }.start)
      (callee : outcome.callee = none) :
      Calling activation world (.callEvent id parameters false) outcome
  | callEvent {id : String} {parameters : List Value} {event : CommonEvent}
      {outcome : Outcome} (found : world.board.events.find? id = some event)
      (entered : outcome.world =
        world.enterEvent (activation.contextUnder event.id) id parameters)
      (callee : outcome.callee =
        some (activation.calleeOf (activation.contextUnder event.id) event.script)) :
      Calling activation world (.callEvent id parameters true) outcome
  | callScene {uid : String} {scene : Scene} {outcome : Outcome}
      (found : world.scenes.find? uid = some scene) (entered : outcome.world = world)
      (callee : outcome.callee =
        some (activation.calleeOf (activation.contextUnder scene.uid) scene.script)) :
      Calling activation world (.callScene uid) outcome

namespace Activation

variable (activation : Activation) (world : World)

private theorem callEvent_calling (id : String) (parameters : List Value) (wait : Bool) :
    Calling activation world (.callEvent id parameters wait)
      (activation.callEvent world id parameters wait) := by
  unfold callEvent
  split
  · exact .apart (.refl world) rfl
  · rename_i event found
    cases wait with
    | false => exact .spawnEvent found rfl rfl
    | true =>
        cases allowed : activation.mayCall with
        | false => exact .apart (.refl world) rfl
        | true => exact .callEvent found rfl rfl

private theorem callScene_calling (uid : String) :
    Calling activation world (.callScene uid) (activation.callScene world uid) := by
  unfold callScene
  split
  · exact .apart (.refl world) rfl
  · rename_i scene found
    split
    · exact .callScene found rfl rfl
    · exact .apart (.refl world) rfl

/-- An instruction that touches neither scripts nor variables. -/
private theorem calling_of_same {instruction : Instruction} {outcome : Outcome}
    (board : outcome.world.board = world.board) (scenes : outcome.world.scenes = world.scenes)
    (spawned : outcome.world.spawned = world.spawned)
    (store : outcome.world.store = world.store) (callee : outcome.callee = none) :
    Calling activation world instruction outcome := by
  refine .apart ⟨board, scenes, spawned, fun _ => ?_⟩ callee
  unfold World.locals
  rw [store]

private theorem followJump_calling (id : String) (name : Option String) :
    Calling activation world (.jumpToLabel name) (activation.followJump world id name) := by
  unfold followJump
  split
  · exact .apart (.refl world) rfl
  · split
    · exact .apart (.refl world) rfl
    · split <;> exact .apart (.refl world) rfl

private theorem showMessage_calling (text : Operand) (character : Option String)
    (wait : Option Bool) :
    Calling activation world (.showMessage text character wait)
      (activation.showMessage world text character wait) := by
  unfold showMessage
  split
  · exact .apart (.refl world) rfl
  · dsimp only
    split
    · split <;> exact calling_of_same _ _ rfl rfl rfl rfl rfl
    · split <;> exact calling_of_same _ _ rfl rfl rfl rfl rfl

private theorem showChoices_calling (choices : List ChoiceEntry) (target : Option VariableRef) :
    Calling activation world (.showChoices choices target)
      (activation.showChoices world choices target) := by
  unfold showChoices
  split
  · exact .apart (.refl world) rfl
  · exact calling_of_same _ _ rfl rfl rfl rfl rfl

private theorem openPrompt_calling {instruction : Instruction} (target : VariableRef)
    (content : Content) :
    Calling activation world instruction (activation.openPrompt world target content) := by
  unfold openPrompt
  split <;> exact calling_of_same _ _ rfl rfl rfl rfl rfl

private theorem animateObject_calling {instruction : Instruction} (kind : ObjectKind)
    (slot : Nat) (timing : Timing) (animation : Animation) :
    Calling activation world instruction
      (activation.animateObject world kind slot timing animation) := by
  unfold animateObject
  split <;> exact calling_of_same _ _ rfl rfl rfl rfl rfl

private theorem actOnObject_calling {instruction : Instruction} (kind : ObjectKind)
    (slot : Operand) (timing : Timing) (action : ObjectAction) :
    Calling activation world instruction
      (activation.actOnObject world kind slot timing action) := by
  unfold actOnObject
  dsimp only
  split
  · exact calling_of_same _ _ rfl rfl rfl rfl rfl
  · unfold eraseObject animateObject
    dsimp only
    split <;> split <;> exact calling_of_same _ _ rfl rfl rfl rfl rfl
  · exact animateObject_calling _ _ _ _ _ _

/-- Every instruction treats the other scripts in one of the listed ways. -/
theorem perform_calling (id : String) (instruction : Instruction) :
    Calling activation world instruction (activation.perform world id instruction) := by
  cases instruction with
  | loop => exact .apart (.refl world) rfl
  | breakLoop => exact .apart (.refl world) rfl
  | condition test => exact .apart (.refl world) rfl
  | conditionElse => exact .apart (.refl world) rfl
  | conditionElseIf test =>
      simp only [perform, testElseIf]
      split
      · exact .apart (.refl world) rfl
      · cases test with
        | none => exact .apart (.refl world) rfl
        | some test => exact .apart (.refl world) rfl
  | label => exact .apart (.refl world) rfl
  | jumpToLabel name => exact followJump_calling activation world id name
  | wait time =>
      simp only [perform, waitFrames]
      split <;> exact .apart (.refl world) rfl
  | callEvent event parameters wait =>
      exact callEvent_calling activation world event parameters wait
  | callScene uid => exact callScene_calling activation world uid
  | changeScene uid => exact calling_of_same _ _ rfl rfl rfl rfl rfl
  | exitEvent => exact .apart (.refl world) rfl
  | changeNumbers change => exact .apart (changeNumbers_spares _ _ _) rfl
  | changeTexts change =>
      refine .apart (changeTexts_spares _ _ _) ?_
      simp only [perform, changeTexts]
      split <;> rfl
  | changeBooleans change =>
      exact .apart (changeRange_keeps .refl .trans (fun _ _ => .setBank _ _ _) _ _ _ _) rfl
  | changeLists change =>
      refine .apart (changeLists_spares _ _ _) ?_
      simp only [perform, changeLists]
      split <;> rfl
  | showMessage text character wait =>
      exact showMessage_calling activation world text character wait
  | showChoices choices target => exact showChoices_calling activation world choices target
  | inputNumber target digits => exact openPrompt_calling _ _ _ _
  | inputText target letters => exact openPrompt_calling _ _ _ _
  | messageSettings autoErase waitAtEnd => exact .apart (.refl world) rfl
  | eraseMessage => exact calling_of_same _ _ rfl rfl rfl rfl rfl
  | playMusic channel name volume fadeIn => exact calling_of_same _ _ rfl rfl rfl rfl rfl
  | stopMusic channel fadeOut wait => exact calling_of_same _ _ rfl rfl rfl rfl rfl
  | playSound name => exact calling_of_same _ _ rfl rfl rfl rfl rfl
  | snippet source =>
      refine .apart (snippet_spares _ _ _) ?_
      simp only [perform, runSnippet]
      split <;> rfl
  | object kind slot timing action => exact actOnObject_calling _ _ _ _ _ _
  | shakeScreen range speed timing => exact calling_of_same _ _ rfl rfl rfl rfl rfl
  | malformed => exact .apart (.refl world) rfl

/-- Only calls have a called script. -/
theorem perform_callee_eq_none {instruction : Instruction}
    (callless : instruction.calls = false) (id : String) :
    (activation.perform world id instruction).callee = none := by
  cases activation.perform_calling world id instruction with
  | apart _ callee => exact callee
  | spawnEvent => cases callless
  | callEvent => cases callless
  | callScene => cases callless

end Activation

/-! ## Events -/

theorem Activation.takeChoice_spares (activation : Activation) (world : World) (index : Nat)
    (label : Option String) (target : Option VariableRef) :
    world.SparesOthers activation.context
      (activation.takeChoice world index label target).world := by
  unfold takeChoice
  cases target with
  | none =>
      cases label with
      | none => exact .refl world
      | some name =>
          dsimp only
          split <;> exact .refl world
  | some target =>
      cases label with
      | none => exact .setBank world _ _
      | some name =>
          dsimp only
          split <;> exact .setBank world _ _

/-- An event touches the run that hears it and the locals of its context only. -/
theorem Activation.deliver?_spares {activation : Activation} {world : World}
    {event : HostEvent} {delivery : Delivery}
    (delivered : activation.deliver? world event = some delivery) :
    world.SparesOthers activation.context delivery.world := by
  have erased : world.SparesOthers activation.context (activation.eraseIfAutomatic world) := by
    unfold eraseIfAutomatic
    split <;> exact ⟨rfl, rfl, rfl, fun _ => rfl⟩
  unfold deliver? at delivered
  split at delivered
  · cases delivered
    exact erased
  · split at delivered
    · cases delivered
    · cases delivered
      exact erased.trans (takeChoice_spares activation.clearWait _ _ _ _)
  · cases delivered
    exact ⟨rfl, rfl, rfl, fun different => Store.bank_assign_other _ different _ _⟩
  · cases delivered
    exact .refl world
  · cases delivered

theorem Thread.innermost_cons (root callee : Activation) (rest : List Activation) :
    Thread.innermost { root, callees := callee :: rest } =
      Thread.innermost { root := callee, callees := rest } := by
  cases rest with
  | nil => rfl
  | cons next later => simp [Thread.innermost, List.getLast?_cons]

/-- An event touches the innermost run of a thread only. -/
theorem Thread.notify?_spares {thread : Thread} {world : World} {event : HostEvent} {run : Run}
    (accepted : thread.notify? world event = some run) :
    world.SparesOthers thread.innermost.context run.world := by
  obtain ⟨root, callees⟩ := thread
  induction callees generalizing root run with
  | nil =>
      obtain ⟨delivery, delivered, rfl⟩ := Option.map_eq_some_iff.mp accepted
      exact Activation.deliver?_spares delivered
  | cons callee rest inductionHypothesis =>
      obtain ⟨inner, reached, rfl⟩ := Option.map_eq_some_iff.mp accepted
      have spares := inductionHypothesis callee reached
      rw [Thread.innermost_cons]
      exact spares

end NovelEngine
