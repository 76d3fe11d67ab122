import NovelEngine.Proofs.Suspension

/-!
Contract: runs that differ in their bookkeeping only behave alike.

Owns:
- the configuration, which no update changes;
- runs that differ at most in the state of the preview and the count of completions;
- the simulation of one such run by the other, as long as there is no preview.

Does not own: which runs a snapshot makes alike.
-/

namespace NovelEngine

/-! ## The configuration -/

/-- No instruction changes the configuration. -/
theorem Activation.perform_config (activation : Activation) (world : World) (id : String)
    (instruction : Instruction) :
    (activation.perform world id instruction).world.config = world.config :=
  (activation.perform_keepsRequest world id instruction).config

/-- Running a called script does not change the configuration. -/
def KeepsConfig (runCallee : CalleeRunner) : Prop :=
  ∀ callee world update, runCallee callee world = some update →
    update.world.config = world.config

/-- Running a command changes the configuration at most by running a called script. -/
theorem Handling.config {runCallee : CalleeRunner} {thread next : Thread}
    {world after : World}
    (keeps : KeepsConfig runCallee)
    (handling : Handling runCallee thread world next after) :
    after.config = world.config := by
  cases handling with
  | skip => rfl
  | ignore => rfl
  | perform _ _ _ performed =>
      subst performed
      exact Activation.perform_config _ _ _ _
  | call _ _ _ performed _ ran =>
      subst performed
      exact (keeps _ _ _ ran).trans (Activation.perform_config _ _ _ _)
  | callThrough _ _ _ performed _ ran =>
      subst performed
      exact (keeps _ _ _ ran).trans (Activation.perform_config _ _ _ _)

/-- The configuration stays through a frame if it does through the scripts called in it. -/
theorem lastsFrame_config {runCallee : CalleeRunner} (config : Config)
    (keeps : KeepsConfig runCallee) :
    LastsFrame runCallee (fun _ _ world => world.config = config) where
  reset := id
  start := fun same _ _ => same
  count := fun same _ _ => same
  unpark := fun same _ _ => same
  pass := by
    intro _ _ _ _ _ _ same _ step
    cases step with
    | pause => exact same
    | move handling => exact (handling.config keeps).trans same
  finish := fun same _ => same

theorem keepsConfig_advance (fuel room : Nat) : KeepsConfig (advance fuel room) := by
  induction room with
  | zero =>
      intro callee world update ran
      cases ran
  | succ room inductionHypothesis =>
      intro callee world update ran
      exact updateFrame_fact (lastsFrame_config world.config inductionHypothesis) none rfl ran

theorem Thread.update_config {thread : Thread} {fuel : Nat} {world : World} {update : Update}
    (updated : thread.update fuel world = some update) :
    update.world.config = world.config := by
  obtain ⟨root, callees⟩ := thread
  induction callees generalizing root update with
  | nil => exact keepsConfig_advance fuel _ _ _ _ updated
  | cons callee rest inductionHypothesis =>
      obtain ⟨inner, ran, _, ⟨_, _, same⟩ | ⟨_, _, same⟩⟩ := Thread.update_calling updated
      · rw [same]
        exact inductionHypothesis _ ran
      · rw [same]
        exact inductionHypothesis _ ran

/-! ## Bookkeeping -/

namespace Activation

/-- The same run with another preview state and another count of completions. -/
def tallied (activation : Activation) (preview : Preview) (completions : Nat) : Activation :=
  { activation with preview, completions }

variable (activation : Activation) (preview : Preview) (completions : Nat)

@[simp] theorem tallied_context :
    (activation.tallied preview completions).context = activation.context := rfl

@[simp] theorem tallied_script :
    (activation.tallied preview completions).script = activation.script := rfl

@[simp] theorem tallied_pointer :
    (activation.tallied preview completions).pointer = activation.pointer := rfl

@[simp] theorem tallied_indent :
    (activation.tallied preview completions).indent = activation.indent := rfl

@[simp] theorem tallied_labels :
    (activation.tallied preview completions).labels = activation.labels := rfl

@[simp] theorem tallied_settings :
    (activation.tallied preview completions).settings = activation.settings := rfl

@[simp] theorem tallied_callers :
    (activation.tallied preview completions).callers = activation.callers := rfl

@[simp] theorem tallied_isRunning :
    (activation.tallied preview completions).isRunning = activation.isRunning := rfl

@[simp] theorem tallied_waitCounter :
    (activation.tallied preview completions).waitCounter = activation.waitCounter := rfl

@[simp] theorem tallied_isWaitingForMessage :
    (activation.tallied preview completions).isWaitingForMessage =
      activation.isWaitingForMessage := rfl

@[simp] theorem tallied_condition (indent : Nat) :
    (activation.tallied preview completions).condition indent = activation.condition indent :=
  rfl

@[simp] theorem tallied_mayCall :
    (activation.tallied preview completions).mayCall = activation.mayCall := rfl

@[simp] theorem tallied_isLockedOut (world : World) :
    (activation.tallied preview completions).isLockedOut world =
      activation.isLockedOut world := rfl

@[simp] theorem tallied_enclosingLoop (indent : Nat) :
    (activation.tallied preview completions).enclosingLoop indent =
      activation.enclosingLoop indent := by
  refine enclosingLoop_congr ?_ indent
  rfl

/-- Without a preview its state does not decide whether waits are skipped. -/
theorem isInstantSkip_tallied {world : World} (off : world.config.preview = false) :
    (activation.tallied preview completions).isInstantSkip world =
      activation.isInstantSkip world := by
  simp [isInstantSkip, off]

theorem waitForCompletion_tallied {world : World} (off : world.config.preview = false)
    (duration : Nat) (requested : Bool) :
    (activation.tallied preview completions).waitForCompletion world duration requested =
      (activation.waitForCompletion world duration requested).tallied preview completions := by
  unfold waitForCompletion
  rw [isInstantSkip_tallied _ _ _ off]
  split <;> rfl

theorem settleIndent_tallied : (activation.tallied preview completions).settleIndent =
    activation.settleIndent.tallied preview completions := by
  have next : (activation.tallied preview completions).nextIndent = activation.nextIndent :=
    nextIndent_congr rfl rfl rfl rfl
  unfold settleIndent
  rw [next]
  dsimp only
  split
  · rename_i lower
    have lower : activation.nextIndent < activation.indent := lower
    rw [if_pos lower]
    rfl
  · rename_i deeper
    have deeper : ¬ activation.nextIndent < activation.indent := deeper
    rw [if_neg deeper]

theorem stepPast_tallied : (activation.tallied preview completions).stepPast =
    activation.stepPast.tallied preview completions := by
  unfold stepPast
  split
  · rename_i held
    have held : activation.holdPointer = true := held
    rw [if_pos held]
    rfl
  · rename_i free
    have free : ¬ activation.holdPointer = true := free
    rw [if_neg free]
    exact settleIndent_tallied { activation with pointer := activation.pointer + 1 } preview
      completions

theorem jumpToLabel_tallied (name : String) :
    (activation.tallied preview completions).jumpToLabel name =
      (activation.jumpToLabel name).map (tallied · preview completions) := by
  unfold jumpToLabel
  rw [tallied_labels, tallied_script]
  split
  · rfl
  · split <;> rfl

end Activation

/-- The outcome of the same instruction in a run with another bookkeeping. -/
def Outcome.tallied (outcome : Outcome) (preview : Preview) (completions : Nat) : Outcome :=
  { outcome with activation := outcome.activation.tallied preview completions }

namespace Activation

variable (activation : Activation) (preview : Preview) (completions : Nat) {world : World}

private theorem branch_tallied (holds : Bool) :
    (activation.tallied preview completions).branch holds =
      (activation.branch holds).tallied preview completions := by
  cases holds <;> rfl

private theorem branchElse_tallied :
    (activation.tallied preview completions).branchElse =
      activation.branchElse.tallied preview completions := by
  unfold branchElse
  rw [tallied_condition, tallied_indent]
  by_cases taken : activation.condition activation.indent = true
  · rw [if_pos taken, if_pos taken]
  · rw [if_neg taken, if_neg taken]
    rfl

private theorem followJump_tallied (id : String) (name : Option String) :
    (activation.tallied preview completions).followJump world id name =
      (activation.followJump world id name).tallied preview completions := by
  unfold followJump
  rw [tallied_script, tallied_pointer]
  cases activation.script.jumpTarget? activation.pointer with
  | some target => rfl
  | none =>
      cases name with
      | none => rfl
      | some name =>
          dsimp only
          rw [jumpToLabel_tallied]
          cases activation.jumpToLabel name <;> rfl

private theorem animateObject_tallied (off : world.config.preview = false) (kind : ObjectKind)
    (slot : Nat) (timing : Timing) (animation : Animation) :
    (activation.tallied preview completions).animateObject world kind slot timing animation =
      (activation.animateObject world kind slot timing animation).tallied preview
        completions := by
  unfold animateObject
  split
  · rfl
  · dsimp only
    rw [waitForCompletion_tallied]
    · rfl
    · exact off

private theorem actOnObject_tallied (off : world.config.preview = false) (kind : ObjectKind)
    (slot : Operand) (timing : Timing) (action : ObjectAction) :
    (activation.tallied preview completions).actOnObject world kind slot timing action =
      (activation.actOnObject world kind slot timing action).tallied preview completions := by
  unfold actOnObject
  rw [tallied_context]
  dsimp only
  split
  · unfold showObject
    rw [tallied_context]
    dsimp only
    rw [waitForCompletion_tallied]
    · rfl
    · exact off
  · unfold eraseObject
    rw [animateObject_tallied _ _ _ off]
    dsimp only
    split <;> rfl
  · exact animateObject_tallied _ _ _ off _ _ _ _

private theorem showMessage_tallied (off : world.config.preview = false) (text : Operand)
    (character : Option String) (wait : Option Bool) :
    (activation.tallied preview completions).showMessage world text character wait =
      (activation.showMessage world text character wait).tallied preview completions := by
  unfold showMessage
  rw [tallied_isLockedOut, isInstantSkip_tallied _ _ _ off, tallied_settings, tallied_context]
  split
  · rfl
  · dsimp only
    split
    · rfl
    · split <;> rfl

private theorem callEvent_tallied (id : String) (parameters : List Value) (wait : Bool) :
    (activation.tallied preview completions).callEvent world id parameters wait =
      (activation.callEvent world id parameters wait).tallied preview completions := by
  unfold callEvent
  rw [tallied_context, tallied_mayCall]
  split
  · rfl
  · split
    · rfl
    · cases wait <;> rfl

private theorem callScene_tallied (uid : String) :
    (activation.tallied preview completions).callScene world uid =
      (activation.callScene world uid).tallied preview completions := by
  unfold callScene
  rw [tallied_context, tallied_mayCall]
  split
  · rfl
  · split <;> rfl

private theorem changeTexts_tallied (change : TextChange) :
    (activation.tallied preview completions).changeTexts world change =
      (activation.changeTexts world change).tallied preview completions := by
  have same : (activation.tallied preview completions).yieldText world change.source =
      activation.yieldText world change.source := rfl
  unfold changeTexts
  rw [same]
  split <;> rfl

/-- Without a preview an instruction does the same whatever the bookkeeping. -/
theorem perform_tallied (off : world.config.preview = false) (id : String)
    (instruction : Instruction) :
    (activation.tallied preview completions).perform world id instruction =
      (activation.perform world id instruction).tallied preview completions := by
  cases instruction with
  | breakLoop =>
      simp only [perform, breakLoop, tallied_enclosingLoop, tallied_indent]
      rfl
  | jumpToLabel name => exact followJump_tallied _ _ _ id name
  | conditionElse =>
      simp only [perform]
      rw [branchElse_tallied]
      rfl
  | condition test =>
      simp only [perform, testCondition, tallied_context]
      rw [branch_tallied]
      rfl
  | conditionElseIf test =>
      simp only [perform, testElseIf]
      rw [tallied_condition, tallied_indent]
      by_cases taken : activation.condition activation.indent = true
      · rw [if_pos taken, if_pos taken]
        rfl
      · rw [if_neg taken, if_neg taken]
        cases test with
        | none => rfl
        | some test =>
            simp only [testCondition]
            rw [tallied_context, branch_tallied]
            rfl
  | wait time =>
      simp only [perform, waitFrames, isInstantSkip_tallied _ _ _ off, tallied_context]
      split <;> rfl
  | callEvent event parameters wait => exact callEvent_tallied _ _ _ event parameters wait
  | callScene uid => exact callScene_tallied _ _ _ uid
  | changeTexts change => exact changeTexts_tallied _ _ _ change
  | changeLists change =>
      simp only [perform, changeLists, tallied_context]
      split <;> rfl
  | showMessage text character wait => exact showMessage_tallied _ _ _ off text character wait
  | showChoices choices target =>
      simp only [perform, showChoices]
      rw [tallied_isLockedOut]
      split <;> rfl
  | inputNumber target digits =>
      simp only [perform, inputNumber, openPrompt, tallied_context, tallied_callers]
      split <;> rfl
  | inputText target letters =>
      simp only [perform, inputText, openPrompt, tallied_context, tallied_callers]
      split <;> rfl
  | stopMusic channel fadeOut wait =>
      simp only [perform, stopMusic]
      rw [waitForCompletion_tallied]
      · rfl
      · exact off
  | snippet source =>
      simp only [perform, runSnippet, tallied_context]
      split <;> rfl
  | object kind slot timing action => exact actOnObject_tallied _ _ _ off kind slot timing action
  | shakeScreen range speed timing =>
      simp only [perform, shakeScreen]
      rw [waitForCompletion_tallied]
      · rfl
      · exact off
  | _ => rfl

end Activation

/-! ## One command -/

/-- The same thread with another bookkeeping of its outermost run. -/
def Thread.tallied (thread : Thread) (preview : Preview) (completions : Nat) : Thread :=
  { thread with root := thread.root.tallied preview completions }

def Run.tallied (run : Run) (preview : Preview) (completions : Nat) : Run :=
  { run with thread := run.thread.tallied preview completions }

section Commands

variable (preview : Preview) (completions : Nat) {runCallee : CalleeRunner} {world : World}

theorem Outcome.resolve_tallied (outcome : Outcome) (callees : List Activation) :
    (outcome.tallied preview completions).resolve runCallee callees =
      (outcome.resolve runCallee callees).map (Run.tallied · preview completions) := by
  obtain ⟨activation, world, notices, failure, callee⟩ := outcome
  unfold Outcome.resolve
  cases callee with
  | none => rfl
  | some callee =>
      dsimp only [Outcome.tallied]
      cases ran : runCallee callee world with
      | none => rfl
      | some update =>
          simp only [receive]
          cases update.progress <;> rfl

theorem Thread.performAt_tallied (thread : Thread) (off : world.config.preview = false)
    (index : Nat) (command : Command) :
    (thread.tallied preview completions).performAt world runCallee index command =
      (thread.performAt world runCallee index command).map
        (Run.tallied · preview completions) := by
  have script : (thread.tallied preview completions).root.script = thread.root.script := rfl
  unfold Thread.performAt
  rw [script]
  cases thread.root.script.instruction? index with
  | none => rfl
  | some instruction =>
      have performed : (thread.tallied preview completions).root.perform world command.id
          instruction = (thread.root.perform world command.id instruction).tallied preview
            completions := Activation.perform_tallied _ _ _ off _ _
      have callees : (thread.tallied preview completions).callees = thread.callees := rfl
      dsimp only
      rw [performed, callees, Outcome.resolve_tallied]
      cases (thread.root.perform world command.id instruction).resolve runCallee
          thread.callees <;> rfl

/-- Without a preview a command does the same whatever the bookkeeping. -/
theorem Thread.execute_tallied (thread : Thread) (off : world.config.preview = false)
    (index : Nat) :
    (thread.tallied preview completions).execute world runCallee index =
      (thread.execute world runCallee index).map (Run.tallied · preview completions) := by
  unfold Thread.execute
  have script : (thread.tallied preview completions).root.script = thread.root.script := rfl
  have indent : (thread.tallied preview completions).root.indent = thread.root.indent := rfl
  dsimp only
  rw [script]
  cases thread.root.script.command? index with
  | none => rfl
  | some command =>
      dsimp only
      rw [off, indent, Thread.performAt_tallied _ _ _ off]
      simp only [Bool.false_and, Bool.false_eq_true, if_false]
      by_cases current : command.indent = thread.root.indent
      · rw [if_pos current, if_pos current]
        cases thread.performAt world runCallee index command with
        | none => rfl
        | some run =>
            dsimp only [Option.map_some]
            rw [show (run.tallied preview completions).thread.root.stepPast = _ from
              Activation.stepPast_tallied _ _ _]
            rfl
      · rw [if_neg current, if_neg current]
        dsimp only [Option.map_some]
        rw [show (thread.tallied preview completions).root.stepPast = _ from
          Activation.stepPast_tallied _ _ _]
        rfl

end Commands

/-! ## Whole updates -/

/-- Two threads whose outermost runs differ in their bookkeeping only, and which no preview
has paused. -/
def Thread.Alike (left right : Thread) : Prop :=
  left.root.preview.waiting = false ∧ ∃ preview completions, preview.waiting = false ∧
    right = left.tallied preview completions

structure Run.Alike (left right : Run) : Prop where
  thread : left.thread.Alike right.thread
  world : right.world = left.world
  notices : right.notices = left.notices

structure Update.Alike (left right : Update) : Prop where
  progress : right.progress = left.progress
  thread : left.thread.Alike right.thread
  world : right.world = left.world
  notices : right.notices = left.notices

theorem Thread.Alike.canStep {left right : Thread} (alike : left.Alike right) :
    right.root.canStep = left.root.canStep := by
  obtain ⟨plays, preview, completions, playsToo, rfl⟩ := alike
  have same : (left.tallied preview completions).root.preview.waiting =
      left.root.preview.waiting := playsToo.trans plays.symm
  unfold Activation.canStep
  rw [same]
  rfl

/-- Without a preview counting a command does the same whatever the bookkeeping. -/
theorem Thread.Alike.counted {left right : Thread} (alike : left.Alike right)
    {config : Config} (off : config.preview = false) (executed : Nat) :
    (left.counted config executed).Alike (right.counted config executed) ∧
      (right.root.yieldIfDue config executed).2 =
        (left.root.yieldIfDue config executed).2 := by
  obtain ⟨plays, preview, completions, playsToo, rfl⟩ := alike
  obtain ⟨root, callees⟩ := left
  cases waiting : root.isWaiting with
  | true =>
      have same : (root.tallied preview completions).isWaiting = true := waiting
      simp only [Thread.tallied, Thread.counted, Activation.counted, Activation.yieldIfDue,
        waiting, same, if_true, and_true]
      exact ⟨plays, { preview with executedCommands := 0 }, completions, playsToo, rfl⟩
  | false =>
      have same : (root.tallied preview completions).isWaiting = false := waiting
      simp only [Thread.tallied, Thread.counted, Activation.counted, Activation.yieldIfDue,
        waiting, same, off, Bool.false_eq_true, if_false]
      cases config.commandBudget with
      | none => exact ⟨⟨plays, preview, completions, playsToo, rfl⟩, rfl⟩
      | some budget =>
          dsimp only
          split
          · exact ⟨⟨plays, preview, completions, playsToo, rfl⟩, rfl⟩
          · exact ⟨⟨plays, preview, completions, playsToo, rfl⟩, rfl⟩

/-- A command that ran without a preview leaves the preview alone. -/
private theorem plays_of_execute {runCallee : CalleeRunner} {thread : Thread} {world : World}
    {run : Run} (able : thread.root.canStep = true) (off : world.config.preview = false)
    (executed : thread.execute world runCallee thread.root.pointer = some run) :
    run.thread.root.preview = thread.root.preview := by
  rcases Thread.execute_cases able executed with
    ⟨previewing, _⟩ | ⟨_, handled, handles, _, moved⟩
  · exact absurd (previewing.symm.trans off) (by decide)
  · obtain ⟨_, _, stepped⟩ := handled.thread.root.stepPast_eq
    rw [moved, stepped]
    exact (Thread.handle_cases handles).aside.2

section Updates

variable {runCallee : CalleeRunner}

theorem Thread.execute_config (keeps : KeepsConfig runCallee)
    {thread : Thread} {world : World} {run : Run} (able : thread.root.canStep = true)
    (executed : thread.execute world runCallee thread.root.pointer = some run) :
    run.world.config = world.config := by
  rcases Thread.execute_cases able executed with
    ⟨_, _, same, _⟩ | ⟨_, handled, handles, same, _⟩
  · rw [same]
  · rw [same]
    exact (Thread.handle_cases handles).config keeps

/-- The commands of an update do the same whatever the bookkeeping. -/
theorem runCommands_alike
    (keeps : KeepsConfig runCallee)
    {fuel executed : Nat} {left right : Thread} {world : World} {reported : List Notice}
    (alike : left.Alike right) (off : world.config.preview = false) :
    Option.Rel Run.Alike (runCommands runCallee fuel executed left world reported)
      (runCommands runCallee fuel executed right world reported) := by
  induction fuel generalizing executed left right world reported with
  | zero =>
      unfold runCommands
      rw [alike.canStep]
      split
      · exact .none
      · exact .some ⟨alike, rfl, rfl⟩
  | succ fuel inductionHypothesis =>
      cases able : left.root.canStep with
      | false =>
          rw [runCommands_of_unable able, runCommands_of_unable (alike.canStep.trans able)]
          exact .some ⟨alike, rfl, rfl⟩
      | true =>
          have able' := alike.canStep.trans able
          obtain ⟨plays, preview, completions, playsToo, rfl⟩ := alike
          have executes : (left.tallied preview completions).execute world runCallee
              left.root.pointer = _ :=
            Thread.execute_tallied preview completions left off left.root.pointer
          cases ran : left.execute world runCallee left.root.pointer with
          | none =>
              rw [ran] at executes
              have executes : (left.tallied preview completions).execute world runCallee
                (left.tallied preview completions).root.pointer = none := executes
              simp only [runCommands, able, able', if_true, ran, executes]
              exact .none
          | some run =>
              rw [ran] at executes
              have executes : (left.tallied preview completions).execute world runCallee
                (left.tallied preview completions).root.pointer =
                  some (run.tallied preview completions) := executes
              have next : run.thread.Alike (run.tallied preview completions).thread :=
                ⟨by rw [plays_of_execute able off ran]; exact plays, preview, completions,
                  playsToo, rfl⟩
              have offToo : run.world.config.preview = false := by
                rw [Thread.execute_config keeps able ran]
                exact off
              obtain ⟨counted, notices⟩ := next.counted offToo (executed + 1)
              rw [runCommands_step able ran, runCommands_step able' executes]
              have sameNotices : (run.tallied preview completions).notices = run.notices := rfl
              have sameWorld : (run.tallied preview completions).world = run.world := rfl
              rw [sameNotices, sameWorld, notices]
              exact inductionHypothesis counted offToo

theorem Thread.Alike.finish {left right : Thread} (alike : left.Alike right) (world : World)
    (notices : List Notice) : (left.finish world notices).Alike (right.finish world notices) := by
  obtain ⟨plays, preview, completions, playsToo, rfl⟩ := alike
  exact ⟨rfl, ⟨plays, preview, completions + 1, playsToo, rfl⟩, rfl, rfl⟩

theorem Thread.Alike.restartAtEnd {left right : Thread} (alike : left.Alike right) :
    left.restartAtEnd.Alike right.restartAtEnd := by
  obtain ⟨plays, preview, completions, playsToo, rfl⟩ := alike
  have restarts : ((left.tallied preview completions).root.isAtEnd &&
      (left.tallied preview completions).root.repeats) =
        (left.root.isAtEnd && left.root.repeats) := rfl
  unfold Thread.restartAtEnd
  rw [restarts]
  split
  · exact ⟨plays, { preview with executedCommands := 0 }, completions, playsToo, rfl⟩
  · exact ⟨plays, preview, completions, playsToo, rfl⟩

theorem Run.Alike.conclude {left right : Run} (alike : left.Alike right) :
    left.conclude.Alike right.conclude := by
  obtain ⟨left, world, notices⟩ := left
  obtain ⟨right, _, _⟩ := right
  obtain ⟨thread, sameWorld, sameNotices⟩ := alike
  cases sameWorld
  cases sameNotices
  have ends : right.root.endsHere = left.root.endsHere := by
    obtain ⟨_, preview, completions, _, rfl⟩ := thread
    rfl
  unfold Run.conclude
  dsimp only
  rw [ends]
  split
  · exact thread.finish world notices
  · exact ⟨rfl, thread.restartAtEnd, rfl, rfl⟩

private theorem conclude_rel {left right : Option Run}
    (alike : Option.Rel Run.Alike left right) :
    Option.Rel Update.Alike (left.map Run.conclude) (right.map Run.conclude) := by
  cases alike with
  | none => exact .none
  | some alike => exact .some alike.conclude

/-- A frame does the same whatever the bookkeeping. -/
theorem updateFrame_alike
    (keeps : KeepsConfig runCallee)
    {fuel : Nat} {left right : Activation} {world : World}
    (alike : Thread.Alike { root := left } { root := right })
    (off : world.config.preview = false) :
    Option.Rel Update.Alike (updateFrame fuel runCallee left world)
      (updateFrame fuel runCallee right world) := by
  have ends : right.endsHere = left.endsHere := by
    obtain ⟨_, preview, completions, _, equal⟩ := alike
    cases equal
    rfl
  have context : right.context = left.context := by
    obtain ⟨_, preview, completions, _, equal⟩ := alike
    cases equal
    rfl
  unfold updateFrame
  rw [context, ends]
  dsimp only
  split
  · exact .some (alike.finish _ _)
  · obtain ⟨plays, preview, completions, playsToo, equal⟩ := alike.restartAtEnd
    have root : (Thread.restartAtEnd { root := right }).root =
        (Thread.restartAtEnd { root := left }).root.tallied preview completions := by
      rw [equal]
      rfl
    rw [root]
    generalize (Thread.restartAtEnd { root := left }).root = next at plays
    have alike : Thread.Alike { root := next } { root := next.tallied preview completions } :=
      ⟨plays, preview, completions, playsToo, rfl⟩
    rw [Activation.tallied_isRunning, Activation.tallied_waitCounter,
      Activation.tallied_isWaitingForMessage, Activation.tallied_isLockedOut]
    split
    · exact .some ⟨rfl, alike, rfl, rfl⟩
    · split
      · exact .some ⟨rfl, ⟨plays, preview, completions, playsToo, rfl⟩, rfl, rfl⟩
      · split
        · exact .some ⟨rfl, alike, rfl, rfl⟩
        · have ready : Thread.Alike { root := next.unparked }
              { root := (next.tallied preview completions).unparked } := by
            unfold Activation.unparked
            rw [Activation.tallied_isWaitingForMessage]
            split
            · exact ⟨plays, preview, completions, playsToo, rfl⟩
            · exact alike
          exact conclude_rel (runCommands_alike keeps ready off)

end Updates

theorem Thread.Alike.callRoom {left right : Thread} (alike : left.Alike right) :
    right.root.callRoom = left.root.callRoom := by
  obtain ⟨_, preview, completions, _, rfl⟩ := alike
  rfl

/-- Without a preview an update does the same whatever the bookkeeping. -/
theorem Thread.Alike.update {left right : Thread} (alike : left.Alike right) {world : World}
    (off : world.config.preview = false) (fuel : Nat) :
    Option.Rel Update.Alike (left.update fuel world) (right.update fuel world) := by
  have room := alike.callRoom
  obtain ⟨plays, preview, completions, playsToo, rfl⟩ := alike
  obtain ⟨root, callees⟩ := left
  cases callees with
  | nil =>
      show Option.Rel Update.Alike (advance fuel root.callRoom root world)
        (advance fuel (root.tallied preview completions).callRoom
          (root.tallied preview completions) world)
      rw [show (root.tallied preview completions).callRoom = root.callRoom from room]
      cases root.callRoom with
      | zero => exact .none
      | succ room =>
          exact updateFrame_alike (keepsConfig_advance fuel room)
            ⟨plays, preview, completions, playsToo, rfl⟩ off
  | cons callee rest =>
      unfold Thread.update Thread.tallied
      unfold updateFrames
      dsimp only
      cases updateFrames fuel callee rest world with
      | none => exact .none
      | some update =>
          refine .some ⟨rfl, ?_, ?_, ?_⟩
          · unfold receive
            cases update.progress with
            | finished => exact ⟨plays, preview, completions, playsToo, rfl⟩
            | running => exact ⟨plays, preview, completions, playsToo, rfl⟩
          · unfold receive
            cases update.progress <;> rfl
          · unfold receive
            cases update.progress <;> rfl

/-! ## Events -/

theorem Activation.takeChoice_tallied (activation : Activation) (preview : Preview)
    (completions : Nat) (world : World) (index : Nat) (label : Option String)
    (target : Option VariableRef) :
    (activation.tallied preview completions).takeChoice world index label target =
      let delivery := activation.takeChoice world index label target
      { delivery with activation := delivery.activation.tallied preview completions } := by
  unfold takeChoice
  cases label with
  | none => rfl
  | some name =>
      dsimp only
      rw [jumpToLabel_tallied]
      cases activation.jumpToLabel name <;> rfl

theorem Activation.deliver?_tallied (activation : Activation) (preview : Preview)
    (completions : Nat) (world : World) (event : HostEvent) :
    (activation.tallied preview completions).deliver? world event =
      (activation.deliver? world event).map (fun delivery =>
        { delivery with activation := delivery.activation.tallied preview completions }) := by
  have reason : (activation.tallied preview completions).waitingFor = activation.waitingFor :=
    rfl
  unfold deliver?
  rw [reason]
  cases activation.waitingFor with
  | none => rfl
  | some reason =>
      cases reason with
      | choice labels target =>
          cases event with
          | choiceSelected index =>
              dsimp only
              cases labels[index]? with
              | none => rfl
              | some label =>
                  have cleared : (activation.tallied preview completions).clearWait =
                      activation.clearWait.tallied preview completions := rfl
                  dsimp only
                  rw [cleared, takeChoice_tallied]
                  rfl
          | _ => rfl
      | _ => cases event <;> rfl

/-- An event does the same whatever the bookkeeping. -/
theorem Thread.Alike.notify {left right : Thread} (alike : left.Alike right) (world : World)
    (event : HostEvent) :
    Option.Rel Run.Alike (left.notify? world event) (right.notify? world event) := by
  obtain ⟨plays, preview, completions, playsToo, rfl⟩ := alike
  obtain ⟨root, callees⟩ := left
  cases callees with
  | nil =>
      unfold Thread.notify? Thread.tallied
      unfold deliverInnermost?
      dsimp only
      rw [Activation.deliver?_tallied]
      cases delivered : root.deliver? world event with
      | none => exact .none
      | some delivery =>
          refine .some ⟨⟨?_, preview, completions, playsToo, rfl⟩, rfl, rfl⟩
          obtain ⟨_, same | ⟨labels, index, jumped⟩⟩ := Activation.deliver?_cases delivered
          · dsimp only
            rw [same]
            exact plays
          · dsimp only
            rw [jumped]
            exact plays
  | cons callee rest =>
      unfold Thread.notify? Thread.tallied
      unfold deliverInnermost?
      dsimp only
      cases deliverInnermost? event callee rest world with
      | none => exact .none
      | some run => exact .some ⟨⟨plays, preview, completions, playsToo, rfl⟩, rfl, rfl⟩

end NovelEngine
