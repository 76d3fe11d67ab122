import NovelEngine.Engine.Thread
import NovelEngine.Proofs.Effect

/-!
Contract: the course of an update, taken apart once.

Owns:
- what executing the command at the pointer can lead to;
- the states in which an update executes a command, and the commands it runs;
- the induction principle for facts that last through an update.

Does not own: any such fact.

A fact is lasting if each part of an update keeps it. It may speak of the command
that ran last, which no run stores.
-/

namespace NovelEngine

/-! ## One command -/

/-- Runs the command at the pointer if it stands at the current indent. The pointer does
not move yet. -/
def Thread.handle (thread : Thread) (world : World) (runCallee : CalleeRunner) : Option Run :=
  match thread.root.script.command? thread.root.pointer with
  | none => none
  | some command =>
      if command.indent = thread.root.indent then
        thread.performAt world runCallee thread.root.pointer command
      else some { thread, world }

/-- What running the command at the pointer can lead to, before the pointer moves. -/
inductive Handling (runCallee : CalleeRunner) (thread : Thread) (world : World) :
    Thread → World → Prop where
  | skip {command : Command}
      (found : thread.root.script.command? thread.root.pointer = some command)
      (differs : command.indent ≠ thread.root.indent) :
      Handling runCallee thread world thread world
  /-- Nothing handles the command. -/
  | ignore {command : Command}
      (found : thread.root.script.command? thread.root.pointer = some command)
      (current : command.indent = thread.root.indent)
      (unknown : thread.root.script.instruction? thread.root.pointer = none) :
      Handling runCallee thread world thread world
  | perform {command : Command} {instruction : Instruction} {outcome : Outcome}
      (found : thread.root.script.command? thread.root.pointer = some command)
      (current : command.indent = thread.root.indent)
      (decoded : thread.root.script.instruction? thread.root.pointer = some instruction)
      (performed : thread.root.perform world command.id instruction = outcome)
      (alone : outcome.callee = none) :
      Handling runCallee thread world { thread with root := outcome.activation } outcome.world
  /-- The called script came to rest before its end. -/
  | call {command : Command} {instruction : Instruction} {outcome : Outcome}
      {callee : Activation} {update : Update}
      (found : thread.root.script.command? thread.root.pointer = some command)
      (current : command.indent = thread.root.indent)
      (decoded : thread.root.script.instruction? thread.root.pointer = some instruction)
      (performed : thread.root.perform world command.id instruction = outcome)
      (called : outcome.callee = some callee)
      (ran : runCallee callee outcome.world = some update)
      (unfinished : update.progress = .running) :
      Handling runCallee thread world
        { root := outcome.activation
          callees := update.thread.root :: update.thread.callees } update.world
  /-- The called script ran to its end at once. -/
  | callThrough {command : Command} {instruction : Instruction} {outcome : Outcome}
      {callee : Activation} {update : Update}
      (found : thread.root.script.command? thread.root.pointer = some command)
      (current : command.indent = thread.root.indent)
      (decoded : thread.root.script.instruction? thread.root.pointer = some instruction)
      (performed : thread.root.perform world command.id instruction = outcome)
      (called : outcome.callee = some callee)
      (ran : runCallee callee outcome.world = some update)
      (finished : update.progress = .finished) :
      Handling runCallee thread world { root := outcome.activation.clearWait }
        (update.world.deactivate update.thread.root.context.id)

/-- What executing the command at the pointer can lead to. -/
inductive Step (runCallee : CalleeRunner) (thread : Thread) (world : World) :
    Thread → World → Prop where
  /-- The preview stops before the command. -/
  | pause (previewing : world.config.preview = true)
      (reached : thread.root.preview.cursor = some thread.root.pointer) :
      Step runCallee thread world
        { thread with root := { thread.root with
          preview := { thread.root.preview with cursor := none, waiting := true } } } world
  | move {next : Thread} {after : World}
      (handling : Handling runCallee thread world next after) :
      Step runCallee thread world { next with root := next.root.stepPast } after

theorem Activation.pointer_lt_of_canStep {activation : Activation}
    (able : activation.canStep = true) : activation.pointer < activation.script.size := by
  simp only [canStep, Bool.and_eq_true, decide_eq_true_eq] at able
  exact able.1.2

theorem Activation.isWaiting_of_canStep {activation : Activation}
    (able : activation.canStep = true) : activation.isWaiting = false := by
  simp only [canStep, Bool.and_eq_true, Bool.not_eq_true', Bool.or_eq_false_iff] at able
  exact able.1.1.1

theorem Activation.isRunning_of_canStep {activation : Activation}
    (able : activation.canStep = true) : activation.isRunning = true := by
  simp only [canStep, Bool.and_eq_true] at able
  exact able.2

theorem Script.command?_of_lt {script : Script} {index : Nat} (inside : index < script.size) :
    ∃ command, script.command? index = some command :=
  ⟨script.commands[index], Array.getElem?_eq_getElem inside⟩

theorem Thread.handle_cases {runCallee : CalleeRunner} {thread : Thread} {world : World}
    {run : Run} (handled : thread.handle world runCallee = some run) :
    Handling runCallee thread world run.thread run.world := by
  unfold Thread.handle at handled
  split at handled
  · cases handled
  · rename_i command found
    split at handled
    · rename_i current
      unfold Thread.performAt at handled
      split at handled
      · rename_i unknown
        cases handled
        exact .ignore found current unknown
      · rename_i instruction decoded
        dsimp only at handled
        unfold Outcome.resolve at handled
        split at handled
        · cases handled
        · rename_i resolved
          split at resolved
          · rename_i alone
            cases resolved
            cases handled
            exact .perform found current decoded rfl alone
          · rename_i callee called
            split at resolved
            · cases resolved
            · rename_i update ran
              cases resolved
              cases handled
              unfold receive
              split
              · rename_i finished
                exact .callThrough found current decoded rfl called ran finished
              · rename_i unfinished
                exact .call found current decoded rfl called ran unfinished
    · rename_i differs
      cases handled
      exact .skip found differs

/-- A run that can execute a command pauses before it, or runs it and steps past it. -/
theorem Thread.execute_cases {runCallee : CalleeRunner} {thread : Thread} {world : World}
    {run : Run} (able : thread.root.canStep = true)
    (executed : thread.execute world runCallee thread.root.pointer = some run) :
    world.config.preview = true ∧ thread.root.preview.cursor = some thread.root.pointer ∧
        run.world = world ∧ run.thread = { thread with root := { thread.root with
          preview := { thread.root.preview with cursor := none, waiting := true } } } ∨
      ¬ (world.config.preview = true ∧
          thread.root.preview.cursor = some thread.root.pointer) ∧
        ∃ handled, thread.handle world runCallee = some handled ∧ run.world = handled.world ∧
          run.thread = { handled.thread with root := handled.thread.root.stepPast } := by
  obtain ⟨command, found⟩ :=
    Script.command?_of_lt (Activation.pointer_lt_of_canStep able)
  unfold Thread.execute at executed
  unfold Thread.handle
  simp only [found] at executed ⊢
  split at executed
  · rename_i paused
    simp only [Bool.and_eq_true, decide_eq_true_eq] at paused
    cases executed
    exact .inl ⟨paused.1, paused.2, rfl, rfl⟩
  · rename_i plays
    simp only [Bool.and_eq_true, decide_eq_true_eq] at plays
    split at executed
    · cases executed
    · rename_i handled handles
      cases executed
      exact .inr ⟨plays, handled, handles, rfl, rfl⟩

theorem Thread.execute_step {runCallee : CalleeRunner} {thread : Thread} {world : World}
    {run : Run} (able : thread.root.canStep = true)
    (executed : thread.execute world runCallee thread.root.pointer = some run) :
    Step runCallee thread world run.thread run.world := by
  rcases Thread.execute_cases able executed with
    ⟨previewing, reached, world, thread⟩ | ⟨_, handled, handles, world, thread⟩
  · rw [world, thread]
    exact .pause previewing reached
  · rw [world, thread]
    exact .move (Thread.handle_cases handles)

/-- Running a command leaves the thread with the same outermost run. -/
theorem Handling.sameRun {runCallee : CalleeRunner} {thread next : Thread}
    {world after : World} (handling : Handling runCallee thread world next after) :
    thread.root.SameRun next.root := by
  cases handling with
  | skip => exact .refl _
  | ignore => exact .refl _
  | perform _ _ _ performed =>
      subst performed
      exact (Activation.perform_effect _ _ _ _).sameRun
  | call _ _ _ performed =>
      subst performed
      exact (Activation.perform_effect _ _ _ _).sameRun
  | callThrough _ _ _ performed =>
      subst performed
      exact (Activation.perform_effect _ _ _ _).sameRun.trans ⟨rfl, rfl, rfl, rfl⟩

/-- Running a command neither stops a run nor touches the preview. -/
theorem Handling.aside {runCallee : CalleeRunner} {thread next : Thread}
    {world after : World} (handling : Handling runCallee thread world next after) :
    next.root.isRunning = thread.root.isRunning ∧
      next.root.preview = thread.root.preview := by
  cases handling with
  | skip => exact ⟨rfl, rfl⟩
  | ignore => exact ⟨rfl, rfl⟩
  | perform _ _ _ performed =>
      subst performed
      exact (Activation.perform_effect _ _ _ _).aside
  | call _ _ _ performed =>
      subst performed
      exact (Activation.perform_effect _ _ _ _).aside
  | callThrough _ _ _ performed called =>
      subst performed
      rw [(Activation.perform_call called).2]
      exact ⟨rfl, rfl⟩

/-- A step past a command changes the position only. -/
theorem Activation.stepPast_eq (activation : Activation) :
    ∃ pointer indent, activation.stepPast =
      { activation with pointer, indent, holdPointer := false } := by
  unfold stepPast settleIndent
  dsimp only
  split
  · exact ⟨activation.pointer, activation.indent, rfl⟩
  · rename_i free
    have free : activation.holdPointer = false := by simpa using free
    split
    · exact ⟨_, _, by rw [free]⟩
    · exact ⟨_, _, by rw [free]⟩

theorem Activation.stepPast_sameRun (activation : Activation) :
    activation.SameRun activation.stepPast := by
  obtain ⟨pointer, indent, equal⟩ := activation.stepPast_eq
  rw [equal]
  exact ⟨rfl, rfl, rfl, rfl⟩

theorem Step.sameRun {runCallee : CalleeRunner} {thread next : Thread} {world after : World}
    (step : Step runCallee thread world next after) : thread.root.SameRun next.root := by
  cases step with
  | pause => exact ⟨rfl, rfl, rfl, rfl⟩
  | move handling => exact handling.sameRun.trans (Activation.stepPast_sameRun _)

theorem Step.sameRunning {runCallee : CalleeRunner} {thread next : Thread}
    {world after : World} (step : Step runCallee thread world next after) :
    next.root.isRunning = thread.root.isRunning := by
  cases step with
  | pause => rfl
  | @move next _ handling =>
      obtain ⟨pointer, indent, moved⟩ := next.root.stepPast_eq
      rw [moved]
      exact handling.aside.1

/-- A command at another indent is stepped over. -/
theorem Thread.execute_skip {runCallee : CalleeRunner} {thread : Thread} {world : World}
    {command : Command}
    (found : thread.root.script.command? thread.root.pointer = some command)
    (differs : command.indent ≠ thread.root.indent)
    (unpaused : thread.root.preview.cursor = none) :
    thread.execute world runCallee thread.root.pointer =
      some { thread := { thread with root := thread.root.stepPast }, world } := by
  simp [Thread.execute, found, differs, unpaused]

/-- An instruction that calls no script is followed by a step. -/
theorem Thread.execute_perform {runCallee : CalleeRunner} {thread : Thread} {world : World}
    {command : Command} {instruction : Instruction}
    (found : thread.root.script.command? thread.root.pointer = some command)
    (current : command.indent = thread.root.indent)
    (decoded : thread.root.script.instruction? thread.root.pointer = some instruction)
    (unpaused : thread.root.preview.cursor = none)
    (alone : (thread.root.perform world command.id instruction).callee = none) :
    ∃ notices, thread.execute world runCallee thread.root.pointer = some {
      thread := { thread with
        root := (thread.root.perform world command.id instruction).activation.stepPast }
      world := (thread.root.perform world command.id instruction).world
      notices } := by
  simp [Thread.execute, found, current, unpaused, Thread.performAt, decoded, Outcome.resolve,
    alone]

/-- An instruction that fails and does nothing to its run is reported and followed by a step. -/
theorem Thread.execute_failed {thread : Thread} {world after : World} (runCallee : CalleeRunner)
    {index : Nat} {command : Command} {instruction : Instruction} {error : Error}
    (found : thread.root.script.command? index = some command)
    (current : command.indent = thread.root.indent)
    (plays : world.config.preview = true → thread.root.preview.cursor ≠ some index)
    (decoded : thread.root.script.instruction? index = some instruction)
    (failed : thread.root.perform world command.id instruction =
      { activation := thread.root, world := after, failure := some error }) :
    thread.execute world runCallee index = some {
      thread := { thread with root := thread.root.stepPast }
      world := after
      notices := [.commandFailed thread.root.context command.id index error] } := by
  have unpaused : ¬ ((world.config.preview && thread.root.preview.cursor = some index) = true) := by
    simpa using plays
  simp only [Thread.execute, found, unpaused, current, if_true, Thread.performAt,
    decoded, failed, Outcome.resolve, failureNotices, List.nil_append]
  rfl

/-! ## The commands of one update -/

/-- The run after a command has been counted, which yields if it has run too many. -/
def Activation.counted (activation : Activation) (config : Config) (executed : Nat) :
    Activation :=
  (activation.yieldIfDue config executed).1

/-- A run that has come to wait does not yield. -/
theorem Activation.yieldIfDue_of_waiting {activation : Activation}
    (waiting : activation.isWaiting = true) (config : Config) (executed : Nat) :
    activation.yieldIfDue config executed =
      ({ activation with preview := { activation.preview with executedCommands := 0 } }, []) := by
  simp [yieldIfDue, waiting]

/-- Counting a command changes the preview counter and may suspend a run for a frame. -/
theorem Activation.counted_cases (activation : Activation) (config : Config)
    (executed : Nat) :
    ∃ count, activation.counted config executed =
        { activation with preview := { activation.preview with executedCommands := count } } ∨
      activation.isWaiting = false ∧ activation.counted config executed =
        { activation with
          preview := { activation.preview with executedCommands := count }
          waitCounter := 1
          isWaiting := true } := by
  unfold counted yieldIfDue
  dsimp only
  split
  · exact ⟨0, .inl rfl⟩
  · rename_i awake
    have awake : activation.isWaiting = false := by simpa using awake
    split
    · split
      · exact ⟨0, .inr ⟨awake, rfl⟩⟩
      · exact ⟨_, .inl rfl⟩
    · split
      · split
        · exact ⟨activation.preview.executedCommands, .inr ⟨awake, rfl⟩⟩
        · exact ⟨activation.preview.executedCommands, .inl rfl⟩
      · exact ⟨activation.preview.executedCommands, .inl rfl⟩

/-- Counting a command leaves everything but the wait and the preview counter alone. -/
theorem Activation.counted_eq (activation : Activation) (config : Config) (executed : Nat) :
    ∃ count frames waiting, activation.counted config executed =
      { activation with
        preview := { activation.preview with executedCommands := count }
        waitCounter := frames
        isWaiting := waiting } := by
  obtain ⟨count, equal | ⟨_, equal⟩⟩ := activation.counted_cases config executed
  · exact ⟨count, _, _, equal⟩
  · exact ⟨count, _, _, equal⟩

theorem Activation.counted_sameRun (activation : Activation) (config : Config)
    (executed : Nat) : activation.SameRun (activation.counted config executed) := by
  obtain ⟨_, _, _, equal⟩ := activation.counted_eq config executed
  rw [equal]
  exact ⟨rfl, rfl, rfl, rfl⟩

/-- The thread after a command has been counted. -/
def Thread.counted (thread : Thread) (config : Config) (executed : Nat) : Thread :=
  { thread with root := thread.root.counted config executed }

/-- The states in which `runCommands` executes a command, in order. -/
def commandVisits (runCallee : CalleeRunner) :
    (fuel executed : Nat) → Thread → World → List (Thread × World)
  | 0, _, _, _ => []
  | fuel + 1, executed, thread, world =>
      if thread.root.canStep then
        (thread, world) ::
          match thread.execute world runCallee thread.root.pointer with
          | none => []
          | some run =>
              commandVisits runCallee fuel (executed + 1)
                (run.thread.counted run.world.config (executed + 1)) run.world
      else []

theorem commandVisits_step {runCallee : CalleeRunner} {fuel executed : Nat}
    {thread : Thread} {world : World} {run : Run} (able : thread.root.canStep = true)
    (executes : thread.execute world runCallee thread.root.pointer = some run) :
    commandVisits runCallee (fuel + 1) executed thread world =
      (thread, world) :: commandVisits runCallee fuel (executed + 1)
        (run.thread.counted run.world.config (executed + 1)) run.world := by
  simp only [commandVisits, able, if_true, executes]

theorem runCommands_step {runCallee : CalleeRunner} {fuel executed : Nat} {thread : Thread}
    {world : World} {reported : List Notice} {run : Run} (able : thread.root.canStep = true)
    (executes : thread.execute world runCallee thread.root.pointer = some run) :
    runCommands runCallee (fuel + 1) executed thread world reported =
      runCommands runCallee fuel (executed + 1)
        (run.thread.counted run.world.config (executed + 1)) run.world
        ((run.thread.root.yieldIfDue run.world.config (executed + 1)).2.reverse ++
          run.notices.reverse ++ reported) := by
  simp only [runCommands, able, if_true, executes]
  rfl

theorem runCommands_of_unable {runCallee : CalleeRunner} {fuel executed : Nat}
    {thread : Thread} {world : World} {reported : List Notice}
    (unable : thread.root.canStep = false) :
    runCommands runCallee fuel executed thread world reported =
      some { thread, world, notices := reported.reverse } := by
  cases fuel <;> simp [runCommands, unable]

theorem commandVisits_of_unable {runCallee : CalleeRunner} {fuel executed : Nat}
    {thread : Thread} {world : World} (unable : thread.root.canStep = false) :
    commandVisits runCallee fuel executed thread world = [] := by
  cases fuel <;> simp [commandVisits, unable]

/-- Whether the command at the pointer runs when it is executed: it stands at the
current indent and the preview does not stop before it. -/
def Activation.runsNext (activation : Activation) (world : World) : Bool :=
  match activation.script.command? activation.pointer with
  | none => false
  | some command =>
      decide (command.indent = activation.indent) &&
        !(world.config.preview && activation.preview.cursor = some activation.pointer)

/-- The command that ran last, once the command at the pointer has been executed. -/
def Activation.lastAfter (activation : Activation) (world : World) (last : Option Nat) :
    Option Nat :=
  if activation.runsNext world then some activation.pointer else last

/-- The commands that ran in the visited states, in order. -/
def ranCommands (visits : List (Thread × World)) : List Nat :=
  visits.filterMap (fun visit =>
    if visit.1.root.runsNext visit.2 then some visit.1.root.pointer else none)

/-- The command that ran last after the visited states, if `last` was so before. -/
def lastRan (last : Option Nat) (visits : List (Thread × World)) : Option Nat :=
  (ranCommands visits).getLast?.or last

@[simp] theorem lastRan_nil (last : Option Nat) : lastRan last [] = last := rfl

theorem lastRan_cons (last : Option Nat) (thread : Thread) (world : World)
    (visits : List (Thread × World)) :
    lastRan last ((thread, world) :: visits) =
      lastRan (thread.root.lastAfter world last) visits := by
  unfold lastRan ranCommands Activation.lastAfter
  by_cases runs : thread.root.runsNext world = true
  · simp [runs, List.getLast?_cons]
  · simp [runs]

theorem ranCommands_of_runsNext {thread : Thread} {world : World}
    (runs : thread.root.runsNext world = true) (visits : List (Thread × World)) :
    (ranCommands ((thread, world) :: visits)).head? = some thread.root.pointer := by
  simp [ranCommands, runs]

theorem ranCommands_of_skips {thread : Thread} {world : World}
    (skips : thread.root.runsNext world = false) (visits : List (Thread × World)) :
    ranCommands ((thread, world) :: visits) = ranCommands visits := by
  simp [ranCommands, skips]

/-- A run that stands at the indent of its next command runs that command first. -/
theorem ranCommands_commandVisits {runCallee : CalleeRunner} {fuel executed : Nat}
    {thread : Thread} {world : World}
    (current : ∀ command, thread.root.script.command? thread.root.pointer = some command →
      command.indent = thread.root.indent)
    (unpaused : thread.root.preview.cursor = none) {index : Nat}
    (first : (ranCommands (commandVisits runCallee fuel executed thread world)).head? =
      some index) : index = thread.root.pointer := by
  cases able : thread.root.canStep with
  | false =>
      rw [commandVisits_of_unable able] at first
      cases first
  | true =>
      cases fuel with
      | zero => cases first
      | succ fuel =>
          obtain ⟨command, found⟩ :=
            Script.command?_of_lt (Activation.pointer_lt_of_canStep able)
          have runs : thread.root.runsNext world = true := by
            simp [Activation.runsNext, found, current command found, unpaused]
          unfold commandVisits at first
          rw [if_pos able, ranCommands_of_runsNext runs] at first
          exact (Option.some.inj first).symm

section Commands

variable {runCallee : CalleeRunner} (Fact : Option Nat → Thread → World → Prop)

/-- A fact that every command keeps holds in all visited states. -/
theorem commandVisits_fact
    (pass : ∀ {last thread world next after executed}, Fact last thread world →
      thread.root.canStep = true → Step runCallee thread world next after →
      Fact (thread.root.lastAfter world last) (next.counted after.config executed) after)
    {fuel executed : Nat} {last : Option Nat} {thread : Thread} {world : World}
    (holds : Fact last thread world) {visit : Thread × World}
    (visited : visit ∈ commandVisits runCallee fuel executed thread world) :
    (∃ last, Fact last visit.1 visit.2) ∧ visit.1.root.canStep = true := by
  induction fuel generalizing executed last thread world with
  | zero => simp [commandVisits] at visited
  | succ fuel inductionHypothesis =>
      unfold commandVisits at visited
      split at visited
      · rename_i able
        rcases List.mem_cons.mp visited with here | later
        · subst here
          exact ⟨⟨last, holds⟩, able⟩
        · split at later
          · simp at later
          · rename_i run executes
            exact inductionHypothesis (pass holds able (Thread.execute_step able executes)) later
      · simp at visited

/-- A fact that every command keeps holds when the commands of an update are done. -/
theorem runCommands_fact
    (pass : ∀ {last thread world next after executed}, Fact last thread world →
      thread.root.canStep = true → Step runCallee thread world next after →
      Fact (thread.root.lastAfter world last) (next.counted after.config executed) after)
    {fuel executed : Nat} {last : Option Nat} {thread : Thread} {world : World}
    {reported : List Notice} {run : Run} (holds : Fact last thread world)
    (ran : runCommands runCallee fuel executed thread world reported = some run) :
    Fact (lastRan last (commandVisits runCallee fuel executed thread world))
      run.thread run.world := by
  induction fuel generalizing executed last thread world reported with
  | zero =>
      unfold runCommands at ran
      split at ran
      · cases ran
      · cases ran
        exact holds
  | succ fuel inductionHypothesis =>
      unfold runCommands at ran
      split at ran
      · rename_i able
        split at ran
        · cases ran
        · rename_i run executes
          rw [commandVisits_step able executes, lastRan_cons]
          exact inductionHypothesis (pass holds able (Thread.execute_step able executes)) ran
      · rename_i unable
        cases ran
        rw [commandVisits_of_unable (Bool.not_eq_true _ ▸ unable)]
        exact holds

end Commands

/-- The commands of an update leave the thread with the same outermost run. -/
theorem runCommands_sameRun {runCallee : CalleeRunner} {fuel executed : Nat} {thread : Thread}
    {world : World} {reported : List Notice} {run : Run}
    (ran : runCommands runCallee fuel executed thread world reported = some run) :
    thread.root.SameRun run.thread.root := by
  have pass {before next : Thread} {config : Config} {executed : Nat}
      (same : thread.root.SameRun before.root) (step : before.root.SameRun next.root) :
      thread.root.SameRun (next.counted config executed).root :=
    (same.trans step).trans (Activation.counted_sameRun _ _ _)
  exact @runCommands_fact runCallee (fun _ next _ => thread.root.SameRun next.root)
    (fun same _ step => pass same step.sameRun) fuel executed none _ _ _ _ (.refl _) ran

/-! ## Small facts about the parts of an update -/

namespace Activation

@[simp] theorem stepPast_isWaiting (activation : Activation) :
    activation.stepPast.isWaiting = activation.isWaiting := by
  obtain ⟨pointer, indent, equal⟩ := activation.stepPast_eq
  rw [equal]

theorem counted_isWaiting {activation : Activation} (waiting : activation.isWaiting = true)
    (config : Config) (executed : Nat) :
    (activation.counted config executed).isWaiting = true := by
  obtain ⟨count, equal | ⟨awake, _⟩⟩ := activation.counted_cases config executed
  · rw [equal]
    exact waiting
  · rw [waiting] at awake
    cases awake

/-- A repeating script at its end starts over. -/
def restarted (activation : Activation) : Activation :=
  if activation.isAtEnd && activation.repeats then activation.start else activation

/-- One frame less to wait. -/
def countDown (activation : Activation) : Activation :=
  { activation with
    waitCounter := activation.waitCounter - 1
    isWaiting := 0 < activation.waitCounter - 1 }

/-- A run that waited for the message box is about to execute its command again. -/
def unparked (activation : Activation) : Activation :=
  if activation.isWaitingForMessage then
    { activation with isWaitingForMessage := false, isWaiting := false }
  else activation

def finished (activation : Activation) : Activation :=
  { activation with isRunning := false, completions := activation.completions + 1 }

/-- Whether a frame passes without any command: the run is stopped, counts down or
waits for the message box. -/
def rests (activation : Activation) (world : World) : Bool :=
  !activation.isRunning || 0 < activation.waitCounter ||
    (activation.isWaitingForMessage && activation.isLockedOut world)

theorem isWaiting_of_isAtEnd {activation : Activation} (atEnd : activation.isAtEnd = true) :
    activation.isWaiting = false := by
  simp only [isAtEnd, Bool.not_eq_true', Bool.or_eq_false_iff] at atEnd
  exact atEnd.1.2

theorem isAtEnd_of_endsHere {activation : Activation} (ends : activation.endsHere = true) :
    activation.isAtEnd = true := by
  simp only [endsHere, Bool.and_eq_true] at ends
  exact ends.1

end Activation

/-- The states in which one frame of a run that waits for no other script executes a
command. -/
def frameVisits (fuel : Nat) (runCallee : CalleeRunner) (activation : Activation)
    (world : World) : List (Thread × World) :=
  let world := world.resetTemporaries activation.context
  if activation.endsHere || activation.restarted.rests world then []
  else commandVisits runCallee fuel 0 { root := activation.restarted.unparked } world

/-- The states in which an update executes a command of the outermost run. While that
run waits for a called script there are none. -/
def Thread.visits (thread : Thread) (fuel : Nat) (world : World) : List (Thread × World) :=
  match thread.callees with
  | [] => frameVisits fuel (thread.calleeRunner fuel) thread.root world
  | _ :: _ => []

theorem Thread.restartAtEnd_root (activation : Activation) :
    (Thread.restartAtEnd { root := activation }).root = activation.restarted := by
  unfold Thread.restartAtEnd Activation.restarted Thread.start
  split <;> rfl

/-- A frame that neither ends the run nor passes executes commands, of a script at its end
from the top. -/
theorem updateFrame_of_moves {fuel : Nat} {runCallee : CalleeRunner} {activation : Activation}
    {world : World} (goes : activation.endsHere = false)
    (moves : activation.restarted.rests (world.resetTemporaries activation.context) = false) :
    updateFrame fuel runCallee activation world =
      (runCommands runCallee fuel 0 { root := activation.restarted.unparked }
        (world.resetTemporaries activation.context) []).map Run.conclude := by
  simp only [Activation.rests, Bool.or_eq_false_iff, Bool.not_eq_false',
    decide_eq_false_iff_not] at moves
  obtain ⟨⟨running, done⟩, free⟩ := moves
  simp [updateFrame, goes, Thread.restartAtEnd_root, running, done, free, Activation.unparked]

/-- A frame that neither ends the run nor passes executes commands. -/
theorem updateFrame_of_goes {fuel : Nat} {runCallee : CalleeRunner} {activation : Activation}
    {world : World} (goes : activation.isAtEnd = false)
    (moves : activation.rests (world.resetTemporaries activation.context) = false) :
    updateFrame fuel runCallee activation world =
      (runCommands runCallee fuel 0 { root := activation.unparked }
        (world.resetTemporaries activation.context) []).map Run.conclude := by
  have stays : activation.restarted = activation := by simp [Activation.restarted, goes]
  have unended : activation.endsHere = false := by simp [Activation.endsHere, goes]
  rw [updateFrame_of_moves unended (stays.symm ▸ moves), stays]

theorem frameVisits_of_goes {fuel : Nat} {runCallee : CalleeRunner} {activation : Activation}
    {world : World} (goes : activation.isAtEnd = false)
    (moves : activation.rests (world.resetTemporaries activation.context) = false) :
    frameVisits fuel runCallee activation world =
      commandVisits runCallee fuel 0 { root := activation.unparked }
        (world.resetTemporaries activation.context) := by
  simp [frameVisits, Activation.endsHere, Activation.restarted, goes, moves]

/-- A started run executes commands from the top. -/
theorem Thread.visits_start {activation : Activation} (nonempty : 0 < activation.script.size)
    (fuel : Nat) (world : World) :
    Thread.visits { root := activation.start } fuel world =
      commandVisits (Thread.calleeRunner { root := activation.start } fuel) fuel 0
        { root := activation.start } (world.resetTemporaries activation.context) := by
  have goes : activation.start.isAtEnd = false := by
    simp [Activation.isAtEnd, Activation.start, nonempty]
  exact frameVisits_of_goes goes rfl

/-- A frame ends the run, passes without any command, or executes commands. -/
theorem updateFrame_cases {fuel : Nat} {runCallee : CalleeRunner} {activation : Activation}
    {world : World} {update : Update}
    (updated : updateFrame fuel runCallee activation world = some update) :
    activation.endsHere = true ∧ update = Thread.finish { root := activation }
        (world.resetTemporaries activation.context) [] ∨
      activation.endsHere = false ∧
        (activation.restarted.rests (world.resetTemporaries activation.context) = true ∧
          update.progress = .running ∧
          update.world = world.resetTemporaries activation.context ∧
          (update.thread = { root := activation.restarted } ∨
            activation.restarted.isRunning = true ∧ 0 < activation.restarted.waitCounter ∧
            update.thread = { root := activation.restarted.countDown }) ∨
        activation.restarted.rests (world.resetTemporaries activation.context) = false ∧
          ∃ run, runCommands runCallee fuel 0 { root := activation.restarted.unparked }
              (world.resetTemporaries activation.context) [] = some run ∧
            update = run.conclude) := by
  unfold updateFrame at updated
  dsimp only at updated
  rw [Thread.restartAtEnd_root] at updated
  split at updated
  · rename_i ends
    cases updated
    exact .inl ⟨ends, rfl⟩
  · rename_i goes
    refine .inr ⟨by simpa using goes, ?_⟩
    split at updated
    · rename_i stopped
      cases updated
      exact .inl ⟨by simp [Activation.rests, stopped], rfl, rfl, .inl rfl⟩
    · rename_i running
      have running : activation.restarted.isRunning = true := by simpa using running
      split at updated
      · rename_i counting
        cases updated
        exact .inl ⟨by simp [Activation.rests, counting], rfl, rfl,
          .inr ⟨running, counting, rfl⟩⟩
      · rename_i done
        split at updated
        · rename_i locked
          cases updated
          simp only [Bool.and_eq_true] at locked
          exact .inl ⟨by simp [Activation.rests, locked], rfl, rfl, .inl rfl⟩
        · rename_i free
          obtain ⟨run, ran, equal⟩ := Option.map_eq_some_iff.mp updated
          refine .inr ⟨?_, run, ran, equal.symm⟩
          simp [Activation.rests, running, done]
          simpa using free

/-- A script that comes to its end in a frame ends its run. -/
theorem updateFrame_ended {fuel : Nat} {runCallee : CalleeRunner} {activation : Activation}
    {world : World} {update : Update}
    (updated : updateFrame fuel runCallee activation world = some update)
    (finished : update.progress = .finished) :
    ∃ thread after notices, thread.root.endsHere = true ∧
      update = Thread.finish thread after notices := by
  rcases updateFrame_cases updated with ⟨ends, rfl⟩ | ⟨_, rest | ⟨_, run, _, rfl⟩⟩
  · exact ⟨_, _, _, ends, rfl⟩
  · rw [rest.2.1] at finished
    cases finished
  · unfold Run.conclude at finished ⊢
    split at finished
    · rename_i ends
      rw [if_pos ends]
      exact ⟨_, _, _, ends, rfl⟩
    · cases finished

/-! ## Facts that last through an update -/

/-- A fact about the last command, a thread and its world that every part of a frame keeps. -/
structure LastsFrame (runCallee : CalleeRunner)
    (Fact : Option Nat → Thread → World → Prop) : Prop where
  reset : ∀ {last thread world context}, Fact last thread world →
    Fact last thread (world.resetTemporaries context)
  start : ∀ {last activation world}, Fact last { root := activation } world →
    activation.isAtEnd = true → activation.repeats = true →
    Fact last { root := activation.start } world
  count : ∀ {last activation world}, Fact last { root := activation } world →
    activation.isRunning = true → 0 < activation.waitCounter →
    Fact last { root := activation.countDown } world
  unpark : ∀ {last activation world}, Fact last { root := activation } world →
    activation.isWaitingForMessage = true → activation.isLockedOut world = false →
    Fact last { root := { activation with
      isWaitingForMessage := false, isWaiting := false } } world
  pass : ∀ {last activation world next after executed},
    Fact last { root := activation } world → activation.canStep = true →
    Step runCallee { root := activation } world next after →
    Fact (activation.lastAfter world last) (next.counted after.config executed) after
  finish : ∀ {last activation world}, Fact last { root := activation } world →
    activation.endsHere = true →
    Fact last { root := activation.finished } (world.releaseBox activation.context)

section Frames

variable {runCallee : CalleeRunner} {Fact : Option Nat → Thread → World → Prop}

/-- A run that waits for a called script is waiting. -/
def Thread.CalleesSuspend (thread : Thread) : Prop :=
  thread.callees = [] ∨ thread.root.isWaiting = true

theorem Thread.callees_eq_nil {thread : Thread} (suspended : thread.CalleesSuspend)
    (awake : thread.root.isWaiting = false) : thread.callees = [] := by
  rcases suspended with alone | waiting
  · exact alone
  · rw [awake] at waiting
    cases waiting

theorem Step.calleesSuspend {thread next : Thread} {world after : World} {executed : Nat}
    (alone : thread.callees = []) (step : Step runCallee thread world next after) :
    (next.counted after.config executed).CalleesSuspend := by
  cases step with
  | pause => exact .inl alone
  | move handling =>
      cases handling with
      | skip => exact .inl alone
      | ignore => exact .inl alone
      | perform => exact .inl alone
      | callThrough => exact .inl rfl
      | call _ _ _ performed called =>
          subst performed
          refine .inr (Activation.counted_isWaiting ?_ _ _)
          rw [Activation.stepPast_isWaiting, (Activation.perform_call called).2]
          rfl

/-- The fact of a frame together with the suspension of callers, which `runCommands`
keeps although a command may call another script. -/
private theorem pass_suspended (lasts : LastsFrame runCallee Fact) {last : Option Nat}
    {thread next : Thread} {world after : World} {executed : Nat}
    (holds : Fact last thread world ∧ thread.CalleesSuspend)
    (able : thread.root.canStep = true) (step : Step runCallee thread world next after) :
    Fact (thread.root.lastAfter world last) (next.counted after.config executed) after ∧
      (next.counted after.config executed).CalleesSuspend := by
  have alone : thread.callees = [] :=
    Thread.callees_eq_nil holds.2 (Activation.isWaiting_of_canStep able)
  have single : thread = { root := thread.root } := by rw [← alone]
  refine ⟨?_, step.calleesSuspend alone⟩
  rw [single] at step
  exact lasts.pass (single ▸ holds.1) able step

private theorem restarted_fact (lasts : LastsFrame runCallee Fact) {last : Option Nat}
    {activation : Activation} {world : World}
    (holds : Fact last { root := activation } world) :
    Fact last { root := activation.restarted } world := by
  unfold Activation.restarted
  split
  · rename_i restarts
    simp only [Bool.and_eq_true] at restarts
    exact lasts.start holds restarts.1 restarts.2
  · exact holds

private theorem entry_fact (lasts : LastsFrame runCallee Fact) {last : Option Nat}
    {activation : Activation} {world : World}
    (holds : Fact last { root := activation } world)
    (goes : activation.rests world = false) :
    Fact last { root := activation.unparked } world := by
  unfold Activation.unparked
  split
  · rename_i parked
    have free : activation.isLockedOut world = false := by
      simp only [Activation.rests, Bool.or_eq_false_iff, parked, Bool.true_and] at goes
      exact goes.2
    exact lasts.unpark holds parked free
  · exact holds

/-- A frame that visits any state executes commands, and facts that last hold where it
begins to. -/
theorem frameVisits_entry (lasts : LastsFrame runCallee Fact) {fuel : Nat}
    (last : Option Nat) {activation : Activation} {world : World}
    (holds : Fact last { root := activation } world) {visit : Thread × World}
    (visited : visit ∈ frameVisits fuel runCallee activation world) :
    Fact last { root := activation.restarted.unparked }
        (world.resetTemporaries activation.context) ∧
      visit ∈ commandVisits runCallee fuel 0 { root := activation.restarted.unparked }
        (world.resetTemporaries activation.context) ∧
      updateFrame fuel runCallee activation world =
        (runCommands runCallee fuel 0 { root := activation.restarted.unparked }
          (world.resetTemporaries activation.context) []).map Run.conclude := by
  unfold frameVisits at visited
  dsimp only at visited
  split at visited
  · simp at visited
  · rename_i goes
    simp only [Bool.or_eq_true, not_or, Bool.not_eq_true] at goes
    exact ⟨entry_fact lasts (restarted_fact lasts (lasts.reset holds)) goes.2, visited,
      updateFrame_of_moves goes.1 goes.2⟩

/-- Facts that last through a frame hold in the states it visits. -/
theorem frameVisits_fact (lasts : LastsFrame runCallee Fact) {fuel : Nat}
    (last : Option Nat) {activation : Activation} {world : World}
    (holds : Fact last { root := activation } world) {visit : Thread × World}
    (visited : visit ∈ frameVisits fuel runCallee activation world) :
    (∃ last, Fact last visit.1 visit.2) ∧ visit.1.root.canStep = true := by
  obtain ⟨entered, visited, _⟩ := frameVisits_entry lasts last holds visited
  obtain ⟨⟨last, fact, _⟩, able⟩ :=
    commandVisits_fact (fun last thread world => Fact last thread world ∧ thread.CalleesSuspend)
      (pass_suspended lasts) ⟨entered, .inl rfl⟩ visited
  exact ⟨⟨last, fact⟩, able⟩

private theorem conclude_fact (lasts : LastsFrame runCallee Fact) {last : Option Nat}
    {run : Run} (holds : Fact last run.thread run.world)
    (suspended : run.thread.CalleesSuspend) :
    Fact last run.conclude.thread run.conclude.world := by
  -- A script at its end does not wait, hence no callee is left behind.
  have alone : run.thread.root.isAtEnd = true →
      run.thread = { root := run.thread.root } := by
    intro atEnd
    have none := Thread.callees_eq_nil suspended (Activation.isWaiting_of_isAtEnd atEnd)
    rw [← none]
  unfold Run.conclude
  split
  · rename_i ends
    have single := alone (Activation.isAtEnd_of_endsHere ends)
    unfold Thread.finish
    rw [single] at holds ⊢
    exact lasts.finish holds ends
  · unfold Thread.restartAtEnd
    dsimp only
    split
    · rename_i restarts
      simp only [Bool.and_eq_true] at restarts
      have single := alone restarts.1
      rw [single] at holds
      exact lasts.start holds restarts.1 restarts.2
    · exact holds

/-- Facts that last through a frame hold after it. -/
theorem updateFrame_fact (lasts : LastsFrame runCallee Fact) {fuel : Nat}
    (last : Option Nat) {activation : Activation} {world : World} {update : Update}
    (holds : Fact last { root := activation } world)
    (updated : updateFrame fuel runCallee activation world = some update) :
    Fact (lastRan last (frameVisits fuel runCallee activation world))
      update.thread update.world := by
  have begun : Fact last { root := activation } (world.resetTemporaries activation.context) :=
    lasts.reset holds
  unfold frameVisits
  dsimp only
  rcases updateFrame_cases updated with ⟨ends, rfl⟩ | ⟨goes, rest | ⟨moves, run, ran, rfl⟩⟩
  · simp only [ends, Bool.true_or, if_true, lastRan_nil]
    exact lasts.finish begun ends
  · obtain ⟨rests, _, world, thread⟩ := rest
    simp only [rests, Bool.or_true, if_true, lastRan_nil, world]
    have restarted := restarted_fact lasts begun
    rcases thread with same | ⟨running, counting, counted⟩
    · rw [same]
      exact restarted
    · rw [counted]
      exact lasts.count restarted running counting
  · simp only [goes, moves, Bool.or_false, Bool.false_eq_true, if_false]
    have entered := entry_fact lasts (restarted_fact lasts begun) moves
    obtain ⟨fact, suspended⟩ :=
      runCommands_fact (fun last thread world => Fact last thread world ∧ thread.CalleesSuspend)
        (pass_suspended lasts) ⟨entered, .inl rfl⟩ ran
    exact conclude_fact lasts fact suspended

end Frames

/-! ## Whole threads -/

/-- A fact that lasts through the updates of a thread. About a run that waits for a
called script it says nothing that this script or the world could change. -/
structure Lasts (Fact : Option Nat → Thread → World → Prop) : Prop where
  frame : ∀ runCallee, LastsFrame runCallee Fact
  away : ∀ {last root callee rest world next later after},
    Fact last { root, callees := callee :: rest } world →
    Fact last { root, callees := next :: later } after
  back : ∀ {last root callee rest world after},
    Fact last { root, callees := callee :: rest } world →
    Fact last { root := root.clearWait } after

theorem Thread.update_eq {root : Activation} (room : 0 < root.callRoom) (fuel : Nat)
    (world : World) : Thread.update { root } fuel world =
      updateFrame fuel (Thread.calleeRunner { root } fuel) root world := by
  obtain ⟨room', equal⟩ : ∃ room', root.callRoom = room' + 1 :=
    ⟨root.callRoom - 1, by omega⟩
  simp [Thread.update, updateFrames, Thread.calleeRunner, equal, advance]

theorem Thread.update_single {root : Activation} {fuel : Nat} {world : World}
    {update : Update} (updated : Thread.update { root } fuel world = some update) :
    0 < root.callRoom ∧
      updateFrame fuel (Thread.calleeRunner { root } fuel) root world = some update := by
  have room : 0 < root.callRoom := by
    apply Nat.pos_of_ne_zero
    intro empty
    simp [Thread.update, updateFrames, empty, advance] at updated
  exact ⟨room, Thread.update_eq room fuel world ▸ updated⟩

/-- The update of a waiting thread is the update of the scripts it waits for, followed
by the return to the caller if the outermost of them came to its end. -/
theorem Thread.update_calling {root callee : Activation} {rest : List Activation}
    {fuel : Nat} {world : World} {update : Update}
    (updated : Thread.update { root, callees := callee :: rest } fuel world = some update) :
    ∃ inner, Thread.update { root := callee, callees := rest } fuel world = some inner ∧
      update.progress = .running ∧
      (inner.progress = .running ∧
          update.thread = { root, callees := inner.thread.root :: inner.thread.callees } ∧
          update.world = inner.world ∨
        inner.progress = .finished ∧ update.thread = { root := root.clearWait } ∧
          update.world = inner.world.deactivate inner.thread.root.context.id) := by
  unfold Thread.update updateFrames at updated
  split at updated
  · cases updated
  · rename_i inner ran
    cases updated
    refine ⟨inner, ran, rfl, ?_⟩
    unfold receive
    split
    · rename_i finished
      exact .inr ⟨finished, rfl, rfl⟩
    · rename_i unfinished
      exact .inl ⟨unfinished, rfl, rfl⟩

section Threads

variable {Fact : Option Nat → Thread → World → Prop}

theorem Thread.update_fact (lasts : Lasts Fact) {fuel : Nat} (last : Option Nat)
    {thread : Thread} {world : World} {update : Update} (holds : Fact last thread world)
    (updated : thread.update fuel world = some update) :
    Fact (lastRan last (thread.visits fuel world)) update.thread update.world := by
  obtain ⟨root, callees⟩ := thread
  cases callees with
  | nil => exact updateFrame_fact (lasts.frame _) _ holds (Thread.update_single updated).2
  | cons callee rest =>
      obtain ⟨inner, _, _, ⟨_, thread, _⟩ | ⟨_, thread, _⟩⟩ := Thread.update_calling updated
      · rw [thread]
        exact lasts.away holds
      · rw [thread]
        exact lasts.back holds

theorem Thread.visits_fact (lasts : Lasts Fact) {fuel : Nat} (last : Option Nat)
    {thread : Thread} {world : World} (holds : Fact last thread world)
    {visit : Thread × World} (visited : visit ∈ thread.visits fuel world) :
    (∃ last, Fact last visit.1 visit.2) ∧ visit.1.root.canStep = true := by
  obtain ⟨root, callees⟩ := thread
  cases callees with
  | nil => exact frameVisits_fact (lasts.frame _) last holds visited
  | cons callee rest => simp [Thread.visits] at visited

end Threads

end NovelEngine
