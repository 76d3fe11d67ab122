import NovelEngine.Proofs.Conduct
import NovelEngine.Proofs.Likeness

/-!
Contract: updates end within the limit on commands.

Owns:
- the limit that a configuration sets, and what is left of it in the middle of an update;
- the loops of commands in an update, one for each run that is advanced in it;
- the answer of an update, which is the same for all fuel that reaches the limit.

Does not own: updates without a limit, which need not end.

Neither the pointer nor the script bounds a loop of commands. What bounds it is the
allowance of the run, and what bounds the nesting of loops is the depth of calls.
-/

namespace NovelEngine

/-! ## The limit -/

/-- The most commands that one run may execute in one update; `none` if there is no limit. -/
def Config.commandLimit? (config : Config) : Option Nat :=
  if config.preview then some (config.previewCommandLimit + 1)
  else config.commandBudget.map (fun budget => max budget 1)

namespace Activation

/-- Under a limit, the commands that a run may still execute after `executed` commands of
the update. A preview also counts those of earlier updates. -/
def allowance (activation : Activation) (config : Config) (executed : Nat) : Nat :=
  if config.preview then
    config.previewCommandLimit - activation.preview.executedCommands + 1
  else (config.commandBudget.getD 0) - (executed + 1) + 1

theorem allowance_pos (activation : Activation) (config : Config) (executed : Nat) :
    0 < activation.allowance config executed := by
  unfold allowance
  split <;> omega

/-- An update begins within the limit. -/
theorem allowance_le {config : Config} {limit : Nat}
    (limited : config.commandLimit? = some limit) (activation : Activation) :
    activation.allowance config 0 ≤ limit := by
  unfold Config.commandLimit? at limited
  unfold allowance
  split at limited
  · rename_i previewing
    rw [if_pos previewing]
    have same := Option.some.inj limited
    omega
  · rename_i plays
    rw [if_neg plays]
    obtain ⟨budget, given, same⟩ := Option.map_eq_some_iff.mp limited
    rw [given, Option.getD_some]
    omega

/-- A run that goes on after a command has used up a part of its allowance. -/
theorem allowance_counted {config : Config} {limit : Nat}
    (limited : config.commandLimit? = some limit) {activation : Activation} {executed : Nat}
    (able : (activation.counted config (executed + 1)).canStep = true) :
    (activation.counted config (executed + 1)).allowance config (executed + 1) <
      activation.allowance config executed := by
  have awake := isWaiting_of_canStep able
  unfold counted yieldIfDue at awake ⊢
  dsimp only at awake ⊢
  split at awake
  · rename_i waiting
    exact absurd (waiting.symm.trans awake) (by decide)
  · rename_i idle
    rw [if_neg idle]
    unfold allowance
    split at awake
    · rename_i previewing
      rw [if_pos previewing, if_pos previewing, if_pos previewing]
      split at awake
      · cases awake
      · rename_i left
        rw [if_neg left]
        dsimp only
        omega
    · rename_i plays
      rw [if_neg plays, if_neg plays]
      unfold Config.commandLimit? at limited
      rw [if_neg plays] at limited
      obtain ⟨budget, given, _⟩ := Option.map_eq_some_iff.mp limited
      rw [given] at awake ⊢
      dsimp only at awake ⊢
      split at awake
      · cases awake
      · rw [Option.getD_some]
        omega

end Activation

/-- A run that goes on after a command has not been paused before it. -/
theorem Step.preview_of_canStep {runCallee : CalleeRunner} {thread next : Thread}
    {world after : World} (step : Step runCallee thread world next after) {config : Config}
    {executed : Nat} (able : (next.root.counted config executed).canStep = true) :
    next.root.preview = thread.root.preview := by
  cases step with
  | pause =>
      obtain ⟨_, _, _, counted⟩ := Activation.counted_eq
        { thread.root with
          preview := { thread.root.preview with cursor := none, waiting := true } } config executed
      dsimp only at able
      rw [counted] at able
      simp [Activation.canStep] at able
  | @move handled _ handling =>
      obtain ⟨_, _, moved⟩ := handled.root.stepPast_eq
      rw [moved]
      exact handling.aside.2

/-- Executing a command that leaves the run able to go on uses up a part of its allowance. -/
theorem Thread.execute_allowance {runCallee : CalleeRunner} (keeps : KeepsConfig runCallee)
    {thread : Thread} {world : World} {limit : Nat}
    (limited : world.config.commandLimit? = some limit) (able : thread.root.canStep = true)
    {run : Run} (executes : thread.execute world runCallee thread.root.pointer = some run)
    {executed : Nat}
    (goesOn : (run.thread.counted run.world.config (executed + 1)).root.canStep = true) :
    (run.thread.counted run.world.config (executed + 1)).root.allowance run.world.config
        (executed + 1) < thread.root.allowance world.config executed := by
  have config := Thread.execute_config keeps able executes
  have preview := (Thread.execute_step able executes).preview_of_canStep goesOn
  have before : thread.root.allowance world.config executed =
      run.thread.root.allowance run.world.config executed := by
    unfold Activation.allowance
    rw [config, preview]
  rw [before]
  exact Activation.allowance_counted (config ▸ limited) goesOn

/-! ## The loops of an update -/

/-- The loops of the script that the command of a visited state calls. -/
def loopsAt (inside : Activation → World → List (List (Thread × World)))
    (visit : Thread × World) : List (List (Thread × World)) :=
  match visit.1.root.deed? visit.2 with
  | none => []
  | some deed => deed.outcome.callee.toList.flatMap (inside · deed.outcome.world)

/-- The loops of commands when a run under which `room` levels of calls may be opened is
advanced, each as the states in which it executes a command: that of the run itself, and
those of the scripts that it calls. -/
def advanceLoops (fuel : Nat) :
    (room : Nat) → Activation → World → List (List (Thread × World))
  | 0 => fun _ _ => []
  | room + 1 => fun activation world =>
      let visits := frameVisits fuel (advance fuel room) activation world
      visits :: visits.flatMap (loopsAt (advanceLoops fuel room))

/-- The loops of commands in the update of a thread, of which only the innermost run is
advanced. -/
def Thread.loops (thread : Thread) (fuel : Nat) (world : World) :
    List (List (Thread × World)) :=
  advanceLoops fuel thread.innermost.callRoom thread.innermost world

theorem commandVisits_length_le {runCallee : CalleeRunner} (keeps : KeepsConfig runCallee)
    {limit fuel executed : Nat} {thread : Thread} {world : World}
    (limited : world.config.commandLimit? = some limit) :
    (commandVisits runCallee fuel executed thread world).length ≤
      thread.root.allowance world.config executed := by
  induction fuel generalizing executed thread world with
  | zero => exact Nat.zero_le _
  | succ fuel inductionHypothesis =>
      have positive := thread.root.allowance_pos world.config executed
      cases able : thread.root.canStep with
      | false =>
          rw [commandVisits_of_unable able]
          exact Nat.zero_le _
      | true =>
          cases executes : thread.execute world runCallee thread.root.pointer with
          | none =>
              simp only [commandVisits, able, if_true, executes]
              exact positive
          | some run =>
              rw [commandVisits_step able executes, List.length_cons]
              cases goesOn :
                  (run.thread.counted run.world.config (executed + 1)).root.canStep with
              | false =>
                  rw [commandVisits_of_unable goesOn]
                  exact positive
              | true =>
                  have less := Thread.execute_allowance keeps limited able executes goesOn
                  have config := Thread.execute_config keeps able executes
                  exact Nat.lt_of_le_of_lt (inductionHypothesis (config ▸ limited)) less

theorem frameVisits_length_le {runCallee : CalleeRunner} (keeps : KeepsConfig runCallee)
    {limit : Nat} {world : World} (limited : world.config.commandLimit? = some limit)
    (fuel : Nat) (activation : Activation) :
    (frameVisits fuel runCallee activation world).length ≤ limit := by
  unfold frameVisits
  dsimp only
  split
  · exact Nat.zero_le _
  · have begun : (world.resetTemporaries activation.context).config.commandLimit? =
        some limit := limited
    exact Nat.le_trans (commandVisits_length_le keeps begun) (Activation.allowance_le limited _)

/-- Every loop of an update stays within the limit, at any depth of calls. -/
theorem advanceLoops_length_le {limit : Nat} {world : World}
    (limited : world.config.commandLimit? = some limit) (fuel room : Nat)
    (activation : Activation) {loop : List (Thread × World)}
    (inside : loop ∈ advanceLoops fuel room activation world) : loop.length ≤ limit := by
  induction room generalizing activation world with
  | zero => cases inside
  | succ room inductionHypothesis =>
      have keeps := keepsConfig_advance fuel room
      rcases List.mem_cons.mp inside with own | called
      · rw [own]
        exact frameVisits_length_le keeps limited fuel activation
      · obtain ⟨visit, visited, inside⟩ := List.mem_flatMap.mp called
        obtain ⟨⟨_, config⟩, _⟩ :=
          frameVisits_fact (lastsFrame_config world.config keeps) none rfl visited
        unfold loopsAt at inside
        split at inside
        · cases inside
        · rename_i deed due
          obtain ⟨callee, _, inside⟩ := List.mem_flatMap.mp inside
          have finds : deed.world = visit.2 := Activation.deed?_world due
          have same : deed.outcome.world.config = world.config := by
            rw [← config, ← finds]
            exact Activation.perform_config _ _ _ _
          exact inductionHypothesis (same ▸ limited) callee inside

/-! ## The answer of an update -/

/-- The answer is one and the same for all fuel that reaches the limit. -/
def EndsWithin {Result : Type} (limit : Nat) (answer : Nat → Option Result) : Prop :=
  ∃ result, ∀ fuel, limit ≤ fuel → answer fuel = some result

/-- Scripts that are called with `depth` callers come to rest. -/
def CalleesEnd (limit : Nat) (config : Config) (depth : Nat)
    (runners : Nat → CalleeRunner) : Prop :=
  depth < maxCallDepth → ∀ callee world, callee.callers.length = depth →
    world.config = config → EndsWithin limit (fun fuel => runners fuel callee world)

section Answers

variable {limit : Nat} {config : Config} {runners : Nat → CalleeRunner}

/-- An instruction comes to its end if the script that it calls does. -/
theorem Outcome.resolve_ends {outcome : Outcome} (callees : List Activation)
    (inner : ∀ callee, outcome.callee = some callee →
      EndsWithin limit (fun fuel => runners fuel callee outcome.world)) :
    EndsWithin limit (fun fuel => outcome.resolve (runners fuel) callees) := by
  cases called : outcome.callee with
  | none =>
      refine ⟨{
        thread := { root := outcome.activation, callees }
        world := outcome.world
        notices := outcome.notices }, fun fuel _ => ?_⟩
      simp only [Outcome.resolve, called]
  | some callee =>
      obtain ⟨update, ran⟩ := inner callee called
      refine ⟨{ receive outcome.activation update with
        notices := outcome.notices ++ (receive outcome.activation update).notices },
        fun fuel enough => ?_⟩
      simp only [Outcome.resolve, called, ran fuel enough]

theorem Thread.performAt_ends {thread : Thread} {world : World} (same : world.config = config)
    (inner : CalleesEnd limit config (thread.root.callers.length + 1) runners) (index : Nat)
    (command : Command) :
    EndsWithin limit (fun fuel => thread.performAt world (runners fuel) index command) := by
  cases decoded : thread.root.script.instruction? index with
  | none =>
      refine ⟨{ thread, world }, fun fuel _ => ?_⟩
      simp only [Thread.performAt, decoded]
  | some instruction =>
      let outcome := thread.root.perform world command.id instruction
      have called : ∀ callee, outcome.callee = some callee →
          EndsWithin limit (fun fuel => runners fuel callee outcome.world) := by
        intro callee called
        obtain ⟨deeper, allowed⟩ := Activation.perform_depth called
        exact inner allowed callee _ deeper ((Activation.perform_config _ _ _ _).trans same)
      obtain ⟨run, resolved⟩ := Outcome.resolve_ends thread.callees called
      let failures :=
        failureNotices run.thread.root.context command.id index outcome.failure
      refine ⟨{ run with notices := run.notices ++ failures }, fun fuel enough => ?_⟩
      simp only [Thread.performAt, decoded, resolved fuel enough, outcome, failures]

/-- A command comes to its end if the scripts that it may call do. -/
theorem Thread.execute_ends {thread : Thread} {world : World} (same : world.config = config)
    (inner : CalleesEnd limit config (thread.root.callers.length + 1) runners) (index : Nat) :
    EndsWithin limit (fun fuel => thread.execute world (runners fuel) index) := by
  cases found : thread.root.script.command? index with
  | none =>
      refine ⟨{ thread, world }, fun fuel _ => ?_⟩
      simp only [Thread.execute, found]
  | some command =>
      by_cases paused : (world.config.preview &&
          decide (thread.root.preview.cursor = some index)) = true
      · refine ⟨{
          thread := { thread with root := { thread.root with
            preview := { thread.root.preview with cursor := none, waiting := true } } }
          world }, fun fuel _ => ?_⟩
        simp only [Thread.execute, found, paused, if_true]
      · obtain ⟨run, performed⟩ : EndsWithin limit (fun fuel =>
            if command.indent = thread.root.indent then
              thread.performAt world (runners fuel) index command
            else some { thread, world }) := by
          by_cases current : command.indent = thread.root.indent
          · simp only [current, if_true]
            exact Thread.performAt_ends same inner index command
          · simp only [current, if_false]
            exact ⟨{ thread, world }, fun _ _ => rfl⟩
        refine ⟨{ run with thread := { run.thread with root := run.thread.root.stepPast } },
          fun fuel enough => ?_⟩
        simp only [Thread.execute, found, paused, performed fuel enough]
        rfl

/-- The commands of an update come to their end, since each uses up a part of the
allowance. -/
theorem runCommands_ends (keeps : ∀ fuel, KeepsConfig (runners fuel))
    (limited : config.commandLimit? = some limit) {amount executed : Nat} {thread : Thread}
    {world : World} (same : world.config = config)
    (inner : CalleesEnd limit config (thread.root.callers.length + 1) runners)
    (bounded : thread.root.canStep = true → thread.root.allowance world.config executed ≤ amount)
    (reported : List Notice) :
    ∃ run, ∀ fuel, limit ≤ fuel → ∀ enough, amount ≤ enough →
      runCommands (runners fuel) enough executed thread world reported = some run := by
  induction amount generalizing executed thread world reported with
  | zero =>
      cases able : thread.root.canStep with
      | false => exact ⟨_, fun _ _ _ _ => runCommands_of_unable able⟩
      | true =>
          have positive := thread.root.allowance_pos world.config executed
          exact absurd (bounded able) (by omega)
  | succ amount inductionHypothesis =>
      cases able : thread.root.canStep with
      | false => exact ⟨_, fun _ _ _ _ => runCommands_of_unable able⟩
      | true =>
          obtain ⟨run, executes⟩ := Thread.execute_ends same inner thread.root.pointer
          have ran := executes limit (Nat.le_refl limit)
          have config := Thread.execute_config (keeps limit) able ran
          have callers :
              (run.thread.counted run.world.config (executed + 1)).root.callers =
                thread.root.callers :=
            ((Thread.execute_step able ran).sameRun.trans
              (run.thread.root.counted_sameRun run.world.config (executed + 1))).callers
          have left : (run.thread.counted run.world.config (executed + 1)).root.canStep = true →
              (run.thread.counted run.world.config (executed + 1)).root.allowance
                run.world.config (executed + 1) ≤ amount := by
            intro goesOn
            have less := Thread.execute_allowance (keeps limit) (same ▸ limited) able ran goesOn
            have most := bounded able
            omega
          obtain ⟨last, rest⟩ := inductionHypothesis (config.trans same) (callers ▸ inner) left
            ((run.thread.root.yieldIfDue run.world.config (executed + 1)).2.reverse ++
              run.notices.reverse ++ reported)
          refine ⟨last, fun fuel reaches enough more => ?_⟩
          obtain ⟨enough, rfl⟩ : ∃ less, enough = less + 1 := ⟨enough - 1, by omega⟩
          rw [runCommands_step able (executes fuel reaches)]
          exact rest fuel reaches enough (by omega)

/-- A frame in which no command is executed needs no fuel. -/
theorem updateFrame_of_still {activation : Activation} {world : World}
    (still : (activation.endsHere ||
      activation.restarted.rests (world.resetTemporaries activation.context)) = true) :
    ∃ update, ∀ fuel runCallee,
      updateFrame fuel runCallee activation world = some update := by
  unfold updateFrame
  rw [Thread.restartAtEnd_root]
  dsimp only
  by_cases ends : activation.endsHere = true
  · simp only [ends, if_true]
    exact ⟨_, fun _ _ => rfl⟩
  · simp only [ends, Bool.false_eq_true, if_false]
    by_cases running : activation.restarted.isRunning = true
    · simp only [running, Bool.not_true, Bool.false_eq_true, if_false]
      by_cases counting : 0 < activation.restarted.waitCounter
      · simp only [counting, if_true]
        exact ⟨_, fun _ _ => rfl⟩
      · have locked : (activation.restarted.isWaitingForMessage &&
            activation.restarted.isLockedOut
              (world.resetTemporaries activation.context)) = true := by
          simpa [ends, Activation.rests, running, counting] using still
        simp only [counting, if_false, locked, if_true]
        exact ⟨_, fun _ _ => rfl⟩
    · simp only [running, Bool.not_false, if_true]
      exact ⟨_, fun _ _ => rfl⟩

theorem updateFrame_ends (keeps : ∀ fuel, KeepsConfig (runners fuel))
    (limited : config.commandLimit? = some limit) {activation : Activation} {world : World}
    (same : world.config = config)
    (inner : CalleesEnd limit config (activation.callers.length + 1) runners) :
    EndsWithin limit (fun fuel => updateFrame fuel (runners fuel) activation world) := by
  cases still : (activation.endsHere ||
      activation.restarted.rests (world.resetTemporaries activation.context)) with
  | true =>
      obtain ⟨update, always⟩ := updateFrame_of_still still
      exact ⟨update, fun fuel _ => always fuel (runners fuel)⟩
  | false =>
      obtain ⟨goes, moves⟩ := Bool.or_eq_false_iff.mp still
      have callers : activation.restarted.unparked.callers = activation.callers := by
        have restarted := Activation.sameRun_iff.mpr activation.restarted_identity
        have unparked := Activation.sameRun_iff.mpr activation.restarted.unparked_identity
        exact (restarted.trans unparked).callers
      let entry : Thread := { root := activation.restarted.unparked }
      have begun : (world.resetTemporaries activation.context).config = config := same
      have most : entry.root.canStep = true →
          entry.root.allowance (world.resetTemporaries activation.context).config 0 ≤ limit :=
        fun _ => Activation.allowance_le (same.symm ▸ limited) _
      obtain ⟨run, ran⟩ :=
        runCommands_ends keeps limited begun (callers.symm ▸ inner) most []
      refine ⟨run.conclude, fun fuel reaches => ?_⟩
      show updateFrame fuel (runners fuel) activation world = some run.conclude
      rw [updateFrame_of_moves goes moves, ran fuel reaches fuel reaches]
      rfl

end Answers

/-- A run comes to rest at any depth of calls for which there is room. -/
theorem advance_ends {limit : Nat} {config : Config}
    (limited : config.commandLimit? = some limit) {room : Nat} {activation : Activation}
    {world : World} (same : world.config = config)
    (shallow : activation.callers.length < maxCallDepth)
    (roomy : maxCallDepth ≤ activation.callers.length + room) :
    EndsWithin limit (fun fuel => advance fuel room activation world) := by
  induction room generalizing activation world with
  | zero => omega
  | succ room inductionHypothesis =>
      refine updateFrame_ends (fun fuel => keepsConfig_advance fuel room) limited same ?_
      intro allowed callee world depth same
      exact inductionHypothesis same (by omega) (by omega)

/-! ## Threads -/

/-- Every run of the thread may be advanced: the depth of calls is kept. -/
def Thread.Shallow (thread : Thread) : Prop :=
  ∀ run ∈ thread.chain, run.callers.length < maxCallDepth

namespace Thread.Shallow

theorem root {thread : Thread} (shallow : thread.Shallow) :
    thread.root.callers.length < maxCallDepth :=
  shallow thread.root List.mem_cons_self

theorem callees {thread : Thread} (shallow : thread.Shallow) {run : Activation}
    (member : run ∈ thread.callees) : run.callers.length < maxCallDepth :=
  shallow run (List.mem_cons_of_mem _ member)

/-- Only the callers of a run matter. -/
theorem replaceRoot {thread : Thread} (shallow : thread.Shallow) {other : Activation}
    (same : other.callers = thread.root.callers) :
    Thread.Shallow { thread with root := other } := by
  intro run member
  rcases List.mem_cons.mp member with outermost | called
  · rw [outermost, same]
    exact shallow.root
  · exact shallow.callees called

end Thread.Shallow

/-- Called scripts stay within the depth of calls. -/
def CalleesShallow (runCallee : CalleeRunner) : Prop :=
  ∀ callee world update, callee.callers.length < maxCallDepth →
    runCallee callee world = some update → update.thread.Shallow

theorem Step.shallow {runCallee : CalleeRunner} (inner : CalleesShallow runCallee)
    {activation : Activation} {next : Thread} {world after : World}
    (shallow : Thread.Shallow { root := activation })
    (step : Step runCallee { root := activation } world next after) : next.Shallow := by
  have callers := step.sameRun.callers
  have alone (root : Activation) (same : root.callers = activation.callers) :
      Thread.Shallow { root } := shallow.replaceRoot same
  cases step with
  | pause => exact alone _ callers
  | move handling =>
      cases handling with
      | skip => exact alone _ callers
      | ignore => exact alone _ callers
      | perform => exact alone _ callers
      | callThrough => exact alone _ callers
      | @call _ _ _ callee update _ _ _ performed called ran =>
          subst performed
          obtain ⟨depth, allowed⟩ := Activation.perform_depth called
          have inside : update.thread.Shallow :=
            inner callee _ update (depth.symm ▸ allowed) ran
          intro run member
          rcases List.mem_cons.mp member with outermost | called
          · rw [outermost]
            exact (alone _ callers).root
          · exact inside run called

theorem lastsFrame_shallow {runCallee : CalleeRunner} (inner : CalleesShallow runCallee) :
    LastsFrame runCallee (fun _ thread _ => thread.Shallow) where
  reset := id
  start := fun shallow _ _ => shallow.replaceRoot rfl
  count := fun shallow _ _ => shallow.replaceRoot rfl
  unpark := fun shallow _ _ => shallow.replaceRoot rfl
  pass := by
    intro _ activation world next after executed shallow _ step
    exact (step.shallow inner shallow).replaceRoot
      (next.root.counted_sameRun after.config executed).callers
  finish := fun shallow _ => shallow.replaceRoot rfl

theorem calleesShallow (fuel room : Nat) : CalleesShallow (advance fuel room) := by
  induction room with
  | zero =>
      intro callee world update _ ran
      cases ran
  | succ room inductionHypothesis =>
      intro callee world update shallow ran
      have entered : Thread.Shallow { root := callee } := List.forall_mem_singleton.mpr shallow
      exact updateFrame_fact (lastsFrame_shallow inductionHypothesis) none entered ran

/-- An update keeps the depth of calls. -/
theorem Thread.Shallow.update {thread : Thread} (shallow : thread.Shallow) {fuel : Nat}
    {world : World} {update : Update} (updated : thread.update fuel world = some update) :
    update.thread.Shallow := by
  obtain ⟨root, callees⟩ := thread
  induction callees generalizing root update with
  | nil => exact calleesShallow fuel _ root world update shallow.root updated
  | cons callee rest inductionHypothesis =>
      obtain ⟨inner, ran, _, outcome⟩ := Thread.update_calling updated
      have inside := inductionHypothesis callee (fun _ member => shallow.callees member) ran
      rcases outcome with ⟨_, thread, _⟩ | ⟨_, thread, _⟩
      · rw [thread]
        exact List.forall_mem_cons.mpr ⟨shallow.root, inside⟩
      · rw [thread]
        exact List.forall_mem_singleton.mpr shallow.root

/-- An update of a thread comes to its end, since that of its innermost run does. -/
theorem Thread.Shallow.update_ends {thread : Thread} (shallow : thread.Shallow) {limit : Nat}
    {world : World} (limited : world.config.commandLimit? = some limit) :
    EndsWithin limit (fun fuel => thread.update fuel world) := by
  obtain ⟨root, callees⟩ := thread
  induction callees generalizing root with
  | nil =>
      refine advance_ends limited rfl shallow.root ?_
      unfold Activation.callRoom
      omega
  | cons callee rest inductionHypothesis =>
      obtain ⟨inner, ran⟩ := inductionHypothesis callee (fun _ member => shallow.callees member)
      refine ⟨{ receive root inner with progress := .running }, fun fuel enough => ?_⟩
      have ran : updateFrames fuel callee rest world = some inner := ran fuel enough
      simp only [Thread.update, updateFrames, ran]

/-- Under a limit on commands every update ends. No loop of commands in it, at any depth of
calls, executes more than the limit, and its answer is the same for all fuel that reaches
the limit. The thread then stands where it may be updated again. -/
theorem Thread.update_within_limit {thread : Thread} (shallow : thread.Shallow) {limit : Nat}
    {world : World} (limited : world.config.commandLimit? = some limit) :
    (∃ update, (∀ fuel, limit ≤ fuel → thread.update fuel world = some update) ∧
        update.thread.Shallow ∧ update.world.config = world.config) ∧
      ∀ fuel, ∀ loop ∈ thread.loops fuel world, loop.length ≤ limit := by
  constructor
  · obtain ⟨update, ran⟩ := shallow.update_ends limited
    have updated : thread.update limit world = some update := ran limit (Nat.le_refl limit)
    exact ⟨update, ran, shallow.update updated, Thread.update_config updated⟩
  · intro fuel loop inside
    exact advanceLoops_length_le limited fuel _ _ inside

/-- An event that calls itself in an endless loop. -/
def endlessEcho : Script where
  commands := #[{ id := "Loop" },
    { id := "CallCommonEvent"
      indent := 1
      params := .record [("commonEventId", .text "echo")] }]
  instructions := #[some .loop, some (.callEvent "echo" [] true)]
  jumpTargets := #[none, none]

/-- A world that knows the event and lets a script execute three commands in an update. -/
def echoingWorld : World :=
  World.addEvent { World.empty with config := { commandBudget := some 3 } }
    { id := "echo", name := "echo", parallel := false, script := endlessEcho }

/-- A repeating run of the event under sixty callers, at the top of its script. -/
def echoing : Thread where
  root := {
    context := { id := "echo", owner := some "echo" }
    script := endlessEcho
    callers := List.replicate 60 { id := "echo", owner := some "echo" }
    repeats := true : Activation }.start

/-- The calls go as deep as they may, and the innermost run executes three commands. -/
theorem echoing_within_limit :
    Script.compile endlessEcho.commands.toList = .ok endlessEcho ∧ echoing.Shallow ∧
      echoingWorld.config.commandLimit? = some 3 ∧
      (∃ update, (∀ fuel, 3 ≤ fuel → echoing.update fuel echoingWorld = some update) ∧
        update.thread.Shallow ∧ update.world.config = echoingWorld.config) ∧
      (echoing.loops 3 echoingWorld).map List.length = [2, 2, 2, 3] ∧
      ∀ fuel, ∀ loop ∈ echoing.loops fuel echoingWorld, loop.length ≤ 3 := by
  have shallow : echoing.Shallow := List.forall_mem_singleton.mpr (by decide)
  have limited : echoingWorld.config.commandLimit? = some 3 := rfl
  obtain ⟨ends, loops⟩ := Thread.update_within_limit shallow limited
  have lengths : (echoing.loops 3 echoingWorld).map List.length = [2, 2, 2, 3] := by
    decide +kernel
  exact ⟨rfl, shallow, limited, ends, lengths, loops⟩

end NovelEngine
