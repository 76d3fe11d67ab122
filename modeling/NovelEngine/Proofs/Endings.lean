import NovelEngine.Proofs.Conduct
import NovelEngine.Proofs.Likeness
import NovelEngine.Proofs.Temporaries

/-!
Contract: updates in which a run comes to its end.

Owns:
- runs between two commands, and the frames that they start, wait for and go on in;
- what one command leaves behind, according to whether it is skipped, performed or a call;
- the commands after which a run goes on, and the induction over them from the end.

Does not own: what a run of another world does meanwhile.

A run that ends in an update has gone on after each command of it. Hence what holds at its end
holds where it starts, if each command after which the run goes on carries it back.
-/

namespace NovelEngine

/-! ## Threads below others and threads alike -/

/-- The update of a thread below another run. -/
theorem Thread.update_under {thread : Thread} {fuel : Nat} {world : World} {update : Update}
    (updated : thread.update fuel world = some update) (root : Activation) :
    Thread.update { root, callees := thread.chain } fuel world =
      some { receive root update with progress := .running } := by
  have ran : updateFrames fuel thread.root thread.callees world = some update := updated
  simp only [Thread.update, Thread.chain, updateFrames, ran]

theorem Thread.Alike.update_some {left right : Thread} (alike : left.Alike right) {fuel : Nat}
    {world : World} {update : Update} (off : world.config.preview = false)
    (updated : left.update fuel world = some update) :
    ∃ other, right.update fuel world = some other ∧ update.Alike other := by
  have same := alike.update off fuel
  rw [updated] at same
  generalize right.update fuel world = answer at same
  cases same with
  | some same => exact ⟨_, rfl, same⟩

theorem Update.Alike.root {middle right : Update} (alike : middle.Alike right) {root : Activation}
    (same : ∃ preview completions, middle.thread.root = root.tallied preview completions) :
    ∃ preview completions, right.thread.root = root.tallied preview completions := by
  obtain ⟨_, _, first⟩ := same
  obtain ⟨_, preview, completions, _, second⟩ := alike.thread
  refine ⟨preview, completions, ?_⟩
  rw [second]
  show middle.thread.root.tallied preview completions = _
  rw [first]
  rfl

/-! ## Runs between two commands -/

namespace Activation

variable {activation : Activation}

theorem SameRun.callRoom {other : Activation} (same : activation.SameRun other) :
    other.callRoom = activation.callRoom := by
  unfold Activation.callRoom
  rw [same.callers]

/-- A run that neither counts down nor waits for the message box, and ends at its end. -/
structure IsReady (activation : Activation) : Prop where
  running : activation.isRunning = true
  counter : activation.waitCounter = 0
  free : activation.isWaitingForMessage = false
  once : activation.repeats = false

theorem IsReady.congr {other : Activation} (ready : activation.IsReady)
    (running : other.isRunning = activation.isRunning)
    (counter : other.waitCounter = activation.waitCounter)
    (free : other.isWaitingForMessage = activation.isWaitingForMessage)
    (once : other.repeats = activation.repeats) : other.IsReady where
  running := running.trans ready.running
  counter := counter.trans ready.counter
  free := free.trans ready.free
  once := once.trans ready.once

/-- A frame that executes commands finds the run ready. -/
theorem unparked_isReady {world : World} (moves : activation.rests world = false)
    (once : activation.unparked.repeats = false) : activation.unparked.IsReady := by
  simp only [rests, Bool.or_eq_false_iff, Bool.not_eq_false', decide_eq_false_iff_not,
    Nat.not_lt, Nat.le_zero] at moves
  obtain ⟨⟨running, counter⟩, _⟩ := moves
  unfold unparked at once ⊢
  split at once
  · rename_i parked
    rw [if_pos parked]
    exact ⟨running, counter, rfl, once⟩
  · rename_i free
    rw [if_neg free]
    exact ⟨running, counter, by simpa using free, once⟩

/-- An instruction that leaves a run awake leaves it ready. -/
theorem IsReady.effect {next : Activation} {instruction : Instruction}
    (ready : activation.IsReady) (effect : Effect activation instruction next)
    (awake : next.isWaiting = false) : next.IsReady := by
  cases effect with
  | branch _ holds => cases holds <;> exact ready.congr rfl rfl rfl rfl
  | branchElse =>
      unfold branchElse
      split
      · exact ready
      · exact ready.congr rfl rfl rfl rfl
  | jump => exact ⟨ready.running, rfl, ready.free, ready.once⟩
  | wait _ frames =>
      have none : ¬ 0 < frames := of_decide_eq_false awake
      exact ⟨ready.running, Nat.eq_zero_of_not_pos none, ready.free, ready.once⟩
  | prompt => cases awake
  | suspend => cases awake
  | park => cases awake
  | _ => exact ready.congr rfl rfl rfl rfl

theorem IsReady.stepPast (ready : activation.IsReady) : activation.stepPast.IsReady := by
  obtain ⟨_, _, moved⟩ := activation.stepPast_eq
  rw [moved]
  exact ready.congr rfl rfl rfl rfl

theorem canStep_of_waiting (waiting : activation.isWaiting = true) :
    activation.canStep = false := by
  simp [canStep, waiting]

theorem canStep_of_isAtEnd (atEnd : activation.isAtEnd = true) : activation.canStep = false := by
  simp only [isAtEnd, Bool.not_eq_true', Bool.or_eq_false_iff] at atEnd
  simp [canStep, atEnd.1.1]

theorem unpaused_of_canStep (able : activation.canStep = true) :
    activation.preview.waiting = false := by
  simp only [canStep, Bool.and_eq_true, Bool.not_eq_true', Bool.or_eq_false_iff] at able
  exact able.1.1.2

/-- A step does not depend on the wait. -/
theorem stepPast_of_wait (activation : Activation) (isWaiting : Bool) (waitCounter : Nat)
    (waitingFor : Option WaitReason) :
    { activation with isWaiting, waitCounter, waitingFor }.stepPast =
      { activation.stepPast with isWaiting, waitCounter, waitingFor } := by
  let held (run : Activation) : Activation := { run with isWaiting, waitCounter, waitingFor }
  have settles (run : Activation) : (held run).settleIndent = held run.settleIndent := by
    have next : (held run).nextIndent = run.nextIndent := nextIndent_congr rfl rfl rfl rfl
    have indent : (held run).indent = run.indent := rfl
    unfold settleIndent
    rw [next, indent]
    dsimp only
    split <;> rfl
  have hold : (held activation).holdPointer = activation.holdPointer := rfl
  show (held activation).stepPast = held activation.stepPast
  unfold stepPast
  rw [hold]
  split
  · rfl
  · exact settles { activation with pointer := activation.pointer + 1 }

theorem stepPast_clearWait (activation : Activation) :
    activation.clearWait.stepPast = activation.stepPast.clearWait :=
  activation.stepPast_of_wait false 0 none

theorem stepPast_wait (activation : Activation) (frames : Nat) :
    (activation.wait frames).stepPast = activation.stepPast.wait frames := by
  obtain ⟨_, _, moved⟩ := activation.stepPast_eq
  have held := activation.stepPast_of_wait (decide (0 < frames)) frames activation.waitingFor
  rw [moved] at held ⊢
  exact held

variable {config : Config} {executed : Nat}

theorem awake_of_counted (awake : (activation.counted config executed).isWaiting = false) :
    activation.isWaiting = false := by
  cases waiting : activation.isWaiting with
  | false => rfl
  | true => exact (counted_isWaiting waiting config executed).symm.trans awake

variable (off : config.preview = false) (awake : activation.isWaiting = false)

include off awake

/-- Without a preview, a run that goes on after a command stays as it is or yields. -/
theorem counted_of_awake (executed : Nat) : activation.counted config executed = activation ∨
    activation.counted config executed = activation.wait 1 := by
  simp only [counted, yieldIfDue, awake, off, Bool.false_eq_true, if_false]
  cases config.commandBudget with
  | none => exact .inl rfl
  | some budget =>
      dsimp only
      split
      · exact .inr rfl
      · exact .inl rfl

theorem counted_of_unlimited (unlimited : config.commandBudget = none) (executed : Nat) :
    activation.counted config executed = activation := by
  simp [counted, yieldIfDue, awake, off, unlimited]

end Activation

/-- A command that leaves a run awake leaves it ready. -/
theorem Handling.ready {runCallee : CalleeRunner} {root : Activation} {world after : World}
    {next : Thread} (handling : Handling runCallee { root } world next after)
    (ready : root.IsReady) (awake : next.root.isWaiting = false) : next.root.IsReady := by
  cases handling with
  | skip => exact ready
  | ignore => exact ready
  | perform _ _ _ performed =>
      subst performed
      exact ready.effect (Activation.perform_effect _ _ _ _) awake
  | call _ _ _ performed called =>
      subst performed
      rw [(Activation.perform_call called).2] at awake
      cases awake
  | callThrough _ _ _ performed called =>
      subst performed
      rw [(Activation.perform_call called).2]
      exact ⟨ready.running, rfl, ready.free, ready.once⟩

/-- A frame of a run that is ready executes commands and concludes, be it at its end or not. -/
theorem updateFrame_of_ready {activation : Activation} (ready : activation.IsReady)
    (fuel : Nat) (runCallee : CalleeRunner) (world : World) :
    updateFrame fuel runCallee activation world =
      (runCommands runCallee fuel 0 { root := activation }
        (world.resetTemporaries activation.context) []).map Run.conclude := by
  cases atEnd : activation.isAtEnd with
  | true =>
      have ends : activation.endsHere = true := by simp [Activation.endsHere, atEnd, ready.once]
      rw [runCommands_of_unable (Activation.canStep_of_isAtEnd atEnd)]
      simp [updateFrame, ends, Run.conclude]
  | false =>
      have moves : activation.rests (world.resetTemporaries activation.context) = false := by
        simp [Activation.rests, ready.running, ready.counter, ready.free]
      have unparked : activation.unparked = activation := by
        simp [Activation.unparked, ready.free]
      rw [updateFrame_of_goes atEnd moves, unparked]

theorem frameVisits_of_ready {activation : Activation} (ready : activation.IsReady) (fuel : Nat)
    (runCallee : CalleeRunner) (world : World) :
    frameVisits fuel runCallee activation world =
      commandVisits runCallee fuel 0 { root := activation }
        (world.resetTemporaries activation.context) := by
  cases atEnd : activation.isAtEnd with
  | true =>
      have ends : activation.endsHere = true := by simp [Activation.endsHere, atEnd, ready.once]
      rw [commandVisits_of_unable (Activation.canStep_of_isAtEnd atEnd)]
      simp [frameVisits, ends]
  | false =>
      have moves : activation.rests (world.resetTemporaries activation.context) = false := by
        simp [Activation.rests, ready.running, ready.counter, ready.free]
      have unparked : activation.unparked = activation := by
        simp [Activation.unparked, ready.free]
      rw [frameVisits_of_goes atEnd moves, unparked]

theorem Thread.update_of_ready {root : Activation} (ready : root.IsReady) {room : Nat}
    (roomy : root.callRoom = room + 1) (fuel : Nat) (world : World) :
    Thread.update { root } fuel world =
      (runCommands (advance fuel room) fuel 0 { root } (world.resetTemporaries root.context)
        []).map Run.conclude := by
  have runner : Thread.calleeRunner { root } fuel = advance fuel room := by
    unfold Thread.calleeRunner
    rw [roomy, Nat.add_sub_cancel]
  rw [Thread.update_eq (by omega), updateFrame_of_ready ready, runner]

/-- A run that waits executes no command and does not come to its end. -/
theorem runCommands_of_waiting {thread : Thread} (waiting : thread.root.isWaiting = true)
    {runCallee : CalleeRunner} {fuel executed : Nat} {world : World} {told : List Notice} :
    (runCommands runCallee fuel executed thread world told).map Run.conclude = some {
      progress := .running
      thread
      world
      notices := told.reverse } := by
  have unended : thread.root.isAtEnd = false := by simp [Activation.isAtEnd, waiting]
  rw [runCommands_of_unable (Activation.canStep_of_waiting waiting)]
  simp [Run.conclude, Activation.endsHere, Thread.restartAtEnd, unended]

/-- A run that comes to its end was not waiting. -/
theorem runCommands_awake {runCallee : CalleeRunner} {fuel executed : Nat} {thread : Thread}
    {world : World} {told : List Notice} {run : Run}
    (ran : runCommands runCallee fuel executed thread world told = some run)
    (ends : run.thread.root.endsHere = true) : thread.root.isWaiting = false := by
  cases waiting : thread.root.isWaiting with
  | false => rfl
  | true =>
      rw [runCommands_of_unable (Activation.canStep_of_waiting waiting)] at ran
      cases ran
      have awake := Activation.isWaiting_of_isAtEnd (Activation.isAtEnd_of_endsHere ends)
      exact waiting.symm.trans awake

/-- A frame of a run that counts down does nothing else. -/
theorem updateFrame_of_counting {activation : Activation} (running : activation.isRunning = true)
    (counting : 0 < activation.waitCounter) (waiting : activation.isWaiting = true)
    (fuel : Nat) (runCallee : CalleeRunner) (world : World) :
    updateFrame fuel runCallee activation world = some {
      progress := .running
      thread := { root := activation.countDown }
      world := world.resetTemporaries activation.context } := by
  have unended : activation.isAtEnd = false := by simp [Activation.isAtEnd, waiting]
  simp [updateFrame, Activation.endsHere, Thread.restartAtEnd, unended, running, counting,
    Activation.countDown]

theorem Thread.update_wait {root : Activation} (running : root.isRunning = true)
    (roomy : 0 < root.callRoom) (frames fuel : Nat) (world : World) :
    Thread.update { root := root.wait (frames + 1) } fuel world = some {
      progress := .running
      thread := { root := root.wait frames }
      world := world.resetTemporaries root.context } := by
  have roomy : 0 < (root.wait (frames + 1)).callRoom := roomy
  have running : (root.wait (frames + 1)).isRunning = true := running
  have counting : 0 < (root.wait (frames + 1)).waitCounter := Nat.succ_pos frames
  have waiting : (root.wait (frames + 1)).isWaiting = true := decide_eq_true counting
  rw [Thread.update_eq roomy, updateFrame_of_counting running counting waiting]
  rfl

/-- Counting a command of a run that waits changes its bookkeeping only. -/
theorem Thread.alike_counted {root : Activation} (waiting : root.isWaiting = true)
    (unpaused : root.preview.waiting = false) (config : Config) (executed : Nat) :
    Thread.Alike { root } { root := root.counted config executed } := by
  rw [Activation.counted, Activation.yieldIfDue_of_waiting waiting]
  exact ⟨unpaused, { root.preview with executedCommands := 0 }, root.completions, unpaused, rfl⟩

/-- A caller steps past the call before it waits, not after; only its bookkeeping tells the
difference. -/
theorem Thread.alike_returned {caller : Activation} (waiting : caller.isWaiting = true)
    (unpaused : caller.preview.waiting = false) (config : Config) (executed : Nat) :
    Thread.Alike { root := caller.clearWait.stepPast }
      { root := (caller.stepPast.counted config executed).clearWait } := by
  have unpaused : caller.stepPast.preview.waiting = false := by
    obtain ⟨_, _, moved⟩ := caller.stepPast_eq
    rw [moved]
    exact unpaused
  have waiting : caller.stepPast.isWaiting = true := caller.stepPast_isWaiting.trans waiting
  obtain ⟨plays, preview, completions, playsToo, tallied⟩ :=
    Thread.alike_counted waiting unpaused config executed
  rw [Activation.stepPast_clearWait]
  refine ⟨plays, preview, completions, playsToo, ?_⟩
  exact congrArg (fun thread : Thread => ({ root := thread.root.clearWait } : Thread)) tallied

/-! ## One command -/

theorem Thread.execute_of_handle {runCallee : CalleeRunner} {thread : Thread} {world : World}
    {handled : Run} (off : world.config.preview = false)
    (handles : thread.handle world runCallee = some handled) :
    thread.execute world runCallee thread.root.pointer = some { handled with
      thread := { handled.thread with root := handled.thread.root.stepPast } } := by
  unfold Thread.handle at handles
  unfold Thread.execute
  split at handles
  · cases handles
  · rename_i command found
    simp only [found, off, Bool.false_and, Bool.false_eq_true, if_false, handles]

/-- A command after which the run goes on has left nobody to wait for. -/
theorem Thread.execute_awake {runCallee : CalleeRunner} {root : Activation} {world : World}
    {run : Run} {executed : Nat} (able : root.canStep = true)
    (off : world.config.preview = false)
    (executes : Thread.execute { root } world runCallee root.pointer = some run)
    (awake : (run.thread.counted run.world.config executed).root.isWaiting = false) :
    ∃ next, run.thread = { root := next.stepPast } ∧ next.isWaiting = false ∧
      Handling runCallee { root } world { root := next } run.world := by
  have suspended : (run.thread.counted run.world.config executed).CalleesSuspend :=
    (Thread.execute_step able executes).calleesSuspend rfl
  have alone : (run.thread.counted run.world.config executed).callees = [] :=
    Thread.callees_eq_nil suspended awake
  rcases Thread.execute_cases able executes with
    ⟨previewing, _⟩ | ⟨_, ⟨⟨next, callees⟩, _, _⟩, handles, after, moved⟩
  · rw [off] at previewing
    cases previewing
  · rw [moved] at alone
    obtain rfl : callees = [] := alone
    have awake := Activation.awake_of_counted awake
    rw [moved, Activation.stepPast_isWaiting] at awake
    refine ⟨next, moved, awake, ?_⟩
    rw [after]
    exact Thread.handle_cases handles

section Handling

variable {runCallee : CalleeRunner} {root : Activation} {world : World} {command : Command}
  (found : root.script.command? root.pointer = some command)

include found

theorem Thread.handle_skip (differs : command.indent ≠ root.indent) :
    Thread.handle { root } world runCallee = some { thread := { root }, world } := by
  simp [Thread.handle, found, differs]

theorem Thread.handle_unknown (current : command.indent = root.indent)
    (unknown : root.script.instruction? root.pointer = none) :
    Thread.handle { root } world runCallee = some { thread := { root }, world } := by
  simp [Thread.handle, found, current, Thread.performAt, unknown]

variable {instruction : Instruction} (current : command.indent = root.indent)
  (decoded : root.script.instruction? root.pointer = some instruction)

include current decoded

theorem Thread.handle_alone (alone : (root.perform world command.id instruction).callee = none) :
    ∃ notices, Thread.handle { root } world runCallee = some {
      thread := { root := (root.perform world command.id instruction).activation }
      world := (root.perform world command.id instruction).world
      notices } := by
  simp [Thread.handle, found, current, Thread.performAt, decoded, Outcome.resolve, alone]

theorem Thread.handle_call {callee : Activation} {update : Update}
    (called : (root.perform world command.id instruction).callee = some callee)
    (ran : runCallee callee (root.perform world command.id instruction).world = some update) :
    ∃ handled, Thread.handle { root } world runCallee = some handled ∧
      handled.thread = (receive (root.waitUntil .callee) update).thread ∧
      handled.world = (receive (root.waitUntil .callee) update).world := by
  rw [← (Activation.perform_call called).2]
  simp [Thread.handle, found, current, Thread.performAt, decoded, Outcome.resolve, called, ran]

end Handling

/-! ## Commands after which a run goes on -/

def Happening.avoidsTemporaries : Happening → Bool
  | .did deed => deed.instruction.avoidsTemporaries
  | _ => true

/-- No command that runs addresses a temporary variable. -/
def AvoidsTemporaries (happenings : List Happening) : Prop :=
  ∀ happening ∈ happenings, happening.avoidsTemporaries = true

/-- A command of an update without preview and budget, after which the run goes on. Neither it
nor the script that it calls addresses a temporary variable. -/
structure PassesOn (fuel room : Nat) (root : Activation) (world : World) (next : Activation)
    (after : World) : Prop where
  handling : Handling (advance fuel room) { root } world { root := next } after
  off : world.config.preview = false
  unlimited : world.config.commandBudget = none
  able : root.canStep = true
  roomy : root.callRoom = room + 1
  awake : next.isWaiting = false
  avoids : AvoidsTemporaries (happeningsAt (advanceHappenings fuel room) ({ root }, world))

namespace PassesOn

variable {fuel room : Nat} {root next : Activation} {world after : World}

section Facts

variable (passes : PassesOn fuel room root world next after)

include passes

theorem config : after.config = world.config :=
  passes.handling.config (keepsConfig_advance fuel room)

theorem offAfter : after.config.preview = false :=
  (congrArg Config.preview passes.config).trans passes.off

theorem roomyNext : next.callRoom = room + 1 :=
  passes.handling.sameRun.callRoom.trans passes.roomy

theorem unpaused : root.preview.waiting = false :=
  Activation.unpaused_of_canStep passes.able

variable {command : Command} {instruction : Instruction}
  (found : root.script.command? root.pointer = some command)
  (current : command.indent = root.indent)
  (decoded : root.script.instruction? root.pointer = some instruction)

include found current decoded

private theorem due : root.deed? world = some { run := root, world, command, instruction } := by
  apply Activation.deed?_of_runs found current decoded
  simp [passes.off]

theorem avoids_instruction : instruction.avoidsTemporaries = true := by
  have avoids := passes.avoids
  rw [happeningsAt_of_due (passes.due found current decoded)] at avoids
  exact avoids _ List.mem_cons_self

variable {callee : Activation}
  (called : (root.perform world command.id instruction).callee = some callee)

include called

theorem avoids_callee : AvoidsTemporaries (advanceHappenings fuel room callee
    (root.perform world command.id instruction).world) := by
  have avoids := passes.avoids
  rw [happeningsAt_of_due (passes.due found current decoded)] at avoids
  intro happening member
  refine avoids happening (List.mem_cons_of_mem _ (List.mem_flatMap.mpr ⟨callee, ?_, member⟩))
  exact Option.mem_toList.mpr called

omit found current decoded in
theorem callRoom_callee : callee.callRoom = room := by
  have depth : callee.callers.length = root.callers.length + 1 :=
    (Activation.perform_depth called).1
  have roomy := passes.roomy
  unfold Activation.callRoom at roomy ⊢
  omega

end Facts

/-- What is true at the end of an update, and before each command after which the run goes on
if it is true after it, is true of a run that ends in this update. -/
theorem backwards (Fits : Activation → Prop) (Leads : Nat → Activation → World → Prop) {run : Run}
    (keeps : ∀ {root world next after}, PassesOn fuel room root world next after → Fits root →
      Fits next.stepPast)
    (ending : ∀ {amount root world told}, root.endsHere = true →
      run = { thread := { root }, world, notices := told } → Leads amount root world)
    (pass : ∀ {amount root world next after}, PassesOn fuel room root world next after →
      Fits root → amount ≤ fuel → Leads amount next.stepPast after →
      Leads (amount + 1) root world)
    {amount executed : Nat} {told : List Notice} (off : world.config.preview = false)
    (unlimited : world.config.commandBudget = none) (fits : Fits root)
    (roomy : root.callRoom = room + 1) (enough : amount ≤ fuel)
    (ran : runCommands (advance fuel room) amount executed { root } world told = some run)
    (ends : run.thread.root.endsHere = true)
    (avoids : AvoidsTemporaries
      ((commandVisits (advance fuel room) amount executed { root } world).flatMap
        (happeningsAt (advanceHappenings fuel room)))) : Leads amount root world := by
  -- The induction is on the commands that are left for the run.
  induction amount generalizing executed root world told with
  | zero =>
      unfold runCommands at ran
      split at ran
      · cases ran
      · cases ran
        exact ending ends rfl
  | succ amount inductionHypothesis =>
      cases able : root.canStep with
      | false =>
          rw [runCommands_of_unable able] at ran
          cases ran
          exact ending ends rfl
      | true =>
          cases executes : Thread.execute { root } world (advance fuel room) root.pointer with
          | none =>
              simp only [runCommands, able, if_true, executes] at ran
              cases ran
          | some step =>
              rw [runCommands_step able executes] at ran
              rw [commandVisits_step able executes, List.flatMap_cons] at avoids
              obtain ⟨next, moved, awake, handling⟩ :=
                Thread.execute_awake able off executes (runCommands_awake ran ends)
              have passes : PassesOn fuel room root world next step.world :=
                { handling, off, unlimited, able, roomy, awake
                  avoids := fun happening member =>
                    avoids happening (List.mem_append_left _ member) }
              have unlimitedAfter := (congrArg Config.commandBudget passes.config).trans unlimited
              have stays := Activation.counted_of_unlimited passes.offAfter
                (next.stepPast_isWaiting.trans awake) unlimitedAfter (executed + 1)
              simp only [moved, Thread.counted, stays] at ran avoids
              have roomyNext := next.stepPast_sameRun.callRoom.trans passes.roomyNext
              have rest := inductionHypothesis passes.offAfter unlimitedAfter (keeps passes fits)
                roomyNext (by omega) ran
                (fun happening member => avoids happening (List.mem_append_right _ member))
              exact pass passes fits (by omega) rest

end PassesOn

end NovelEngine
