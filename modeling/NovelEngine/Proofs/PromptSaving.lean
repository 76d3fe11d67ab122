import NovelEngine.Proofs.Decoding
import NovelEngine.Proofs.Suspension

/-!
Contract: snapshots that are taken while the player is asked for an answer.

Owns:
- the prompt that a blocked run waits for and the position it settled on behind it;
- the exact condition under which a restored snapshot asks again.

Does not own: snapshots of other states.

A snapshot looks for the prompt right before the pointer. Behind the last command of a
block the run has left that block, or gone back to a loop, before the snapshot is taken.
-/

namespace NovelEngine

/-! ## The prompt behind which a run is blocked -/

namespace Activation

/-- The run waits for the answer to the prompt at `index` and has stepped past it. -/
structure AskedAt (activation : Activation) (world : World) (index : Nat)
    (reason : WaitReason) : Prop where
  found : ∃ command, activation.script.command? index = some command
  asks : ∃ instruction, activation.script.instruction? index = some instruction ∧
    instruction.answer? = some reason
  pointer : activation.pointer = (activation.behind index).pointer
  indent : activation.indent = (activation.behind index).indent
  free : activation.isLockedOut world = false
  running : activation.isRunning = true

theorem AskedAt.congr {left right : Activation} {world after : World} {index : Nat}
    {reason : WaitReason} (asked : left.AskedAt world index reason)
    (sameRun : left.SameRun right) (loops : right.loops = left.loops)
    (pointer : right.pointer = left.pointer) (indent : right.indent = left.indent)
    (running : right.isRunning = left.isRunning)
    (owner : after.box.owner = world.box.owner) : right.AskedAt after index reason := by
  obtain ⟨samePointer, sameIndent⟩ := behind_congr sameRun.script loops index
  exact {
    found := by rw [sameRun.script]; exact asked.found
    asks := by rw [sameRun.script]; exact asked.asks
    pointer := by rw [pointer, samePointer]; exact asked.pointer
    indent := by rw [indent, sameIndent]; exact asked.indent
    free := by
      rw [isLockedOut_congr owner]
      unfold isLockedOut
      rw [sameRun.context, sameRun.callers]
      exact asked.free
    running := running.trans asked.running }

/-- A run that has just been asked by the command at its pointer and steps past it. -/
theorem askedAt_stepPast {activation : Activation} {world : World} {reason : WaitReason}
    {command : Command} {instruction : Instruction}
    (found : activation.script.command? activation.pointer = some command)
    (current : command.indent = activation.indent)
    (decoded : activation.script.instruction? activation.pointer = some instruction)
    (asks : instruction.answer? = some reason) (freeHere : activation.holdPointer = false)
    (free : activation.isLockedOut world = false) (running : activation.isRunning = true) :
    (activation.waitUntil reason).stepPast.AskedAt world activation.pointer reason := by
  have stepped : (activation.waitUntil reason).stepPast =
      (activation.waitUntil reason).behind activation.pointer := by
    have level : (activation.waitUntil reason).script.indentAt activation.pointer =
        activation.indent := (Script.indentAt_eq found).trans current
    have free : (activation.waitUntil reason).holdPointer = false := freeHere
    rw [stepPast_of_free free]
    unfold behind
    rw [level]
    rfl
  obtain ⟨pointer, indent, moved⟩ := (activation.waitUntil reason).stepPast_eq
  obtain ⟨samePointer, sameIndent⟩ :
      ((activation.waitUntil reason).stepPast.behind activation.pointer).pointer =
          ((activation.waitUntil reason).behind activation.pointer).pointer ∧
        ((activation.waitUntil reason).stepPast.behind activation.pointer).indent =
          ((activation.waitUntil reason).behind activation.pointer).indent := by
    apply behind_congr
    · rw [moved]
    · rw [moved]
  exact {
    found := by rw [moved]; exact ⟨command, found⟩
    asks := by rw [moved]; exact ⟨instruction, decoded, asks⟩
    pointer := by rw [samePointer, ← stepped]
    indent := by rw [sameIndent, ← stepped]
    free := by rw [moved]; exact free
    running := by rw [moved]; exact running }

end Activation

/-- Only a prompt makes an awake run wait for an answer. -/
theorem Effect.asks {activation next : Activation} {instruction : Instruction}
    (awake : activation.IsAwake) (effect : Effect activation instruction next)
    {reason : WaitReason} (waiting : next.waitingFor = some reason)
    (prompt : reason.isPrompt = true) :
    instruction.answer? = some reason ∧ next = activation.waitUntil reason := by
  have none := awake.reason
  cases effect with
  | prompt raised =>
      cases waiting
      exact ⟨raised, rfl⟩
  | suspend _ other =>
      cases waiting
      exact absurd (prompt.symm.trans other) (by decide)
  | branch chain holds =>
      cases holds <;> exact absurd (none.symm.trans waiting) (by simp)
  | branchElse =>
      unfold Activation.branchElse at waiting
      split at waiting <;> exact absurd (none.symm.trans waiting) (by simp)
  | jump => cases waiting
  | _ => exact absurd (none.symm.trans waiting) (by simp)

/-- A run that was made to wait for an answer is not locked out of the message box. -/
theorem Use.free {activation : Activation} {world : World} {outcome : Outcome}
    (awake : activation.IsAwake) (use : Use activation world outcome) {reason : WaitReason}
    (waiting : outcome.activation.waitingFor = some reason)
    (prompt : reason.isPrompt = true) : activation.isLockedOut outcome.world = false := by
  have none := awake.reason
  cases use with
  | apart _ _ _ quiet =>
      rw [waiting, none] at quiet
      rcases quiet with same | same | ⟨same, _⟩ <;> cases same
      cases prompt
  | speak free _ box =>
      rw [← free]
      refine Activation.isLockedOut_congr ?_
      rcases box with same | same <;> simp [same]
  | ask _ _ box =>
      simp [Activation.isLockedOut, MessageBox.isLockedAgainst, box]
  | giveUp _ _ _ keeps => exact absurd (none.symm.trans (keeps ▸ waiting)) (by simp)
  | spawn _ _ _ _ _ keeps => exact absurd (none.symm.trans (keeps ▸ waiting)) (by simp)
  | call _ _ _ _ _ _ waits =>
      rw [waits] at waiting
      cases waiting
      cases prompt

/-- A command that makes a run wait for an answer is a prompt, and it is open. -/
theorem Handling.asks {runCallee : CalleeRunner} {thread next : Thread} {world after : World}
    (awake : thread.root.IsAwake) (handling : Handling runCallee thread world next after)
    {reason : WaitReason} (waiting : next.root.waitingFor = some reason)
    (prompt : reason.isPrompt = true) :
    ∃ command instruction,
      thread.root.script.command? thread.root.pointer = some command ∧
      command.indent = thread.root.indent ∧
      thread.root.script.instruction? thread.root.pointer = some instruction ∧
      instruction.answer? = some reason ∧ next.root = thread.root.waitUntil reason ∧
      thread.root.isLockedOut after = false := by
  cases handling with
  | skip => exact absurd (awake.reason.symm.trans waiting) (by simp)
  | ignore => exact absurd (awake.reason.symm.trans waiting) (by simp)
  | perform found current decoded performed =>
      subst performed
      obtain ⟨asks, waits⟩ := (Activation.perform_effect _ _ _ _).asks awake waiting prompt
      exact ⟨_, _, found, current, decoded, asks, waits,
        (Activation.perform_use _ _ _ _).free awake waiting prompt⟩
  | call _ _ _ performed called =>
      subst performed
      rw [(Activation.perform_call called).2] at waiting
      cases waiting
      cases prompt
  | callThrough => cases waiting

/-- What a consistent run that is blocked on a prompt waits for. -/
def AskedLast (run : Activation) (last : Option Nat) (thread : Thread) (world : World) : Prop :=
  thread.Consistent run ∧ ∀ reason, thread.root.waitingFor = some reason →
    reason.isPrompt = true → ∃ index, last = some index ∧ thread.root.AskedAt world index reason

namespace AskedLast

variable {run : Activation} {last : Option Nat}

theorem ofSilent {thread : Thread} {world : World} (consistent : thread.Consistent run)
    (silent : ∀ reason, thread.root.waitingFor = some reason → reason.isPrompt = false) :
    AskedLast run last thread world := by
  refine ⟨consistent, ?_⟩
  intro reason waiting prompt
  exact absurd (prompt.symm.trans (silent reason waiting)) (by decide)

theorem ofAwake {thread : Thread} {world : World} (consistent : thread.Consistent run)
    (awake : thread.root.IsAwake) : AskedLast run last thread world := by
  refine .ofSilent consistent ?_
  intro reason waiting
  exact absurd (awake.reason.symm.trans waiting) (by simp)

/-- A run that waits for a called script is not asked. -/
theorem ofCalling {root callee : Activation} {rest : List Activation} {world : World}
    (consistent : Thread.Consistent run { root, callees := callee :: rest }) :
    AskedLast run last { root, callees := callee :: rest } world := by
  have waiting : root.waitingFor = some .callee := consistent.calls.mp (by simp)
  refine .ofSilent consistent ?_
  intro reason other
  rw [show root.waitingFor = some reason from other] at waiting
  cases waiting
  rfl

theorem pass {runCallee : CalleeRunner} {thread next : Thread} {world after : World}
    {executed : Nat} (asked : AskedLast run last thread world)
    (able : thread.root.canStep = true) (step : Step runCallee thread world next after) :
    AskedLast run (thread.root.lastAfter world last) (next.counted after.config executed)
      after := by
  have consistent := asked.1
  have awake := consistent.waits.isAwake (Activation.isWaiting_of_canStep able)
  have running := Activation.isRunning_of_canStep able
  refine ⟨(consistent.pass able step).counted (step.sameRunning.trans running) _ _, ?_⟩
  intro reason waiting prompt
  cases step with
  | pause _ reached =>
      rw [consistent.unpaused.1] at reached
      cases reached
  | @move handled _ handling =>
      obtain ⟨pointer, indent, moved⟩ := handled.root.stepPast_eq
      obtain ⟨_, _, _, counted⟩ := handled.root.stepPast.counted_eq after.config executed
      have waits : handled.root.waitingFor = some reason := by
        unfold Thread.counted at waiting
        rw [counted, moved] at waiting
        exact waiting
      obtain ⟨command, instruction, found, current, decoded, asks, blocked, free⟩ :=
        handling.asks awake waits prompt
      have asked := Activation.askedAt_stepPast found current decoded asks
        consistent.inPlace.free free running
      rw [← blocked] at asked
      refine ⟨thread.root.pointer, ?_, ?_⟩
      · simp [Activation.lastAfter, Activation.runsNext, found, current,
          consistent.unpaused.1]
      · unfold Thread.counted
        rw [counted]
        exact asked.congr ⟨rfl, rfl, rfl, rfl⟩ rfl rfl rfl rfl rfl

theorem notify {thread : Thread} {world : World} {event : HostEvent} {notified : Run}
    (asked : AskedLast run last thread world)
    (accepted : thread.notify? world event = some notified) :
    AskedLast run last notified.thread notified.world := by
  have consistent := asked.1.notify accepted
  rcases Thread.notify?_cases accepted with
    ⟨_, delivery, delivered, same, _⟩ | ⟨_, _, next, later, _, same⟩
  · refine .ofSilent consistent ?_
    intro reason waiting
    rw [same] at waiting
    have awake := (Activation.awake_of_deliver? delivered).2
    exact absurd (awake.symm.trans waiting) (by simp)
  · rw [same] at consistent ⊢
    exact .ofCalling consistent

end AskedLast

/-- A blocked run stays blocked on the prompt that ran last. -/
theorem lasts_askedLast (run : Activation) : Lasts (AskedLast run) where
  frame := fun _ => {
    reset := by
      rintro _ _ _ _ ⟨consistent, asked⟩
      refine ⟨consistent, ?_⟩
      intro reason waiting prompt
      obtain ⟨index, ran, here⟩ := asked reason waiting prompt
      exact ⟨index, ran, here.congr (.refl _) rfl rfl rfl rfl rfl⟩
    start := fun asked _ _ => .ofAwake asked.1.start (Activation.isAwake_start _)
    count := by
      intro _ activation _ asked running counting
      refine .ofSilent (asked.1.countDown running counting) ?_
      intro reason waiting
      have silent := asked.1.waits.waitingFor_of_counting counting
      exact absurd (silent.symm.trans waiting) (by simp)
    unpark := by
      intro _ activation _ asked parked _
      have consistent := asked.1.unpark parked
      exact .ofAwake consistent (consistent.waits.isAwake rfl)
    pass := fun asked able step => asked.pass able step
    finish := fun asked ends => .ofAwake (asked.1.finish ends) ((asked.1.finish ends).stopped rfl) }
  away := fun asked => .ofCalling asked.1.away
  back := fun asked => .ofAwake asked.1.back (asked.1.back.waits.isAwake rfl)

theorem Reached.askedLast {run : Activation} {last : Option Nat} {thread : Thread}
    {world : World} (reached : Reached run last thread world) :
    AskedLast run last thread world :=
  reached.fact (lasts_askedLast run)
    (fun _ => .ofAwake (consistent_anew run) ⟨rfl, rfl, rfl, rfl⟩)
    (fun asked => .ofAwake asked.1.start (Activation.isAwake_start _)) AskedLast.notify

/-! ## Reloaded runs -/

namespace Activation

/-- A new run of the same script that has taken over the snapshot of a run. -/
def reloaded (activation : Activation) : Activation :=
  activation.anew.restore activation.save

theorem reloaded_of_retry {activation : Activation} (retry : activation.isToRetry = true) :
    activation.reloaded =
      { activation with
        pointer :=
          if activation.isBehindPrompt then activation.pointer - 1 else activation.pointer
        isWaiting := false
        waitingFor := none
        isWaitingForMessage := false
        holdPointer := false
        preview := {}
        completions := 0 } := by
  simp [reloaded, restore, save, anew, retry]

/-- Elsewhere a snapshot keeps everything but a call, which is not part of it. -/
theorem reloaded_of_keep {activation : Activation} (keep : activation.isToRetry = false)
    (alone : activation.waitingFor ≠ some .callee) :
    activation.reloaded =
      { activation with
        isWaitingForMessage := false
        holdPointer := false
        preview := {}
        completions := 0 } := by
  have apart : activation.isBehindPrompt = false := by
    simp only [isToRetry, Bool.or_eq_false_iff] at keep
    exact keep.1
  simp [reloaded, restore, save, anew, keep, alone, apart]

/-- Behind a prompt a snapshot goes back by one command and waits for nothing. -/
theorem reloaded_of_behind {activation : Activation}
    (retry : activation.isBehindPrompt = true) :
    activation.reloaded =
      { activation with
        pointer := activation.pointer - 1
        isWaiting := false
        waitingFor := none
        isWaitingForMessage := false
        holdPointer := false
        preview := {}
        completions := 0 } := by
  have retries : activation.isToRetry = true := by simp [isToRetry, retry]
  rw [reloaded_of_retry retries, retry, if_pos rfl]

theorem command?_of_isBehindPrompt {activation : Activation}
    (retry : activation.isBehindPrompt = true) :
    ∃ command, activation.script.command? (activation.pointer - 1) = some command ∧
      command.isInputPrompt = true := by
  unfold isBehindPrompt at retry
  split at retry
  · rename_i command found
    exact ⟨command, found, retry⟩
  · cases retry

/-- One update of the reloaded run, whose lock has been released, runs the prompt at `index`
before anything else and leads back to where the run was blocked. -/
structure Reprompts (activation : Activation) (world : World) (fuel index : Nat) : Prop where
  first : (ranCommands (Thread.visits { root := activation.reloaded } fuel
    (world.releaseBox activation.context))).head? = some index
  blocks : ∃ update, Thread.update { root := activation.reloaded } fuel
      (world.releaseBox activation.context) = some update ∧
    update.thread.callees = [] ∧ update.thread.root.isWaiting = true ∧
    update.thread.root.waitingFor = activation.waitingFor ∧
    update.thread.root.pointer = activation.pointer ∧
    update.thread.root.indent = activation.indent ∧
    update.thread.root.conditions = activation.conditions ∧
    update.thread.root.loops = activation.loops

/-- A reloaded run that steps over the prompt before its pointer stands where the run
stood. -/
private theorem stepPast_reloaded {activation : Activation}
    (retry : activation.isBehindPrompt = true) (positive : 0 < activation.pointer)
    (level : activation.nextIndent = activation.indent) :
    activation.reloaded.stepPast =
      { activation.reloaded with pointer := activation.pointer } := by
  have back : activation.pointer - 1 + 1 = activation.pointer := by omega
  have reloaded := reloaded_of_behind retry
  have moved : { activation.reloaded with pointer := activation.reloaded.pointer + 1 } =
      { activation.reloaded with pointer := activation.pointer } := by
    rw [reloaded, back]
  have same : { activation.reloaded with pointer := activation.pointer }.nextIndent =
      activation.nextIndent := by
    rw [reloaded]
    exact nextIndent_congr rfl rfl rfl rfl
  have indent : activation.reloaded.indent = activation.indent := by rw [reloaded]
  rw [stepPast_of_free (by rw [reloaded]), moved]
  unfold settleIndent
  rw [same, level, indent]
  simp

/-- A reloaded run that has gone back to a prompt runs the prompt first, if that stands at
the indent of the run, and otherwise the command at which the run stood. -/
theorem first_of_behind {activation : Activation} {world : World} {fuel index : Nat}
    (retry : activation.isBehindPrompt = true) (running : activation.isRunning = true)
    (counter : activation.waitCounter = 0) (level : activation.nextIndent = activation.indent)
    (first : (ranCommands (Thread.visits { root := activation.reloaded } (fuel + 1)
      world)).head? = some index) :
    index = activation.pointer - 1 ∧
        activation.script.indentAt (activation.pointer - 1) = activation.indent ∨
      index = activation.pointer := by
  obtain ⟨command, found, _⟩ := command?_of_isBehindPrompt retry
  have reloaded := reloaded_of_behind retry
  have awake : activation.reloaded.IsAwake := by
    rw [reloaded]
    exact ⟨rfl, counter, rfl, rfl⟩
  have runs : activation.reloaded.isRunning = true := by
    rw [reloaded]
    exact running
  have here : activation.reloaded.script.command? activation.reloaded.pointer =
      some command := by
    rw [reloaded]
    exact found
  have inside : activation.reloaded.pointer < activation.reloaded.script.size :=
    (Array.getElem?_eq_some_iff.mp here).1
  have indent : activation.reloaded.indent = activation.indent := by rw [reloaded]
  have unpaused : activation.reloaded.preview = {} := by rw [reloaded]
  rw [Thread.visits_of_awake awake runs inside] at first
  by_cases current : command.indent = activation.indent
  · left
    have back : index = activation.reloaded.pointer := by
      refine ranCommands_commandVisits ?_ (by rw [unpaused]) first
      intro other found
      rw [here] at found
      cases found
      exact current.trans indent.symm
    rw [reloaded] at back
    exact ⟨back, (Script.indentAt_eq found).trans current⟩
  · right
    have positive : 0 < activation.pointer := by
      apply Nat.pos_of_ne_zero
      intro zero
      rw [zero] at found
      simp only [nextIndent, zero, found] at level
      exact current level
    have able : activation.reloaded.canStep = true := by
      simp [canStep, awake.waiting, unpaused, inside, runs]
    have differs : command.indent ≠ activation.reloaded.indent := by
      rw [indent]
      exact current
    have skips (world : World) : activation.reloaded.runsNext world = false := by
      simp [runsNext, here, differs]
    have executes : Thread.execute { root := activation.reloaded }
        (world.resetTemporaries activation.reloaded.context)
        (Thread.calleeRunner { root := activation.reloaded } (fuel + 1))
        activation.reloaded.pointer = some {
          thread := { root := activation.reloaded.stepPast }
          world := world.resetTemporaries activation.reloaded.context } :=
      Thread.execute_skip here differs (by rw [unpaused])
    rw [commandVisits_step able executes, ranCommands_of_skips (skips _),
      stepPast_reloaded retry positive level] at first
    dsimp only [Thread.counted] at first
    obtain ⟨_, _, _, counted⟩ :=
      { activation.reloaded with pointer := activation.pointer }.counted_eq
        (world.resetTemporaries activation.reloaded.context).config 1
    rw [counted] at first
    refine ranCommands_commandVisits ?_ (by dsimp only; rw [unpaused]) first
    intro next found
    have same : activation.script.command? activation.pointer = some next := by
      rw [reloaded] at found
      exact found
    rw [nextIndent, same] at level
    exact level.trans indent.symm

end Activation

theorem World.releaseBox_isLockedOut {activation : Activation} {world : World}
    (free : activation.isLockedOut world = false) (context : Context) :
    activation.isLockedOut (world.releaseBox context) = false := by
  unfold World.releaseBox MessageBox.release
  split
  · rfl
  · exact free

/-- An awake run whose next command is a prompt that can open. -/
structure Activation.IsAtPrompt (activation : Activation) (world : World)
    (reason : WaitReason) : Prop where
  room : 0 < activation.callRoom
  awake : activation.IsAwake
  running : activation.isRunning = true
  held : activation.holdPointer = false
  unpaused : activation.preview = {}
  asks : ∃ command instruction,
    activation.script.command? activation.pointer = some command ∧
    command.indent = activation.indent ∧
    activation.script.instruction? activation.pointer = some instruction ∧
    instruction.answer? = some reason
  free : activation.isLockedOut world = false

theorem Activation.IsAtPrompt.askedAt {activation : Activation} {world : World}
    {reason : WaitReason} (atPrompt : activation.IsAtPrompt world reason) :
    (activation.waitUntil reason).stepPast.AskedAt world activation.pointer reason := by
  obtain ⟨command, instruction, found, current, decoded, asks⟩ := atPrompt.asks
  exact askedAt_stepPast found current decoded asks atPrompt.held atPrompt.free
    atPrompt.running

/-- The first update of a run at a prompt runs the prompt and nothing else. -/
theorem update_of_isAtPrompt {activation : Activation} {world : World} {reason : WaitReason}
    (atPrompt : activation.IsAtPrompt world reason) (fuel : Nat) :
    (ranCommands (Thread.visits { root := activation } (fuel + 1) world)).head? =
        some activation.pointer ∧
      ∃ update, Thread.update { root := activation } (fuel + 1) world = some update ∧
        update.thread = { root := (activation.waitUntil reason).stepPast } := by
  obtain ⟨room, awake, running, _, unpaused,
    ⟨command, instruction, found, current, decoded, asks⟩, free⟩ := atPrompt
  have inside : activation.pointer < activation.script.size :=
    (Array.getElem?_eq_some_iff.mp found).1
  have able : activation.canStep = true := by
    simp [Activation.canStep, awake.waiting, unpaused, inside, running]
  have runs : activation.runsNext (world.resetTemporaries activation.context) = true := by
    simp [Activation.runsNext, found, current, unpaused]
  have free : activation.isLockedOut (world.resetTemporaries activation.context) = false :=
    free
  obtain ⟨waits, alone⟩ := Activation.perform_answer asks free command.id
  have noPause : activation.preview.cursor = none := by rw [unpaused]
  have executes : ∃ notices, Thread.execute { root := activation }
      (world.resetTemporaries activation.context)
      (Thread.calleeRunner { root := activation } (fuel + 1)) activation.pointer = some {
        thread := { root := (activation.waitUntil reason).stepPast }
        world := (activation.perform (world.resetTemporaries activation.context) command.id
          instruction).world
        notices } := by
    rw [← waits]
    exact Thread.execute_perform found current decoded noPause alone
  obtain ⟨notices, executes⟩ := executes
  constructor
  · rw [Thread.visits_of_awake awake running inside, commandVisits_step able executes]
    exact ranCommands_of_runsNext runs _
  · obtain ⟨pointer, indent, moved⟩ := (activation.waitUntil reason).stepPast_eq
    have counted : Thread.counted { root := (activation.waitUntil reason).stepPast }
        (activation.perform (world.resetTemporaries activation.context) command.id
          instruction).world.config 1 = { root := (activation.waitUntil reason).stepPast } := by
      rw [moved]
      unfold Thread.counted Activation.counted
      rw [Activation.yieldIfDue_of_waiting rfl]
      simp [Activation.waitUntil, unpaused]
    have unable : (activation.waitUntil reason).stepPast.canStep = false := by
      rw [moved]
      rfl
    have unended : (activation.waitUntil reason).stepPast.isAtEnd = false := by
      rw [moved]
      simp [Activation.isAtEnd, Activation.waitUntil]
    rw [Thread.update_eq room, updateFrame_of_awake awake running inside,
      runCommands_step able executes, counted, runCommands_of_unable unable]
    refine ⟨_, rfl, ?_⟩
    simp [Run.conclude, Activation.endsHere, Thread.restartAtEnd, unended]

theorem Instruction.asks_of_answer? {instruction : Instruction} {reason : WaitReason}
    (asks : instruction.answer? = some reason) :
    ∃ opcode, instruction.opcode? = some opcode ∧ opcode.asks = true := by
  cases instruction <;> simp only [answer?, reduceCtorEq] at asks <;> exact ⟨_, rfl, rfl⟩

namespace Activation.AskedAt

variable {activation : Activation} {world : World} {index : Nat} {reason : WaitReason}

/-- Right behind its prompt a run is recognised as such. -/
theorem isBehindPrompt {commands : List Command}
    (compiled : Script.compile commands = .ok activation.script)
    (asked : activation.AskedAt world index reason)
    (next : activation.pointer = index + 1) : activation.isBehindPrompt = true := by
  obtain ⟨command, found⟩ := asked.found
  obtain ⟨instruction, decoded, asks⟩ := asked.asks
  obtain ⟨opcode, known, asking⟩ := Instruction.asks_of_answer? asks
  have named := Script.ofId?_of_opcode compiled found decoded known
  unfold Activation.isBehindPrompt
  rw [next, Nat.add_sub_cancel, found]
  exact command.isInputPrompt_iff.mpr ⟨opcode, named, asking⟩

/-- A run that stands right behind its prompt, in the same block, asks again. -/
theorem reprompts {commands : List Command}
    (compiled : Script.compile commands = .ok activation.script)
    (asked : activation.AskedAt world index reason)
    (blocked : activation.waitingFor = some reason)
    (counter : activation.waitCounter = 0) (room : 0 < activation.callRoom)
    (next : activation.pointer = index + 1)
    (level : activation.indent = activation.script.indentAt index) (fuel : Nat) :
    activation.Reprompts world (fuel + 1) index := by
  obtain ⟨command, found⟩ := asked.found
  obtain ⟨instruction, decoded, asks⟩ := asked.asks
  have reloaded := reloaded_of_behind (asked.isBehindPrompt compiled next)
  rw [next, Nat.add_sub_cancel] at reloaded
  have current : command.indent = activation.indent := by
    rw [level, Script.indentAt_eq found]
  have free := World.releaseBox_isLockedOut asked.free activation.context
  have atPrompt : activation.reloaded.IsAtPrompt (world.releaseBox activation.context) reason := by
    rw [reloaded]
    exact {
      room := room
      awake := ⟨rfl, counter, rfl, rfl⟩
      running := asked.running
      held := rfl
      unpaused := rfl
      asks := ⟨command, instruction, found, current, decoded, asks⟩
      free := free }
  obtain ⟨first, update, updated, thread⟩ := update_of_isAtPrompt atPrompt fuel
  have stepped := atPrompt.askedAt
  obtain ⟨pointer, indent, moved⟩ := (activation.reloaded.waitUntil reason).stepPast_eq
  obtain ⟨samePointer, sameIndent⟩ :
      ((activation.reloaded.waitUntil reason).stepPast.behind index).pointer =
          (activation.behind index).pointer ∧
        ((activation.reloaded.waitUntil reason).stepPast.behind index).indent =
          (activation.behind index).indent := by
    apply behind_congr
    · rw [moved, reloaded]
      rfl
    · rw [moved, reloaded]
      rfl
  have here : activation.reloaded.pointer = index := by rw [reloaded]
  rw [here] at first stepped
  refine ⟨first, update, updated, ?_⟩
  rw [thread]
  refine ⟨rfl, by rw [moved]; rfl, by rw [moved, blocked]; rfl, ?_, ?_, ?_, ?_⟩
  · exact stepped.pointer.trans (samePointer.trans asked.pointer.symm)
  · exact stepped.indent.trans (sameIndent.trans asked.indent.symm)
  · rw [moved, reloaded]
    rfl
  · rw [moved, reloaded]
    rfl

/-- A run that does not stand right behind its prompt has left a block: it stands at the
indent of its next command, which is not the prompt. -/
theorem settled (sound : activation.LoopsSound)
    (asked : activation.AskedAt world index reason)
    (elsewhere : ¬ (activation.pointer = index + 1 ∧
      activation.indent = activation.script.indentAt index)) :
    activation.indent < activation.script.indentAt index ∧ activation.pointer ≠ index ∧
      activation.nextIndent = activation.indent := by
  have pointer := asked.pointer
  have indent := asked.indent
  have same : activation.nextIndent = (activation.behind index).nextIndent := by
    refine nextIndent_congr ?_ ?_ pointer indent
    · unfold behind
      rw [settleIndent_script]
    · unfold behind
      rw [settleIndent_loops]
  have before : LoopsSound { activation with
      pointer := index + 1, indent := activation.script.indentAt index } :=
    sound.congr rfl rfl
  rw [same]
  unfold behind at pointer indent ⊢
  rcases before.settleIndent_cases with still | ⟨lower, moved, level⟩
  · rw [still] at pointer indent
    exact absurd ⟨pointer, indent⟩ elsewhere
  · rw [← pointer] at moved
    rw [← indent] at lower level
    refine ⟨lower, ?_, level⟩
    rcases moved with next | isLoop
    · intro here
      exact absurd (here.symm.trans next) (by simp)
    · intro here
      obtain ⟨instruction, decoded, asks⟩ := asked.asks
      rw [here, decoded] at isLoop
      cases isLoop
      cases asks

/-- A reloaded run whose first command is the prompt stood right behind it. -/
theorem still_of_first (sound : activation.LoopsSound)
    (asked : activation.AskedAt world index reason)
    (waiting : activation.isWaiting = true) (counter : activation.waitCounter = 0)
    (unparked : activation.isWaitingForMessage = false)
    (alone : activation.waitingFor ≠ some .callee) {fuel : Nat}
    (first : (ranCommands (Thread.visits { root := activation.reloaded } (fuel + 1)
      (world.releaseBox activation.context))).head? = some index) :
    activation.pointer = index + 1 ∧
      activation.indent = activation.script.indentAt index := by
  refine Decidable.byContradiction (fun elsewhere => ?_)
  obtain ⟨lower, apart, level⟩ := asked.settled sound elsewhere
  cases retry : activation.isBehindPrompt with
  | false =>
      have keep : activation.isToRetry = false := by simp [isToRetry, retry, unparked]
      have waits : activation.reloaded.isWaiting = true := by
        rw [reloaded_of_keep keep alone]
        exact waiting
      have free : activation.reloaded.isWaitingForMessage = false := by
        rw [reloaded_of_keep keep alone]
      rw [Thread.visits_of_waiting waits free] at first
      cases first
  | true =>
      rcases first_of_behind retry asked.running counter level first with
        ⟨back, current⟩ | here
      · rw [← back] at current
        omega
      · exact apart here.symm

end Activation.AskedAt

/-- A run that is blocked on a prompt waits for the prompt that ran last. Its reloaded
snapshot asks again exactly if the run still stands right behind that prompt and in its
block. -/
theorem reprompts_iff {run : Activation} {commands : List Command}
    (compiled : Script.compile commands = .ok run.script) {last : Option Nat}
    {thread : Thread} {world : World} (reached : Reached run last thread world)
    (alone : thread.callees = []) {reason : WaitReason}
    (blocked : thread.root.waitingFor = some reason) (prompt : reason.isPrompt = true)
    (fuel : Nat) :
    ∃ index, last = some index ∧
      (∃ instruction, run.script.instruction? index = some instruction ∧
        instruction.answer? = some reason) ∧
      (thread.root.Reprompts world (fuel + 1) index ↔
        thread.root.pointer = index + 1 ∧
          thread.root.indent = run.script.indentAt index) := by
  obtain ⟨consistent, asks⟩ := reached.askedLast
  obtain ⟨index, ran, asked⟩ := asks reason blocked prompt
  have script := consistent.sameRun.script
  have room : 0 < thread.root.callRoom := by
    unfold Activation.callRoom
    rw [consistent.sameRun.callers]
    exact reached.callRoom_pos blocked
  obtain ⟨waiting, counter, unparked⟩ := consistent.waits.of_waitingFor blocked
  have single : thread.root.waitingFor ≠ some .callee := by
    intro calling
    exact consistent.calls.mpr calling alone
  rw [← script] at compiled ⊢
  refine ⟨index, ran, asked.asks, ?_⟩
  constructor
  · intro reprompts
    exact asked.still_of_first consistent.inPlace.loops waiting counter unparked single
      reprompts.first
  · rintro ⟨next, level⟩
    exact asked.reprompts compiled blocked counter room next level fuel

/-! ## A prompt in a loop -/

/-- A loop that does nothing but ask. -/
def askingLoop : Script where
  commands := #[{ id := "Loop" },
    { id := "ShowChoices", indent := 1, params := .record [("choices", .list [])] }]
  instructions := #[some .loop, some (.showChoices [] none)]
  jumpTargets := #[none, none]

/-- As `askingLoop`, with a command behind the prompt. -/
def askingLoopThenLabel : Script where
  commands := askingLoop.commands.push { id := "Label", indent := 1 }
  instructions := askingLoop.instructions.push (some .label)
  jumpTargets := askingLoop.jumpTargets.push none

/-- A run that asks in the block of a loop at the top of its script. -/
private def asking (script : Script) (pointer indent : Nat) : Activation :=
  { context := { id := "scene" }, script, pointer, indent, loops := #[some 0],
    isRunning := true, isWaiting := true, waitingFor := some (.choice [] none) }

/-- A prompt that is followed by a command of its block asks again. -/
theorem askingLoopThenLabel_reprompts :
    ∃ thread world,
      Script.compile askingLoopThenLabel.commands.toList = .ok askingLoopThenLabel ∧
      Reached (asking askingLoopThenLabel 2 1) (some 1) thread world ∧ thread.callees = [] ∧
      thread.root.waitingFor = some (.choice [] none) ∧
      thread.root.Reprompts world 1 1 := by
  have updated : ∃ update, Thread.update
      { root := (asking askingLoopThenLabel 2 1).anew.start } 2 .empty = some update ∧
      update.thread = { root := asking askingLoopThenLabel 2 1 } := by
    rw [Thread.update_eq (by decide),
      updateFrame_of_awake (Activation.isAwake_start _) rfl (by decide),
      runCommands_step rfl rfl, runCommands_step rfl rfl, runCommands_of_unable rfl]
    exact ⟨_, rfl, rfl⟩
  have ran : lastRan none (Thread.visits
      { root := (asking askingLoopThenLabel 2 1).anew.start } 2 .empty) = some 1 := by
    decide +kernel
  obtain ⟨update, _, reached⟩ := Reached.first updated ran
  have compiled : Script.compile askingLoopThenLabel.commands.toList =
      .ok askingLoopThenLabel := by rfl
  obtain ⟨index, same, _, exactly⟩ := reprompts_iff compiled reached rfl rfl rfl 0
  cases same
  exact ⟨_, _, compiled, reached, rfl, rfl, exactly.mpr ⟨rfl, rfl⟩⟩

/-- Behind a prompt at the end of a loop the run is back at the loop, and its snapshot waits
for an answer without asking again. -/
theorem not_always_reprompts :
    ¬ ∀ (run : Activation) (commands : List Command) (index : Nat) (thread : Thread)
      (world : World) (reason : WaitReason),
      Script.compile commands = .ok run.script → Reached run (some index) thread world →
      thread.callees = [] → thread.root.waitingFor = some reason → reason.isPrompt = true →
      ∃ fuel, thread.root.Reprompts world (fuel + 1) index := by
  intro asksAgain
  have updated : ∃ update, Thread.update
      { root := (asking askingLoop 0 0).anew.start } 2 .empty = some update ∧
      update.thread = { root := asking askingLoop 0 0 } := by
    rw [Thread.update_eq (by decide),
      updateFrame_of_awake (Activation.isAwake_start _) rfl (by decide),
      runCommands_step rfl rfl, runCommands_step rfl rfl, runCommands_of_unable rfl]
    exact ⟨_, rfl, rfl⟩
  have ran : lastRan none (Thread.visits
      { root := (asking askingLoop 0 0).anew.start } 2 .empty) = some 1 := by
    decide +kernel
  obtain ⟨update, _, reached⟩ := Reached.first updated ran
  have compiled : Script.compile askingLoop.commands.toList = .ok askingLoop := by rfl
  obtain ⟨fuel, reprompts⟩ :=
    asksAgain (asking askingLoop 0 0) _ 1 _ _ _ compiled reached rfl rfl rfl
  have first := reprompts.first
  rw [Thread.visits_of_waiting rfl rfl] at first
  cases first

end NovelEngine
