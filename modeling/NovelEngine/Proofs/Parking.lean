import NovelEngine.Proofs.Calling
import NovelEngine.Proofs.Suspension

/-!
Contract: runs that wait for the message box.

Owns:
- what a command that needs the box does while it is locked, and once it is free;
- a parked run: it stays on its command while the box is locked, and runs that command
  before any other when the box is free.

Does not own: who locks the box.
-/

namespace NovelEngine

/-! ## Commands that need the box -/

/-- While it is locked out, a command that shows something waits for the box. -/
theorem Activation.perform_lockedOut {activation : Activation} {world : World}
    {instruction : Instruction} (speaks : instruction.speaks = true)
    (locked : activation.isLockedOut world = true) (id : String) :
    activation.perform world id instruction = .ofActivation world activation.waitForBox := by
  have unavailable : world.box.lock? activation.context activation.callers = none := by
    have against : world.box.isLockedAgainst activation.context activation.callers = true :=
      locked
    simp [MessageBox.lock?, against]
  cases instruction <;> simp only [Instruction.speaks, Bool.false_eq_true] at speaks
  all_goals
    simp [perform, showMessage, showChoices, inputNumber, inputText, openPrompt, locked,
      unavailable]

/-- Once the box is free, a command that shows something does so and waits no more for it. -/
theorem Activation.perform_free {activation : Activation} {world : World}
    {instruction : Instruction} (speaks : instruction.speaks = true)
    (free : activation.isLockedOut world = false) (id : String) :
    (activation.perform world id instruction).activation.isWaitingForMessage =
      activation.isWaitingForMessage := by
  have available : world.box.isLockedAgainst activation.context activation.callers = false :=
    free
  cases instruction <;> simp only [Instruction.speaks, Bool.false_eq_true] at speaks
  case showMessage text character wait =>
    simp only [perform, showMessage, free, Bool.false_eq_true, if_false]
    split
    · rfl
    · split <;> rfl
  all_goals
    simp [perform, showChoices, inputNumber, inputText, openPrompt, MessageBox.lock?, free,
      available, waitUntil]

/-- A message that is shown adds one line to the backlog. -/
theorem Activation.showMessage_backlog {activation : Activation} {world : World}
    (free : activation.isLockedOut world = false) (text : Operand) (character : Option String)
    (wait : Option Bool) :
    (activation.showMessage world text character wait).world.box.backlog =
      MessageBox.appendLine world.box.backlog
        (spokenLine character (text.text world.store activation.context)) := by
  have erased (box : MessageBox) : box.erase.backlog = box.backlog := by
    unfold MessageBox.erase
    split <;> rfl
  simp only [showMessage, free, Bool.false_eq_true, if_false]
  split
  · split
    · exact erased _
    · rfl
  · split <;> rfl

/-- A command that shows something neither calls a script nor tests a condition. -/
theorem Instruction.calls_of_speaks {instruction : Instruction}
    (speaks : instruction.speaks = true) :
    instruction.calls = false ∧ instruction.isBranch = false := by
  cases instruction <;> simp_all [Instruction.speaks, Instruction.calls, Instruction.isBranch]

theorem Thread.execute_lockedOut {runCallee : CalleeRunner} {thread : Thread} {world : World}
    (speaks : thread.root.SpeaksHere) (unpaused : thread.root.preview.cursor = none)
    (locked : thread.root.isLockedOut world = true) :
    thread.execute world runCallee thread.root.pointer = some {
      thread := { thread with root := thread.root.waitForBox.stepPast }
      world } := by
  obtain ⟨command, instruction, found, current, decoded, speaks⟩ := speaks
  have performed := Activation.perform_lockedOut speaks locked command.id
  simp [Thread.execute, found, current, unpaused, Thread.performAt, decoded, performed,
    Outcome.ofActivation, Outcome.resolve, failureNotices]

/-- The run as it waits for the box on the command at its pointer. -/
def Activation.parkedHere (activation : Activation) : Activation :=
  { activation with
    isWaitingForMessage := true
    isWaiting := true
    preview := { activation.preview with executedCommands := 0 } }

/-- The commands of a frame end with one that is locked out. -/
theorem runCommands_lockedOut {runCallee : CalleeRunner} {activation : Activation}
    {world : World} (able : activation.canStep = true) (speaks : activation.SpeaksHere)
    (held : activation.holdPointer = false) (unpaused : activation.preview.cursor = none)
    (locked : activation.isLockedOut world = true) (fuel executed : Nat)
    (reported : List Notice) :
    runCommands runCallee (fuel + 1) executed { root := activation } world reported = some {
      thread := { root := activation.parkedHere }, world, notices := reported.reverse } := by
  have executes := @Thread.execute_lockedOut runCallee { root := activation } world speaks
    unpaused locked
  have waits : activation.waitForBox.stepPast =
      { activation with isWaitingForMessage := true, isWaiting := true } := by
    simp [Activation.waitForBox, Activation.stepPast, held]
  rw [waits] at executes
  have unable : activation.parkedHere.canStep = false := by
    simp [Activation.canStep, Activation.parkedHere]
  rw [runCommands_step able executes]
  unfold Thread.counted Activation.counted
  rw [Activation.yieldIfDue_of_waiting rfl]
  exact runCommands_of_unable unable

/-- A command that shows something leaves the position alone. -/
theorem Effect.position_of_speaks {activation next : Activation} {instruction : Instruction}
    (effect : Effect activation instruction next) (speaks : instruction.speaks = true) :
    next.script = activation.script ∧ next.loops = activation.loops ∧
      next.pointer = activation.pointer ∧ next.indent = activation.indent := by
  cases effect with
  | enterLoop => cases speaks
  | breakLoop => cases speaks
  | branch chain =>
      exact absurd (chain.symm.trans (Instruction.calls_of_speaks speaks).2) (by decide)
  | branchElse => cases speaks
  | jump => cases speaks
  | exit => cases speaks
  | _ => exact ⟨rfl, rfl, rfl, rfl⟩

/-- Once the box is free, a command that shows something is over when it has run. If it is a
message, its line has entered the backlog. -/
theorem Thread.execute_free (runCallee : CalleeRunner) {thread : Thread} {world : World}
    (speaks : thread.root.SpeaksHere) (awake : thread.root.isWaitingForMessage = false)
    (held : thread.root.holdPointer = false) (unpaused : thread.root.preview.cursor = none)
    (free : thread.root.isLockedOut world = false) :
    ∃ run, thread.execute world runCallee thread.root.pointer = some run ∧
      run.thread.root.isWaitingForMessage = false ∧
      run.thread.root.pointer = (thread.root.behind thread.root.pointer).pointer ∧
      run.thread.root.indent = (thread.root.behind thread.root.pointer).indent ∧
      ∀ text character wait, thread.root.script.instruction? thread.root.pointer =
          some (.showMessage text character wait) →
        run.world.box.backlog = MessageBox.appendLine world.box.backlog
          (spokenLine character (text.text world.store thread.root.context)) := by
  obtain ⟨command, instruction, found, current, decoded, speaks⟩ := speaks
  have alone := thread.root.perform_callee_eq_none world
    (Instruction.calls_of_speaks speaks).1 command.id
  obtain ⟨notices, executes⟩ :=
    @Thread.execute_perform runCallee _ _ _ _ found current decoded unpaused alone
  have effect := thread.root.perform_effect world command.id instruction
  have unparked := (Activation.perform_free speaks free command.id).trans awake
  have released : (thread.root.perform world command.id instruction).activation.holdPointer =
      false := by
    rcases effect.parks held with ⟨released, _⟩ | ⟨_, parked⟩
    · exact released
    · rw [parked] at unparked
      cases unparked
  have position : (thread.root.perform world command.id instruction).activation.stepPast.pointer =
        (thread.root.behind thread.root.pointer).pointer ∧
      (thread.root.perform world command.id instruction).activation.stepPast.indent =
        (thread.root.behind thread.root.pointer).indent := by
    obtain ⟨script, loops, pointer, indent⟩ := effect.position_of_speaks speaks
    have level := (Script.indentAt_eq found).trans current
    rw [Activation.stepPast_of_free released]
    apply Activation.settleIndent_congr
    · exact script
    · exact loops
    · exact congrArg (· + 1) pointer
    · exact indent.trans level.symm
  refine ⟨_, executes, ?_, position.1, position.2, ?_⟩
  · obtain ⟨pointer, indent, moved⟩ :=
      (thread.root.perform world command.id instruction).activation.stepPast_eq
    rw [moved]
    exact unparked
  · intro text character wait message
    cases decoded.symm.trans message
    exact Activation.showMessage_backlog free text character wait

/-! ## Parked runs -/

/-- A run that waits for the message box, on a command that needs it. -/
structure Activation.IsParked (activation : Activation) : Prop where
  box : activation.isWaitingForMessage = true
  waiting : activation.isWaiting = true
  counter : activation.waitCounter = 0
  silent : activation.waitingFor = none
  running : activation.isRunning = true
  held : activation.holdPointer = false
  plays : activation.preview.cursor = none ∧ activation.preview.waiting = false
  speaks : activation.SpeaksHere

/-- A settled run that waits for the message box is parked, unless it was stopped. -/
theorem Thread.Settled.isParked {thread : Thread} (settled : thread.Settled)
    (box : thread.root.isWaitingForMessage = true)
    (running : thread.root.isRunning = true) : thread.root.IsParked := by
  cases settled.waits with
  | awake awake => exact absurd (box.symm.trans awake.box) (by decide)
  | frames _ _ _ free => exact absurd (box.symm.trans free) (by decide)
  | event _ _ _ free => exact absurd (box.symm.trans free) (by decide)
  | box waiting counter silent =>
      exact ⟨box, waiting, counter, silent, running, settled.free, settled.unpaused,
        settled.parked box⟩

/-- An update runs the command at the pointer first, which leads to `next` and `after`, and
goes on from there. -/
structure Thread.Retries (thread : Thread) (fuel : Nat) (world : World) (next : Thread)
    (after : World) : Prop where
  first : (ranCommands (thread.visits (fuel + 1) world)).head? = some thread.root.pointer
  rest : (thread.visits (fuel + 1) world).tail =
    commandVisits (thread.calleeRunner (fuel + 1)) fuel 1 next after
  update : ∃ notices, thread.update (fuel + 1) world =
    (runCommands (thread.calleeRunner (fuel + 1)) fuel 1 next after notices).map Run.conclude
  /-- The run does not wait for the box again, and has left the command behind. -/
  leaves : next.root.isWaitingForMessage = false ∧
    next.root.pointer = (thread.root.behind thread.root.pointer).pointer ∧
    next.root.indent = (thread.root.behind thread.root.pointer).indent

namespace Activation.IsParked

variable {activation : Activation} (parked : activation.IsParked)

include parked

theorem unparked_eq : activation.unparked =
    { activation with isWaitingForMessage := false, isWaiting := false } := by
  simp [Activation.unparked, parked.box]

theorem isAwake : activation.unparked.IsAwake := by
  rw [parked.unparked_eq]
  exact ⟨rfl, parked.counter, parked.silent, rfl⟩

theorem inside : activation.pointer < activation.script.size := by
  obtain ⟨command, _, found, _⟩ := parked.speaks
  exact (Array.getElem?_eq_some_iff.mp found).1

theorem canStep_unparked : activation.unparked.canStep = true := by
  rw [parked.unparked_eq]
  simp [canStep, parked.plays.2, parked.inside, parked.running]

/-- Once the box is free, the frame of a parked run executes commands. -/
theorem goes_of_free {world : World} (free : activation.isLockedOut world = false) :
    activation.isAtEnd = false ∧
      activation.rests (world.resetTemporaries activation.context) = false := by
  have free : activation.isLockedOut (world.resetTemporaries activation.context) = false :=
    free
  constructor
  · simp [isAtEnd, parked.waiting]
  · simp [rests, parked.running, parked.counter, free]

/-- Once the box is free, a parked run goes on as if it had not waited. -/
theorem updateFrame_of_free {world : World} (free : activation.isLockedOut world = false)
    (fuel : Nat) (runCallee : CalleeRunner) :
    updateFrame fuel runCallee activation world =
      updateFrame fuel runCallee activation.unparked world := by
  obtain ⟨goes, moves⟩ := parked.goes_of_free free
  have able := parked.canStep_unparked
  have context : activation.unparked.context = activation.context := by
    rw [parked.unparked_eq]
  rw [updateFrame_of_goes goes moves, updateFrame_of_awake parked.isAwake
    (isRunning_of_canStep able) (pointer_lt_of_canStep able), context]

/-- While the box is locked, a parked run stays where it is. -/
theorem updateFrame_of_locked {world : World} (locked : activation.isLockedOut world = true)
    (fuel : Nat) (runCallee : CalleeRunner) :
    updateFrame fuel runCallee activation world = some {
      progress := .running
      thread := { root := activation }
      world := world.resetTemporaries activation.context } := by
  have goes : activation.isAtEnd = false := by simp [isAtEnd, parked.waiting]
  have locked : activation.isLockedOut (world.resetTemporaries activation.context) = true :=
    locked
  simp [updateFrame, endsHere, Thread.restartAtEnd, goes, parked.running, parked.counter,
    parked.box, locked]

/-- Once the box is free, a parked run first runs the command it waited on. If that is a
message, its line enters the backlog. -/
theorem retries {world : World} (free : activation.isLockedOut world = false)
    (room : 0 < activation.callRoom) (fuel : Nat) :
    ∃ next after, Thread.Retries { root := activation } fuel world next after ∧
      ∀ text character wait, activation.script.instruction? activation.pointer =
          some (.showMessage text character wait) →
        after.box.backlog = MessageBox.appendLine world.box.backlog (spokenLine character
          (text.text (world.resetTemporaries activation.context).store
            activation.context)) := by
  obtain ⟨goes, moves⟩ := parked.goes_of_free free
  have able := parked.canStep_unparked
  have equal := parked.unparked_eq
  have speaks : activation.unparked.SpeaksHere := by
    rw [equal]
    exact parked.speaks
  have held : activation.unparked.holdPointer = false := by
    rw [equal]
    exact parked.held
  have unpaused : activation.unparked.preview.cursor = none := by
    rw [equal]
    exact parked.plays.1
  have unlocked : activation.unparked.isLockedOut
      (world.resetTemporaries activation.context) = false := by
    rw [equal]
    exact free
  have runs : activation.unparked.runsNext
      (world.resetTemporaries activation.context) = true := by
    obtain ⟨command, _, found, current, _⟩ := speaks
    simp [runsNext, found, current, unpaused]
  obtain ⟨run, executes, leaves, pointer, indent, spoken⟩ := @Thread.execute_free
    (Thread.calleeRunner { root := activation } (fuel + 1)) { root := activation.unparked } _
    speaks parked.isAwake.box held unpaused unlocked
  have visits : Thread.visits { root := activation } (fuel + 1) world = frameVisits (fuel + 1)
      (Thread.calleeRunner { root := activation } (fuel + 1)) activation world := rfl
  rw [frameVisits_of_goes goes moves, commandVisits_step able executes] at visits
  refine ⟨run.thread.counted run.world.config 1, run.world, ⟨?_, ?_, ?_, ?_⟩, ?_⟩
  · rw [visits, ranCommands_of_runsNext runs, equal]
  · rw [visits]
    rfl
  · rw [Thread.update_eq room, updateFrame_of_goes goes moves, runCommands_step able executes]
    exact ⟨_, rfl⟩
  · obtain ⟨_, _, _, counted⟩ := run.thread.root.counted_eq run.world.config 1
    unfold Thread.counted
    rw [counted]
    rw [equal] at pointer indent
    obtain ⟨samePointer, sameIndent⟩ := @behind_congr
      { activation with isWaitingForMessage := false, isWaiting := false } activation rfl rfl
      activation.pointer
    exact ⟨leaves, pointer.trans samePointer, indent.trans sameIndent⟩
  · rw [equal] at spoken
    exact spoken

end Activation.IsParked

end NovelEngine
