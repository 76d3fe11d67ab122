import NovelEngine.Proofs.Likeness
import NovelEngine.Proofs.Parking
import NovelEngine.Proofs.PromptSaving

/-!
Contract: snapshots that are taken while no answer is awaited.

Owns:
- what a host sees of a thread over a series of calls;
- the condition under which a reloaded snapshot and the run it was taken from cannot be
  told apart, and what becomes of the snapshot elsewhere.

Does not own: snapshots of a run that is blocked on a prompt.
-/

namespace NovelEngine

/-! ## Sessions -/

inductive Call where
  | update (fuel : Nat)
  | notify (event : HostEvent)
  /-- The host and other scripts change the world in any way, its configuration excepted. -/
  | elsewhere (change : World → World)

/-- What a call answers, and the world it leaves behind. -/
inductive Report where
  | updated (progress : Progress) (notices : List Notice) (world : World)
  /-- The update did not come to rest within its fuel. -/
  | unfinished
  | accepted (notices : List Notice) (world : World)
  | refused

/-- The answers to a series of calls. A run may execute one command in every update. -/
def session : List Call → Thread → World → List Report
  | [], _, _ => []
  | .update fuel :: calls, thread, world =>
      match thread.update (fuel + 1) world with
      | none => [.unfinished]
      | some update =>
          .updated update.progress update.notices update.world ::
            session calls update.thread update.world
  | .notify event :: calls, thread, world =>
      match thread.notify? world event with
      | none => .refused :: session calls thread world
      | some run => .accepted run.notices run.world :: session calls run.thread run.world
  | .elsewhere change :: calls, thread, world =>
      session calls thread { change world with config := world.config }

theorem Activation.takeChoice_config (activation : Activation) (world : World) (index : Nat)
    (label : Option String) (target : Option VariableRef) :
    (activation.takeChoice world index label target).world.config = world.config := by
  unfold takeChoice
  cases label with
  | none => cases target <;> rfl
  | some name =>
      cases target <;> dsimp only <;> split <;> rfl

theorem Activation.deliver?_config {activation : Activation} {world : World}
    {event : HostEvent} {delivery : Delivery}
    (delivered : activation.deliver? world event = some delivery) :
    delivery.world.config = world.config := by
  have erased : (activation.eraseIfAutomatic world).config = world.config := by
    unfold eraseIfAutomatic
    split <;> rfl
  unfold deliver? at delivered
  split at delivered
  · cases delivered
    exact erased
  · split at delivered
    · cases delivered
    · cases delivered
      exact (takeChoice_config _ _ _ _ _).trans erased
  · cases delivered
    rfl
  · cases delivered
    rfl
  · cases delivered

theorem Thread.notify?_config {thread : Thread} {world : World} {event : HostEvent} {run : Run}
    (accepted : thread.notify? world event = some run) : run.world.config = world.config := by
  obtain ⟨root, callees⟩ := thread
  induction callees generalizing root run with
  | nil =>
      obtain ⟨delivery, delivered, rfl⟩ := Option.map_eq_some_iff.mp accepted
      exact Activation.deliver?_config delivered
  | cons callee rest inductionHypothesis =>
      obtain ⟨inner, reached, rfl⟩ := Option.map_eq_some_iff.mp accepted
      have config : inner.world.config = world.config := inductionHypothesis callee reached
      exact config

/-- Runs that differ in their bookkeeping only cannot be told apart. -/
theorem Thread.Alike.session {left right : Thread} (alike : left.Alike right) {world : World}
    (off : world.config.preview = false) (calls : List Call) :
    session calls right world = session calls left world := by
  induction calls generalizing left right world with
  | nil => rfl
  | cons call calls inductionHypothesis =>
      cases call with
      | update fuel =>
          have related := alike.update off (fuel + 1)
          unfold NovelEngine.session
          cases before : left.update (fuel + 1) world with
          | none =>
              rw [before] at related
              generalize right.update (fuel + 1) world = after at related
              cases related
              rfl
          | some update =>
              have config := Thread.update_config before
              rw [before] at related
              generalize right.update (fuel + 1) world = after at related
              cases related with
              | some alike =>
                  dsimp only
                  rw [alike.progress, alike.notices, alike.world]
                  exact congrArg _ (inductionHypothesis alike.thread (config ▸ off))
      | notify event =>
          have related := alike.notify world event
          unfold NovelEngine.session
          cases before : left.notify? world event with
          | none =>
              rw [before] at related
              generalize right.notify? world event = after at related
              cases related
              exact congrArg _ (inductionHypothesis alike off)
          | some run =>
              have config := Thread.notify?_config before
              rw [before] at related
              generalize right.notify? world event = after at related
              cases related with
              | some alike =>
                  dsimp only
                  rw [alike.notices, alike.world]
                  exact congrArg _ (inductionHypothesis alike.thread (config ▸ off))
      | elsewhere change => exact inductionHypothesis alike off

/-! ## Runs that have stopped -/

theorem updateFrame_of_stopped {activation : Activation} (stopped : activation.isRunning = false)
    (fuel : Nat) (runCallee : CalleeRunner) (world : World) :
    updateFrame fuel runCallee activation world = some {
      progress := .running
      thread := { root := activation }
      world := world.resetTemporaries activation.context } := by
  have goes : activation.isAtEnd = false := by simp [Activation.isAtEnd, stopped]
  simp [updateFrame, Activation.endsHere, Thread.restartAtEnd, goes, stopped]

theorem Thread.notify?_of_silent {root : Activation} (silent : root.waitingFor = none)
    (world : World) (event : HostEvent) : Thread.notify? { root } world event = none := by
  simp [Thread.notify?, deliverInnermost?, Activation.deliver?, silent]

/-- Of a stopped run a host sees the context only. -/
theorem session_of_stopped {left right : Activation} (sameRun : left.SameRun right)
    (stopped : left.isRunning = false ∧ right.isRunning = false)
    (silent : left.waitingFor = none ∧ right.waitingFor = none) (calls : List Call)
    (world : World) :
    session calls { root := right } world = session calls { root := left } world := by
  induction calls generalizing world with
  | nil => rfl
  | cons call calls inductionHypothesis =>
      cases call with
      | update fuel =>
          have same : right.callRoom = left.callRoom := by
            unfold Activation.callRoom
            rw [sameRun.callers]
          unfold session
          by_cases room : 0 < left.callRoom
          · rw [Thread.update_eq room, Thread.update_eq (same ▸ room),
              updateFrame_of_stopped stopped.1, updateFrame_of_stopped stopped.2,
              sameRun.context]
            exact congrArg _ (inductionHypothesis _)
          · have none : left.callRoom = 0 := by omega
            simp [Thread.update, updateFrames, same, none, advance]
      | notify event =>
          unfold session
          rw [Thread.notify?_of_silent silent.1, Thread.notify?_of_silent silent.2]
          exact congrArg _ (inductionHypothesis world)
      | elsewhere change => exact inductionHypothesis _

/-! ## Runs that wait for the message box -/

namespace Activation.IsParked

variable {activation : Activation} (parked : activation.IsParked)

include parked

/-- Made to try again while the box is locked, a parked run parks again. -/
theorem update_of_locked {world : World} (locked : activation.isLockedOut world = true)
    (room : 0 < activation.callRoom) (fuel : Nat) :
    ∃ thread, Thread.Alike { root := activation } thread ∧
      Thread.update { root := activation.unparked } (fuel + 1) world = some {
        progress := .running
        thread
        world := world.resetTemporaries activation.context } := by
  have unparked := parked.unparked_eq
  have able := parked.canStep_unparked
  have again : activation.unparked.parkedHere = { activation with
      preview := { activation.preview with executedCommands := 0 } } := by
    rw [unparked, parkedHere, parked.box, parked.waiting]
  have ran (runCallee : CalleeRunner) :
      runCommands runCallee (fuel + 1) 0 { root := activation.unparked }
        (world.resetTemporaries activation.unparked.context) [] = some {
          thread := { root := activation.unparked.parkedHere }
          world := world.resetTemporaries activation.unparked.context } := by
    apply runCommands_lockedOut able
    · rw [unparked]
      exact parked.speaks
    · rw [unparked]
      exact parked.held
    · rw [unparked]
      exact parked.plays.1
    · rw [unparked]
      exact locked
  have context : activation.unparked.context = activation.context := by rw [unparked]
  have roomToo : 0 < activation.unparked.callRoom := by
    rw [unparked]
    exact room
  refine ⟨{ root := activation.unparked.parkedHere }, ?_, ?_⟩
  · rw [again]
    exact ⟨parked.plays.2, { activation.preview with executedCommands := 0 },
      activation.completions, parked.plays.2, rfl⟩
  · have goes : activation.unparked.parkedHere.isAtEnd = false := by
      simp [isAtEnd, parkedHere]
    rw [Thread.update_eq roomToo, updateFrame_of_awake parked.isAwake
      (isRunning_of_canStep able) (pointer_lt_of_canStep able), ran, context]
    simp [Run.conclude, endsHere, Thread.restartAtEnd, goes]

end Activation.IsParked

/-- A parked run and the same run made to try again cannot be told apart. -/
theorem session_of_parked {activation : Activation} (parked : activation.IsParked)
    {right : Thread} (alike : Thread.Alike { root := activation.unparked } right)
    {world : World} (off : world.config.preview = false) (calls : List Call) :
    session calls right world = session calls { root := activation } world := by
  rw [alike.session off]
  clear alike
  induction calls generalizing world with
  | nil => rfl
  | cons call calls inductionHypothesis =>
      cases call with
      | update fuel =>
          have same : activation.unparked.callRoom = activation.callRoom := by
            rw [parked.unparked_eq]
            rfl
          unfold session
          by_cases room : 0 < activation.callRoom
          · cases locked : activation.isLockedOut world with
            | true =>
                obtain ⟨thread, alike, updated⟩ := parked.update_of_locked locked room fuel
                have off : (world.resetTemporaries activation.context).config.preview = false :=
                  off
                rw [updated, Thread.update_eq room, parked.updateFrame_of_locked locked]
                dsimp only
                rw [alike.session off]
            | false =>
                have runner : Thread.calleeRunner { root := activation.unparked } (fuel + 1) =
                    Thread.calleeRunner { root := activation } (fuel + 1) := by
                  unfold Thread.calleeRunner
                  rw [same]
                rw [Thread.update_eq (same ▸ room), Thread.update_eq room, runner,
                  parked.updateFrame_of_free locked]
          · have none : activation.callRoom = 0 := by omega
            simp [Thread.update, updateFrames, same, none, advance]
      | notify event =>
          unfold session
          rw [Thread.notify?_of_silent parked.silent,
            Thread.notify?_of_silent parked.isAwake.reason]
          exact congrArg _ (inductionHypothesis off)
      | elsewhere change => exact inductionHypothesis off

/-! ## The top of a script -/

/-- A run at the top of its script waits for nothing or for the message box, unless it is
back at a loop. -/
def RestsAtTop (run : Activation) (_ : Option Nat) (thread : Thread) (_ : World) : Prop :=
  thread.Consistent run ∧ (thread.root.pointer = 0 →
    thread.root.IsAwake ∨ thread.root.isWaitingForMessage = true ∨
      thread.root.script.instruction? 0 = some .loop)

namespace RestsAtTop

variable {run : Activation} {last : Option Nat} {world : World}

theorem ofAwake {thread : Thread} (consistent : thread.Consistent run)
    (awake : thread.root.IsAwake) : RestsAtTop run last thread world :=
  ⟨consistent, fun _ => .inl awake⟩

theorem pass {runCallee : CalleeRunner} {thread next : Thread} {after : World}
    {executed : Nat} (rests : RestsAtTop run last thread world)
    (able : thread.root.canStep = true) (step : Step runCallee thread world next after) :
    RestsAtTop run (thread.root.lastAfter world last) (next.counted after.config executed)
      after := by
  have consistent := rests.1
  have running := Activation.isRunning_of_canStep able
  refine ⟨(consistent.pass able step).counted (step.sameRunning.trans running) _ _, ?_⟩
  have counted := next.root.counted_eq after.config executed
  obtain ⟨_, _, _, counted⟩ := counted
  unfold Thread.counted
  rw [counted]
  intro top
  right
  cases step with
  | pause _ reached =>
      rw [consistent.unpaused.1] at reached
      cases reached
  | @move handled _ handling =>
      rcases handling.parks consistent.inPlace.free with ⟨free, _⟩ | ⟨held, _⟩
      · right
        have sound := handling.loopsSound consistent.inPlace.loops
        have before : Activation.LoopsSound
            { handled.root with pointer := handled.root.pointer + 1 } := sound.congr rfl rfl
        have moved := Activation.stepPast_of_free free
        have top : handled.root.stepPast.pointer = 0 := top
        rw [moved] at top
        have script : handled.root.stepPast.script = handled.root.script :=
          Activation.stepPast_script _
        rw [script]
        rcases before.settleIndent_cases with still | ⟨_, next | isLoop, _⟩
        · rw [still] at top
          cases top
        · rw [next] at top
          cases top
        · rw [top] at isLoop
          exact isLoop
      · left
        rw [held]
        rfl

theorem notify {thread : Thread} {event : HostEvent} {notified : Run}
    (rests : RestsAtTop run last thread world)
    (accepted : thread.notify? world event = some notified) :
    RestsAtTop run last notified.thread notified.world := by
  have consistent := rests.1.notify accepted
  rcases Thread.notify?_cases accepted with
    ⟨_, delivery, delivered, same, _⟩ | ⟨_, _, next, later, _, same⟩
  · refine .ofAwake consistent (consistent.waits.isAwake ?_)
    rw [same]
    exact (Activation.awake_of_deliver? delivered).1
  · rw [same] at consistent ⊢
    exact ⟨consistent, rests.2⟩

end RestsAtTop

theorem lasts_restsAtTop (run : Activation) : Lasts (RestsAtTop run) where
  frame := fun _ => {
    reset := id
    start := fun rests _ _ => .ofAwake rests.1.start (Activation.isAwake_start _)
    count := by
      intro _ activation _ rests running counting
      refine ⟨rests.1.countDown running counting, ?_⟩
      intro top
      rcases rests.2 top with awake | other
      · exact absurd awake.counter (Nat.ne_of_gt counting)
      · exact .inr other
    unpark := by
      intro _ activation _ rests parked _
      have consistent := rests.1.unpark parked
      exact .ofAwake consistent (consistent.waits.isAwake rfl)
    pass := fun rests able step => rests.pass able step
    finish := fun rests ends =>
      .ofAwake (rests.1.finish ends) ((rests.1.finish ends).stopped rfl) }
  away := fun rests => ⟨rests.1.away, rests.2⟩
  back := fun rests => .ofAwake rests.1.back (rests.1.back.waits.isAwake rfl)

theorem Reached.restsAtTop {run : Activation} {last : Option Nat} {thread : Thread}
    {world : World} (reached : Reached run last thread world) :
    RestsAtTop run last thread world :=
  reached.fact (lasts_restsAtTop run)
    (fun _ => .ofAwake (consistent_anew run) ⟨rfl, rfl, rfl, rfl⟩)
    (fun rests => .ofAwake rests.1.start (Activation.isAwake_start _)) RestsAtTop.notify

/-! ## Resuming -/

/-- Whether a snapshot of the run goes back to the prompt before the pointer. -/
def Activation.GoesBack (activation : Activation) : Prop :=
  activation.isBehindPrompt = true ∧ 0 < activation.pointer ∧ activation.isRunning = true

/-- A loop is not taken for a prompt. -/
theorem Script.not_isInputPrompt_of_loop {commands : List Command} {script : Script}
    (compiled : Script.compile commands = .ok script) {index : Nat} {command : Command}
    (found : script.command? index = some command)
    (isLoop : script.instruction? index = some .loop) : command.isInputPrompt = false := by
  have named := Script.ofId?_of_opcode compiled found isLoop rfl
  cases prompt : command.isInputPrompt with
  | false => rfl
  | true =>
      obtain ⟨opcode, other, asks⟩ := command.isInputPrompt_iff.mp prompt
      rw [named] at other
      cases other
      cases asks

theorem Thread.Consistent.isParked {run : Activation} {thread : Thread}
    (consistent : thread.Consistent run) (box : thread.root.isWaitingForMessage = true) :
    thread.root.IsParked := by
  refine consistent.settled.isParked box ?_
  cases running : thread.root.isRunning with
  | true => rfl
  | false => exact absurd (box.symm.trans (consistent.stopped running).box) (by decide)

namespace Activation

/-- The snapshot of a stopped run is stopped. -/
theorem reloaded_of_stopped {activation : Activation} (stopped : activation.isRunning = false)
    (awake : activation.IsAwake) :
    activation.SameRun activation.reloaded ∧ activation.reloaded.isRunning = false ∧
      activation.reloaded.waitingFor = none := by
  have alone : activation.waitingFor ≠ some .callee := by simp [awake.reason]
  cases retry : activation.isToRetry with
  | true =>
      rw [reloaded_of_retry retry]
      exact ⟨⟨rfl, rfl, rfl, rfl⟩, stopped, rfl⟩
  | false =>
      rw [reloaded_of_keep retry alone]
      exact ⟨⟨rfl, rfl, rfl, rfl⟩, stopped, awake.reason⟩

/-- The snapshot of a parked run tries again, unless it goes back. -/
theorem reloaded_of_parked {activation : Activation} (parked : activation.IsParked)
    (stays : ¬ activation.GoesBack) :
    activation.reloaded = activation.unparked.tallied {} 0 := by
  have retry : activation.isToRetry = true := by simp [isToRetry, parked.box]
  have here : (if activation.isBehindPrompt then activation.pointer - 1
      else activation.pointer) = activation.pointer := by
    split
    · rename_i behind
      have top : ¬ 0 < activation.pointer :=
        fun positive => stays ⟨behind, positive, parked.running⟩
      omega
    · rfl
  rw [reloaded_of_retry retry, here, parked.unparked_eq]
  simp [tallied, parked.silent, parked.held]

/-- The snapshot of a run that neither stands behind a prompt nor waits for the message box
is the run itself. -/
theorem reloaded_of_away {activation : Activation} (apart : activation.isBehindPrompt = false)
    (unparked : activation.isWaitingForMessage = false)
    (held : activation.holdPointer = false) (alone : activation.waitingFor ≠ some .callee) :
    activation.reloaded = activation.tallied {} 0 := by
  have keep : activation.isToRetry = false := by simp [isToRetry, apart, unparked]
  rw [reloaded_of_keep keep alone]
  simp [tallied, unparked, held]

/-- At the top of the script a snapshot cannot go back. -/
theorem reloaded_of_top {activation : Activation} (behind : activation.isBehindPrompt = true)
    (top : activation.pointer = 0) (awake : activation.IsAwake)
    (held : activation.holdPointer = false) :
    activation.reloaded = activation.tallied {} 0 := by
  rw [reloaded_of_behind behind]
  simp [tallied, top, awake.waiting, awake.reason, awake.box, held]

/-- The snapshot of a run that goes back stands on a prompt and waits for nothing. -/
theorem reloaded_of_goesBack {activation : Activation} (back : activation.GoesBack) :
    activation.reloaded.pointer + 1 = activation.pointer ∧
      activation.reloaded.isWaiting = false ∧ activation.reloaded.waitingFor = none ∧
      ∃ command, activation.script.command? activation.reloaded.pointer = some command ∧
        command.isInputPrompt = true := by
  obtain ⟨behind, positive, _⟩ := back
  rw [reloaded_of_behind behind]
  exact ⟨Nat.sub_add_cancel positive, rfl, rfl, command?_of_isBehindPrompt behind⟩

end Activation

/-- The snapshot of a run resumes it exactly, unless the command before the pointer is a
prompt. Then the reloaded run stands on that prompt, whether or not it ran last, and has
dropped its wait. -/
theorem session_reloaded {run : Activation} {commands : List Command}
    (compiled : Script.compile commands = .ok run.script) {last : Option Nat}
    {thread : Thread} {world : World} (reached : Reached run last thread world)
    (alone : thread.callees = []) (off : world.config.preview = false) :
    (¬ thread.root.GoesBack → ∀ calls,
        session calls { root := thread.root.reloaded } world = session calls thread world) ∧
      (thread.root.GoesBack →
        thread.root.reloaded.pointer + 1 = thread.root.pointer ∧
        thread.root.reloaded.isWaiting = false ∧ thread.root.reloaded.waitingFor = none ∧
        ∃ command, run.script.command? thread.root.reloaded.pointer = some command ∧
          command.isInputPrompt = true) := by
  obtain ⟨consistent, atTop⟩ := reached.restsAtTop
  have script := consistent.sameRun.script
  have single : thread = { root := thread.root } := by rw [← alone]
  rw [← script] at compiled ⊢
  refine ⟨?_, Activation.reloaded_of_goesBack⟩
  intro stays calls
  have plays := consistent.unpaused.2
  have exactly (same : thread.root.reloaded = thread.root.tallied {} 0) :
      session calls { root := thread.root.reloaded } world = session calls thread world := by
    refine Thread.Alike.session ?_ off calls
    rw [single, same]
    exact ⟨plays, {}, 0, rfl, rfl⟩
  cases running : thread.root.isRunning with
  | false =>
      have awake := consistent.stopped running
      obtain ⟨sameRun, stopped, silent⟩ := Activation.reloaded_of_stopped running awake
      rw [single]
      exact session_of_stopped sameRun ⟨running, stopped⟩ ⟨awake.reason, silent⟩ calls world
  | true =>
      cases box : thread.root.isWaitingForMessage with
      | true =>
          have parked := consistent.isParked box
          rw [single]
          refine session_of_parked parked ?_ off calls
          rw [Activation.reloaded_of_parked parked stays]
          refine ⟨?_, {}, 0, rfl, rfl⟩
          rw [parked.unparked_eq]
          exact plays
      | false =>
          have held := consistent.inPlace.free
          cases behind : thread.root.isBehindPrompt with
          | false =>
              refine exactly (Activation.reloaded_of_away behind box held ?_)
              intro calling
              exact consistent.calls.mpr calling alone
          | true =>
              have top : thread.root.pointer = 0 := by
                apply Nat.eq_zero_of_not_pos
                intro positive
                exact stays ⟨behind, positive, running⟩
              rcases atTop top with awake | parked | isLoop
              · exact exactly (Activation.reloaded_of_top behind top awake held)
              · exact absurd (parked.symm.trans box) (by decide)
              · obtain ⟨command, found, prompt⟩ :=
                  Activation.command?_of_isBehindPrompt behind
                rw [top] at found
                have other := Script.not_isInputPrompt_of_loop compiled found isLoop
                exact absurd (prompt.symm.trans other) (by decide)

/-! ## A prompt before a loop -/

/-- A loop that waits for a transition. -/
def changingLoop : Script where
  commands := #[{ id := "Loop" },
    { id := "ChangeScene", indent := 1, params := .record [("uid", .text "room")] }]
  instructions := #[some .loop, some (.changeScene "room")]
  jumpTargets := #[none, none]

/-- The same loop behind a prompt that is never reached. -/
def promptThenChangingLoop : Script where
  commands := #[{ id := "Label" },
    { id := "ShowChoices", indent := 1, params := .record [("choices", .list [])] },
    { id := "Loop" },
    { id := "ChangeScene", indent := 1, params := .record [("uid", .text "room")] }]
  instructions := #[some .label, some (.showChoices [] none), some .loop,
    some (.changeScene "room")]
  jumpTargets := #[none, none, none, none]

/-- A run that waits for a transition and is back at its loop. -/
private def changing (script : Script) (pointer : Nat) : Activation :=
  { context := { id := "scene" }, script, pointer, loops := #[some pointer],
    isRunning := true, isWaiting := true, waitingFor := some .transition }

/-- Without a prompt before the loop the snapshot resumes exactly. -/
theorem changingLoop_resumes :
    ∃ thread world,
      Script.compile changingLoop.commands.toList = .ok changingLoop ∧
      Reached (changing changingLoop 0) (some 1) thread world ∧ thread.callees = [] ∧
      world.config.preview = false ∧ thread.root.waitingFor = some .transition ∧
      ∀ calls,
        session calls { root := thread.root.reloaded } world = session calls thread world := by
  have updated : ∃ update, Thread.update
      { root := (changing changingLoop 0).anew.start } 2 .empty = some update ∧
      update.thread = { root := changing changingLoop 0 } := by
    rw [Thread.update_eq (by decide),
      updateFrame_of_awake (Activation.isAwake_start _) rfl (by decide),
      runCommands_step rfl rfl, runCommands_step rfl rfl, runCommands_of_unable rfl]
    exact ⟨_, rfl, rfl⟩
  have ran : lastRan none (Thread.visits
      { root := (changing changingLoop 0).anew.start } 2 .empty) = some 1 := by
    decide +kernel
  obtain ⟨update, updated, reached⟩ := Reached.first updated ran
  have off : update.world.config.preview = false := by
    rw [Thread.update_config updated]
    rfl
  have compiled : Script.compile changingLoop.commands.toList = .ok changingLoop := by rfl
  have stays : ¬ (changing changingLoop 0).GoesBack := fun back => absurd back.1 (by decide)
  exact ⟨_, _, compiled, reached, rfl, off, rfl,
    (session_reloaded compiled reached rfl off).1 stays⟩

/-- Behind the prompt the run that waits and its snapshot answer an event differently,
although the prompt never ran. -/
theorem not_always_resumes :
    ¬ ∀ (run : Activation) (commands : List Command) (last : Option Nat) (thread : Thread)
      (world : World),
      Script.compile commands = .ok run.script → Reached run last thread world →
      thread.callees = [] → world.config.preview = false →
      (∀ reason, thread.root.waitingFor = some reason → reason.isPrompt = false) →
      (∀ index command, last = some index → run.script.command? index = some command →
        command.isInputPrompt = false) →
      ∀ calls,
        session calls { root := thread.root.reloaded } world = session calls thread world := by
  intro resumes
  have updated : ∃ update, Thread.update
      { root := (changing promptThenChangingLoop 2).anew.start } 4 .empty = some update ∧
      update.thread = { root := changing promptThenChangingLoop 2 } := by
    rw [Thread.update_eq (by decide),
      updateFrame_of_awake (Activation.isAwake_start _) rfl (by decide),
      runCommands_step rfl rfl, runCommands_step rfl rfl, runCommands_step rfl rfl,
      runCommands_step rfl rfl, runCommands_of_unable rfl]
    exact ⟨_, rfl, rfl⟩
  have ran : lastRan none (Thread.visits
      { root := (changing promptThenChangingLoop 2).anew.start } 4 .empty) = some 3 := by
    decide +kernel
  obtain ⟨update, updated, reached⟩ := Reached.first updated ran
  have off : update.world.config.preview = false := by
    rw [Thread.update_config updated]
    rfl
  have compiled : Script.compile promptThenChangingLoop.commands.toList =
      .ok promptThenChangingLoop := by rfl
  have same := resumes (changing promptThenChangingLoop 2) _ (some 3)
    { root := changing promptThenChangingLoop 2 } _ compiled reached rfl off
    (by rintro _ ⟨⟩; rfl) (by rintro _ _ ⟨⟩ ⟨⟩; rfl) [.notify .transitionFinished]
  cases same

end NovelEngine
