import NovelEngine.Proofs.WaitState

/-!
Contract: jumps from outside of the script, whatever the run is suspended on.

Owns: where a run stands after a jump, and the exact condition under which its next update
executes the command it has jumped to.

Does not own: jumps of the script itself, after which the run is not suspended.

A jump ends a countdown and a wait for an event. It neither drops a called script nor ends
the wait for a message box, which an update looks at before it executes anything.
-/

namespace NovelEngine

/-! ## Where a jump leads -/

/-- The run has jumped to `index`, directly or through a label there. -/
inductive Activation.Jumped (activation : Activation) (index : Nat) : Activation → Prop where
  | direct : Jumped activation index (activation.jumpTo index)
  | label {name : String} {jumped : Activation}
      (jump : activation.jumpToLabel name = .ok jumped) (there : jumped.pointer = index) :
      Jumped activation index jumped

/-- What a jump makes of a run: it stands on its target and neither counts down nor waits for
an event. -/
structure Activation.StandsAt (before : Activation) (index : Nat) (after : Activation) :
    Prop where
  sameRun : before.SameRun after
  pointer : after.pointer = index
  indent : ∀ command, before.script.command? index = some command →
    after.indent = command.indent
  idle : after.isWaiting = false
  counter : after.waitCounter = 0
  running : after.isRunning = before.isRunning
  box : after.isWaitingForMessage = before.isWaitingForMessage
  preview : after.preview = before.preview

namespace Activation

variable {activation : Activation} {index : Nat}

theorem standsAt_jumpTo (labels : Registry String Nat) :
    activation.StandsAt index ({ activation with labels }.jumpTo index) where
  sameRun := ⟨rfl, rfl, rfl, rfl⟩
  pointer := rfl
  indent := by
    intro command found
    simp [jumpTo, clearWait, found]
  idle := rfl
  counter := rfl
  running := rfl
  box := rfl
  preview := rfl

theorem Jumped.standsAt {jumped : Activation} (jumps : activation.Jumped index jumped) :
    activation.StandsAt index jumped := by
  cases jumps with
  | direct => exact standsAt_jumpTo activation.labels
  | label jump there =>
      obtain ⟨labels, target, equal⟩ := jumpToLabel_eq jump
      have same : target = index := by
        rw [← there, equal]
        rfl
      rw [equal, same]
      exact standsAt_jumpTo labels

/-! ## The update behind a jump -/

variable {jumped : Activation} {world : World}

/-- A run that has jumped does not end. -/
theorem StandsAt.isAtEnd (stands : activation.StandsAt index jumped)
    (inside : index < activation.script.size) : jumped.isAtEnd = false := by
  have before : jumped.pointer < jumped.script.size := by
    rw [stands.pointer, stands.sameRun.script]
    exact inside
  simp [Activation.isAtEnd, before]

/-- The wait for the message box is the only one that a jump leaves to a run. -/
theorem StandsAt.rests_eq (stands : activation.StandsAt index jumped)
    (running : activation.isRunning = true) (world : World) :
    jumped.rests world = (activation.isWaitingForMessage && activation.isLockedOut world) := by
  have locked : jumped.isLockedOut world = activation.isLockedOut world := by
    unfold isLockedOut
    rw [stands.sameRun.context, stands.sameRun.callers]
  simp [rests, stands.running, running, stands.counter, stands.box, locked]

/-- Nothing holds up a run that has jumped and does not wait for the box any more. -/
theorem StandsAt.runsNext (stands : activation.StandsAt index jumped)
    (running : activation.isRunning = true) (inside : index < activation.script.size)
    (unpaused : activation.preview.cursor = none ∧ activation.preview.waiting = false) :
    jumped.unparked.canStep = true ∧ jumped.unparked.runsNext world = true ∧
      jumped.unparked.pointer = index := by
  obtain ⟨command, found⟩ := Script.command?_of_lt inside
  have fields : jumped.unparked.isWaiting = false ∧ jumped.unparked.preview = jumped.preview ∧
      jumped.unparked.pointer = jumped.pointer ∧ jumped.unparked.script = jumped.script ∧
      jumped.unparked.isRunning = jumped.isRunning ∧
      jumped.unparked.indent = jumped.indent := by
    unfold unparked
    by_cases parked : jumped.isWaitingForMessage = true
    · rw [if_pos parked]
      exact ⟨rfl, rfl, rfl, rfl, rfl, rfl⟩
    · rw [if_neg parked]
      exact ⟨stands.idle, rfl, rfl, rfl, rfl, rfl⟩
  obtain ⟨idle, preview, pointer, script, alive, indent⟩ := fields
  have sameScript : jumped.unparked.script = activation.script :=
    script.trans stands.sameRun.script
  have samePointer : jumped.unparked.pointer = index := pointer.trans stands.pointer
  have samePreview : jumped.unparked.preview = activation.preview :=
    preview.trans stands.preview
  refine ⟨?_, ?_, samePointer⟩
  · simp [canStep, idle, samePreview, unpaused.2, samePointer, sameScript, inside, alive,
      stands.running, running]
  · simp [Activation.runsNext, sameScript, samePointer, found, indent,
      stands.indent command found, samePreview, unpaused.1]

/-- Its next update executes the command at the target first. -/
theorem StandsAt.runs (stands : activation.StandsAt index jumped)
    (running : activation.isRunning = true) (inside : index < activation.script.size)
    (unpaused : activation.preview.cursor = none ∧ activation.preview.waiting = false)
    (free : (activation.isWaitingForMessage && activation.isLockedOut world) = false)
    (fuel : Nat) :
    (ranCommands (Thread.visits { root := jumped } (fuel + 1) world)).head? = some index := by
  have rests : jumped.rests (world.resetTemporaries jumped.context) = false :=
    (stands.rests_eq running _).trans free
  have visits : Thread.visits { root := jumped } (fuel + 1) world = frameVisits (fuel + 1)
      (Thread.calleeRunner { root := jumped } (fuel + 1)) jumped world := rfl
  obtain ⟨able, runs, pointer⟩ :=
    @StandsAt.runsNext _ _ _ (world.resetTemporaries jumped.context) stands running inside
      unpaused
  rw [visits, frameVisits_of_goes (stands.isAtEnd inside) rests, ← pointer]
  unfold commandVisits
  rw [if_pos able]
  exact ranCommands_of_runsNext runs _

/-- While the box is locked, a run that waits for it stays on its target. -/
theorem StandsAt.parks (stands : activation.StandsAt index jumped)
    (running : activation.isRunning = true) (inside : index < activation.script.size)
    (parked : (activation.isWaitingForMessage && activation.isLockedOut world) = true)
    (fuel : Nat) :
    Thread.visits { root := jumped } (fuel + 1) world = [] ∧
      ∀ update, Thread.update { root := jumped } (fuel + 1) world = some update →
        update.progress = .running ∧ update.thread.root.pointer = index := by
  have goes := stands.isAtEnd inside
  have stays : jumped.restarted = jumped := by simp [restarted, goes]
  have rests : jumped.rests (world.resetTemporaries jumped.context) = true :=
    (stands.rests_eq running _).trans parked
  constructor
  · show frameVisits (fuel + 1) _ jumped world = []
    simp [frameVisits, stays, rests]
  · intro update updated
    have unended : jumped.endsHere = false := by simp [endsHere, goes]
    rcases updateFrame_cases (Thread.update_single updated).2 with
      ⟨ends, _⟩ | ⟨_, ⟨_, progress, _, rest⟩ | ⟨moves, _⟩⟩
    · rw [unended] at ends
      cases ends
    · rw [stays] at rest
      rcases rest with same | ⟨_, counting, _⟩
      · refine ⟨progress, ?_⟩
        rw [same]
        exact stands.pointer
      · rw [stands.counter] at counting
        cases counting
    · rw [stays, rests] at moves
      cases moves

/-- A run that has called a script stays on its target. -/
theorem StandsAt.calls (stands : activation.StandsAt index jumped) (callee : Activation)
    (rest : List Activation) (world : World) (fuel : Nat) :
    Thread.visits { root := jumped, callees := callee :: rest } (fuel + 1) world = [] ∧
      ∀ update,
        Thread.update { root := jumped, callees := callee :: rest } (fuel + 1) world =
          some update →
        update.progress = .running ∧ update.thread.root.pointer = index := by
  refine ⟨rfl, ?_⟩
  intro update updated
  obtain ⟨_, _, progress, ⟨_, same, _⟩ | ⟨_, same, _⟩⟩ := Thread.update_calling updated
  · refine ⟨progress, ?_⟩
    rw [same]
    exact stands.pointer
  · refine ⟨progress, ?_⟩
    rw [same]
    exact stands.pointer

end Activation

/-- Nothing is left of a thread that a jump does not end: no script that was called, and no
wait for a message box that is still locked. -/
def Thread.IsUnheld (thread : Thread) (world : World) : Prop :=
  thread.callees = [] ∧
    (thread.root.isWaitingForMessage && thread.root.isLockedOut world) = false

/-- After a jump the next update executes the command at the target first, exactly if the run
has called no script and does not wait for a message box that is still locked. Otherwise the
update executes no command of the run, which stays on the target. -/
theorem Driven.jump_runs_iff {run : Activation} {thread : Thread} (driven : Driven run thread)
    (running : thread.root.isRunning = true) {index : Nat} (inside : index < run.script.size)
    {jumped : Activation} (jumps : thread.root.Jumped index jumped) (later : World)
    (fuel : Nat) :
    ((ranCommands (Thread.visits { thread with root := jumped } (fuel + 1) later)).head? =
        some index ↔ thread.IsUnheld later) ∧
      (¬ thread.IsUnheld later →
        Thread.visits { thread with root := jumped } (fuel + 1) later = [] ∧
        ∀ update, Thread.update { thread with root := jumped } (fuel + 1) later = some update →
          update.progress = .running ∧ update.thread.root.pointer = index) := by
  have unpaused := driven.settledThroughout.settled.unpaused
  have stands := jumps.standsAt
  rw [← driven.sameRun.script] at inside
  obtain ⟨root, callees⟩ := thread
  have stays : ¬ Thread.IsUnheld { root, callees } later →
      Thread.visits { root := jumped, callees } (fuel + 1) later = [] ∧
      ∀ update, Thread.update { root := jumped, callees } (fuel + 1) later = some update →
        update.progress = .running ∧ update.thread.root.pointer = index := by
    intro held
    cases callees with
    | cons callee rest => exact stands.calls callee rest later fuel
    | nil =>
        have parked : (root.isWaitingForMessage && root.isLockedOut later) = true :=
          Bool.of_not_eq_false (fun free => held ⟨rfl, free⟩)
        exact stands.parks running inside parked fuel
  refine ⟨⟨?_, ?_⟩, stays⟩
  · intro runs
    apply Classical.byContradiction
    intro held
    have silent : Thread.visits { root := jumped, callees } (fuel + 1) later = [] :=
      (stays held).1
    rw [silent] at runs
    cases runs
  · rintro ⟨alone, free⟩
    cases alone
    exact stands.runs running inside unpaused free fuel

/-! ## A message that nobody has read -/

/-- A message in front of a label. -/
def messageThenLabel : Script where
  commands := #[{ id := "ShowMessage", params := .record [("text", .text "hi")] },
    { id := "Label" }]
  instructions := #[some (.showMessage (.literal (.text "hi")) none none), some .label]
  jumpTargets := #[none, none]

private def greeter : Activation :=
  { context := { id := "greeter" }, script := messageThenLabel }

private theorem reached_greeted {world : World} {update : Update}
    (updated : Thread.update { root := greeter.anew.start } 1 world = some update) :
    ∃ last, Reached greeter last update.thread update.world :=
  ⟨_, .update (.start (.anew world)) updated⟩

/-- A jump ends the wait for the player to read the message. -/
theorem messageThenLabel_jumps :
    ∃ last thread world, Reached greeter last thread world ∧
      thread.root.waitingFor = some .message ∧
      (ranCommands (Thread.visits { thread with root := thread.root.jumpTo 1 } 1 world)).head? =
        some 1 := by
  have ran : (Thread.update { root := greeter.anew.start } 1 .empty).any (fun update =>
      update.thread.root.isRunning && decide (update.thread.root.waitingFor = some .message) &&
      update.thread.callees.isEmpty && !update.thread.root.isWaitingForMessage) = true := by
    decide +kernel
  obtain ⟨update, updated, facts⟩ := (Option.any_eq_true _ _).mp ran
  simp only [Bool.and_eq_true, decide_eq_true_eq, List.isEmpty_iff, Bool.not_eq_true'] at facts
  obtain ⟨⟨⟨running, waits⟩, alone⟩, free⟩ := facts
  obtain ⟨last, reached⟩ := reached_greeted updated
  have inside : 1 < greeter.script.size := by decide
  have unheld : update.thread.IsUnheld update.world := ⟨alone, by simp [free]⟩
  have jumps := Driven.jump_runs_iff reached.driven running inside .direct update.world 0
  exact ⟨last, update.thread, update.world, reached, waits, jumps.1.mpr unheld⟩

/-- While somebody else is asked for a number, a run that has jumped away from a message
still waits for the box. -/
theorem not_always_jumps :
    ¬ ∀ (run : Activation) (commands : List Command) (last : Option Nat) (thread : Thread)
      (world : World) (index fuel : Nat),
      Script.compile commands = .ok run.script → Reached run last thread world →
      thread.root.isRunning = true → index < run.script.size →
      (ranCommands (Thread.visits { thread with root := thread.root.jumpTo index } (fuel + 1)
        world)).head? = some index := by
  intro always
  have ran : (Thread.update { root := greeter.anew.start } 1
      { World.empty with
        box := { owner := some { id := "asker" }, content := some (.numberInput 1) } }).any
      (fun update => update.thread.root.isRunning &&
        decide ((ranCommands (Thread.visits
          { update.thread with root := update.thread.root.jumpTo 1 } 1
          update.world)).head? ≠ some 1)) = true := by
    decide +kernel
  obtain ⟨update, updated, facts⟩ := (Option.any_eq_true _ _).mp ran
  simp only [Bool.and_eq_true, decide_eq_true_eq] at facts
  obtain ⟨last, reached⟩ := reached_greeted updated
  have compiled : Script.compile messageThenLabel.commands.toList = .ok messageThenLabel := by
    rfl
  have inside : 1 < greeter.script.size := by decide
  exact facts.2 (always _ _ _ _ _ 1 0 compiled reached facts.1 inside)

end NovelEngine
