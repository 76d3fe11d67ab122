import Mathlib.Logic.Function.Iterate
import NovelEngine.Proofs.PromptSaving
import NovelEngine.Proofs.WaitState

/-!
Contract: snapshots that are loaded and taken again without an update in between.

Owns:
- the prompts that stand in a row right before a position;
- what any number of cycles of loading and saving makes of a snapshot, and the exact
  condition under which it is kept.

Does not own: how a loaded run goes on.

A snapshot that was taken behind a prompt stands on that prompt. The next snapshot looks
again at the command before its position, so it goes back once more if two prompts follow
each other.
-/

namespace NovelEngine

/-! ## Prompts in a row -/

namespace Script

/-- Whether the command at `index` asks the player for an answer. -/
def asksAt (script : Script) (index : Nat) : Bool :=
  match script.command? index with
  | some command => command.isInputPrompt
  | none => false

/-- How many prompts stand in a row right before `pointer`. -/
def promptsBefore (script : Script) : Nat → Nat
  | 0 => 0
  | pointer + 1 => if script.asksAt pointer then script.promptsBefore pointer + 1 else 0

theorem promptsBefore_le (script : Script) (pointer : Nat) :
    script.promptsBefore pointer ≤ pointer := by
  induction pointer with
  | zero => exact Nat.le_refl 0
  | succ pointer inductionHypothesis =>
      unfold promptsBefore
      by_cases asks : script.asksAt pointer = true
      · rw [if_pos asks]
        omega
      · rw [if_neg asks]
        omega

end Script

/-! ## One cycle -/

/-- A snapshot is loaded into a run and taken again. -/
def Activation.resave (activation : Activation) (state : SavedState) : SavedState :=
  (activation.restore state).save

/-- A snapshot waits for no called script, and behind a prompt it waits for nothing. -/
structure SavedState.FitsFor (state : SavedState) (script : Script) : Prop where
  alone : state.waitingFor ≠ some .callee
  quiet : script.asksAt (state.pointer - 1) = true →
    state.isWaiting = false ∧ state.waitingFor = none

namespace SavedState.FitsFor

variable {state : SavedState} {activation : Activation}

/-- The snapshot of a run that waits for no called script. -/
theorem ofSave (alone : activation.waitingFor ≠ some .callee) :
    activation.save.FitsFor activation.script := by
  cases behind : activation.isBehindPrompt with
  | true =>
      have retries : activation.isToRetry = true := by simp [Activation.isToRetry, behind]
      have silent : activation.save.isWaiting = false ∧ activation.save.waitingFor = none := by
        simp [Activation.save, retries]
      refine ⟨?_, fun _ => silent⟩
      rw [silent.2]
      intro waits
      cases waits
  | false =>
      have here : activation.save.pointer = activation.pointer := by
        simp [Activation.save, behind]
      refine ⟨?_, ?_⟩
      · cases retries : activation.isToRetry with
        | true => simp [Activation.save, retries]
        | false => simpa [Activation.save, retries] using alone
      · intro asks
        rw [here] at asks
        have other : activation.isBehindPrompt = true := asks
        rw [behind] at other
        cases other

/-- Going back keeps a snapshot fit. -/
theorem back (fits : state.FitsFor activation.script)
    (asks : activation.script.asksAt (state.pointer - 1) = true) :
    SavedState.FitsFor { state with pointer := state.pointer - 1 } activation.script where
  alone := fits.alone
  quiet := fun _ => fits.quiet asks

/-- A snapshot that is not behind a prompt is kept by a cycle. -/
theorem resave_of_away (fits : state.FitsFor activation.script)
    (away : activation.script.asksAt (state.pointer - 1) = false) :
    activation.resave state = state := by
  have restored : activation.restore state =
      { activation with
        pointer := state.pointer
        conditions := state.conditions
        loops := state.loops
        labels := state.labels
        isWaiting := state.isWaiting
        isRunning := state.isRunning
        waitCounter := state.waitCounter
        waitingFor := state.waitingFor
        indent := state.indent
        settings := state.settings
        isWaitingForMessage := false
        holdPointer := false } := by
    simp [Activation.restore, fits.alone]
  have apart : (activation.restore state).isBehindPrompt = false := by
    rw [restored]
    exact away
  have keeps : (activation.restore state).isToRetry = false := by
    unfold Activation.isToRetry
    rw [apart, restored]
    rfl
  unfold Activation.resave Activation.save
  rw [apart, keeps, restored]
  rfl

/-- A snapshot behind a prompt goes back to it in a cycle. -/
theorem resave_of_behind (fits : state.FitsFor activation.script)
    (asks : activation.script.asksAt (state.pointer - 1) = true) :
    activation.resave state = { state with pointer := state.pointer - 1 } := by
  obtain ⟨awake, silent⟩ := fits.quiet asks
  have behind : (activation.restore state).isBehindPrompt = true := by
    unfold Activation.restore
    rw [if_neg fits.alone]
    exact asks
  have retries : (activation.restore state).isToRetry = true := by
    simp [Activation.isToRetry, behind]
  unfold Activation.resave Activation.save
  rw [behind, retries]
  unfold Activation.restore
  rw [if_neg fits.alone]
  simp only [if_true, awake, silent]

/-! ## Any number of cycles -/

/-- Each cycle goes back by one prompt, as long as there is one right before. -/
theorem iterate_resave (fits : state.FitsFor activation.script) (count : Nat) :
    activation.resave^[count] state =
      { state with
        pointer := state.pointer - min count (activation.script.promptsBefore state.pointer) } := by
  induction count generalizing state with
  | zero => simp
  | succ count inductionHypothesis =>
      rw [Function.iterate_succ_apply]
      cases asks : activation.script.asksAt (state.pointer - 1) with
      | false =>
          have none : activation.script.promptsBefore state.pointer = 0 := by
            cases here : state.pointer with
            | zero => rfl
            | succ pointer =>
                rw [here, Nat.add_sub_cancel] at asks
                simp [Script.promptsBefore, asks]
          rw [fits.resave_of_away asks, inductionHypothesis fits, none]
          simp
      | true =>
          rw [fits.resave_of_behind asks, inductionHypothesis (fits.back asks)]
          cases here : state.pointer with
          | zero => simp [Script.promptsBefore]
          | succ pointer =>
              rw [here, Nat.add_sub_cancel] at asks
              have more : activation.script.promptsBefore (pointer + 1) =
                  activation.script.promptsBefore pointer + 1 := if_pos asks
              rw [more, Nat.add_sub_cancel]
              congr 1
              dsimp only
              omega

end SavedState.FitsFor

/-- Loading and saving a snapshot over and over goes back through the prompts that stand in
a row right before its position, one in each cycle. The snapshot is kept exactly if there
is none. -/
theorem Driven.resave_iff {run : Activation} {thread : Thread} (driven : Driven run thread)
    (alone : thread.callees = []) {other : Activation} (same : other.script = run.script) :
    (∀ count, other.resave^[count] thread.root.save =
        { thread.root.save with
          pointer := thread.root.save.pointer -
            min count (run.script.promptsBefore thread.root.save.pointer) }) ∧
      (other.resave thread.root.save = thread.root.save ↔
        run.script.promptsBefore thread.root.save.pointer = 0) := by
  have single : thread.root.waitingFor ≠ some .callee := by
    intro calling
    exact driven.settledThroughout.settled.calls.mpr calling alone
  have fits : thread.root.save.FitsFor other.script := by
    rw [same, ← driven.sameRun.script]
    exact .ofSave single
  have cycles := fits.iterate_resave
  rw [same] at cycles
  refine ⟨cycles, ?_⟩
  have once : other.resave thread.root.save = _ := cycles 1
  rw [once]
  have bound := run.script.promptsBefore_le thread.root.save.pointer
  constructor
  · intro kept
    have pointer := congrArg SavedState.pointer kept
    dsimp only at pointer
    omega
  · intro none
    rw [none]
    rfl

/-! ## Prompts one after the other -/

private def offeredChoice : Command :=
  { id := "ShowChoices", params := .record [("choices", .list [.record [("text", .text "go")]])] }

private def offering : Instruction :=
  .showChoices [{ text := .literal (.text "go"), label := none }] none

/-- A prompt that follows a label. -/
def labelThenPrompt : Script where
  commands := #[{ id := "Label" }, offeredChoice]
  instructions := #[some .label, some offering]
  jumpTargets := #[none, none]

/-- Two prompts, one after the other. -/
def promptThenPrompt : Script where
  commands := #[offeredChoice, offeredChoice]
  instructions := #[some offering, some offering]
  jumpTargets := #[none, none]

private def resaving (script : Script) : Activation :=
  { context := { id := "scene" }, script }

/-- The state in which a script waits for its first answer. -/
private def firstAsked? (script : Script) : Option (Thread × World) :=
  (Thread.update { root := (resaving script).anew.start } 2 .empty).map
    (fun update => (update.thread, update.world))

/-- The state in which a script waits for its second answer. -/
private def secondAsked? (script : Script) : Option (Thread × World) := do
  let asked ← firstAsked? script
  let answered ← asked.1.notify? asked.2 (.choiceSelected 0)
  let update ← answered.thread.update 2 answered.world
  return (update.thread, update.world)

private theorem reached_firstAsked {script : Script} {state : Thread × World}
    (asked : firstAsked? script = some state) :
    ∃ last, Reached (resaving script) last state.1 state.2 := by
  obtain ⟨update, updated, rfl⟩ := Option.map_eq_some_iff.mp asked
  exact ⟨_, .update (.start (.anew .empty)) updated⟩

private theorem reached_secondAsked {script : Script} {state : Thread × World}
    (asked : secondAsked? script = some state) :
    ∃ last, Reached (resaving script) last state.1 state.2 := by
  obtain ⟨before, first, asked⟩ := Option.bind_eq_some_iff.mp asked
  obtain ⟨answered, accepted, asked⟩ := Option.bind_eq_some_iff.mp asked
  obtain ⟨update, updated, asked⟩ := Option.bind_eq_some_iff.mp asked
  cases asked
  obtain ⟨last, reached⟩ := reached_firstAsked first
  exact ⟨_, .update (.notify reached accepted) updated⟩

/-- The snapshot of a prompt behind a label stands on the prompt through all cycles. -/
theorem labelThenPrompt_resaved :
    ∃ last thread world, Reached (resaving labelThenPrompt) last thread world ∧
      thread.callees = [] ∧ thread.root.save.pointer = 1 ∧
      ∀ count, (resaving labelThenPrompt).resave^[count] thread.root.save =
        thread.root.save := by
  have ran : (firstAsked? labelThenPrompt).any (fun (thread, _) =>
      thread.callees.isEmpty && decide (thread.root.save.pointer = 1)) = true := by
    decide +kernel
  obtain ⟨⟨thread, world⟩, asked, facts⟩ := (Option.any_eq_true _ _).mp ran
  simp only [Bool.and_eq_true, decide_eq_true_eq, List.isEmpty_iff] at facts
  obtain ⟨alone, pointer⟩ := facts
  obtain ⟨last, reached⟩ := reached_firstAsked asked
  have none : labelThenPrompt.promptsBefore 1 = 0 := by decide
  have same : (resaving labelThenPrompt).script = (resaving labelThenPrompt).script := rfl
  obtain ⟨cycles, _⟩ := Driven.resave_iff reached.driven alone same
  refine ⟨last, thread, world, reached, alone, pointer, ?_⟩
  intro count
  rw [cycles, pointer]
  show { thread.root.save with pointer := 1 - min count (labelThenPrompt.promptsBefore 1) } = _
  rw [none, Nat.min_zero, Nat.sub_zero, ← pointer]

/-- The snapshot of the second of two prompts is on the first one after a cycle. -/
theorem not_always_resaved :
    ¬ ∀ (run : Activation) (commands : List Command) (last : Option Nat) (thread : Thread)
      (world : World) (other : Activation),
      Script.compile commands = .ok run.script → Reached run last thread world →
      thread.callees = [] → other.script = run.script →
      other.resave thread.root.save = thread.root.save := by
  intro always
  have ran : (secondAsked? promptThenPrompt).any (fun (thread, _) =>
      thread.callees.isEmpty &&
        !decide ((resaving promptThenPrompt).resave thread.root.save = thread.root.save)) =
      true := by
    decide +kernel
  obtain ⟨⟨thread, world⟩, asked, facts⟩ := (Option.any_eq_true _ _).mp ran
  simp only [Bool.and_eq_true, Bool.not_eq_true', decide_eq_false_iff_not,
    List.isEmpty_iff] at facts
  obtain ⟨last, reached⟩ := reached_secondAsked asked
  have compiled : Script.compile promptThenPrompt.commands.toList = .ok promptThenPrompt := by
    rfl
  exact facts.2 (always _ _ _ _ _ _ compiled reached facts.1 rfl)

end NovelEngine
