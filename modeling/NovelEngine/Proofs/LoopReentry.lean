import NovelEngine.Proofs.Blocks

/-!
Contract: which loop a run goes back to when it leaves a block.

Owns:
- the exact condition under which a step goes back to a given loop;
- the scripts in which a loop is left by a break only.

Does not own: jumps, which leave loops registered behind them.

The next command decides by its indent alone, so a loop is entered again only if the
command behind its block stands at the loop's own indent. At the end of the script
the innermost registered loop is searched instead.
-/

namespace NovelEngine

namespace Script

/-- Whether the pointer moves through blocks only: no command jumps or leaves the script. -/
def HasNoJumps (script : Script) : Prop :=
  ∀ index, script.instruction? index ≠ some .exitEvent ∧
    ∀ name, script.instruction? index ≠ some (.jumpToLabel name)

/-- Whether the command behind the block of every loop, if there is one, stands at the
indent of the loop. -/
def LoopsAligned (script : Script) : Prop :=
  ∀ start index next, script.instruction? start = some .loop →
    script.Surrounds start index → ¬ script.Surrounds start (index + 1) →
    script.command? (index + 1) = some next → next.indent = script.indentAt start

end Script

namespace Activation

/-- Whether the loop command at `start` was executed and is still registered: no break has
closed it and no other loop has taken its place. -/
def IsOpen (activation : Activation) (start : Nat) : Prop :=
  activation.loopStart? (activation.script.indentAt start) = some start

/-- When the step behind the current command goes back to the loop at `start`: the loop is
open, the run is inside its block, and the next command stands at the indent of the
loop; at the end of the script, no other loop is registered further inside. -/
def ReturnsTo (activation : Activation) (start : Nat) : Prop :=
  activation.IsOpen start ∧ activation.script.indentAt start < activation.indent ∧
    match activation.script.command? (activation.pointer + 1) with
    | some next => next.indent = activation.script.indentAt start
    | none => ∀ level, activation.script.indentAt start < level →
        level ≤ activation.indent → activation.loopStart? level = none

/-- The indent that the step behind the current command settles on, and the loop there. -/
private theorem stepPast_position {activation : Activation}
    (free : activation.holdPointer = false) {indent : Nat}
    (next : { activation with pointer := activation.pointer + 1 }.nextIndent = indent) :
    (indent < activation.indent ∧ activation.stepPast.indent = indent ∧
        activation.stepPast.pointer =
          (activation.loopStart? indent).getD (activation.pointer + 1)) ∨
      (¬ indent < activation.indent ∧
        activation.stepPast.pointer = activation.pointer + 1) := by
  rw [stepPast_of_free free]
  unfold settleIndent
  rw [next]
  dsimp only
  split
  · rename_i lower
    exact .inl ⟨lower, rfl, rfl⟩
  · rename_i deeper
    exact .inr ⟨deeper, rfl⟩

private theorem nextIndent_of_some {activation : Activation} {next : Command}
    (found : activation.script.command? (activation.pointer + 1) = some next) :
    { activation with pointer := activation.pointer + 1 }.nextIndent = next.indent := by
  simp [nextIndent, found]

private theorem nextIndent_of_none {activation : Activation}
    (missing : activation.script.command? (activation.pointer + 1) = none) :
    { activation with pointer := activation.pointer + 1 }.nextIndent =
      activation.enclosingLoop activation.indent := by
  simp only [nextIndent, missing]
  refine enclosingLoop_congr ?_ _
  rfl

/-- Going back to a loop is decided by the indent that the step settles on. -/
private theorem stepPast_pointer_iff {activation : Activation} (sound : activation.LoopsSound)
    (free : activation.holdPointer = false) {start : Nat}
    (apart : start ≠ activation.pointer + 1) {indent : Nat}
    (next : { activation with pointer := activation.pointer + 1 }.nextIndent = indent) :
    activation.stepPast.pointer = start ↔
      activation.IsOpen start ∧ indent = activation.script.indentAt start ∧
        indent < activation.indent := by
  rcases stepPast_position free next with ⟨lower, _, pointer⟩ | ⟨deeper, pointer⟩
  · rw [pointer]
    cases registered : activation.loopStart? indent with
    | none =>
        rw [Option.getD_none]
        constructor
        · intro back
          exact absurd back.symm apart
        · rintro ⟨isOpen, same, _⟩
          unfold IsOpen at isOpen
          rw [← same, registered] at isOpen
          cases isOpen
    | some loop =>
        rw [Option.getD_some]
        constructor
        · intro back
          subst back
          have same := sound.indentAt registered
          refine ⟨?_, same.symm, lower⟩
          unfold IsOpen
          rw [same]
          exact registered
        · rintro ⟨isOpen, same, _⟩
          unfold IsOpen at isOpen
          rw [← same, registered] at isOpen
          exact Option.some.inj isOpen
  · rw [pointer]
    constructor
    · intro back
      exact absurd back.symm apart
    · rintro ⟨_, _, lower⟩
      exact absurd lower deeper

/-- The exact condition for going to the loop at `start` other than by stepping on it. -/
theorem stepPast_goesTo_iff {activation : Activation} (sound : activation.LoopsSound)
    (free : activation.holdPointer = false) {start : Nat}
    (apart : start ≠ activation.pointer + 1) :
    activation.stepPast.pointer = start ↔ activation.ReturnsTo start := by
  unfold ReturnsTo
  cases next : activation.script.command? (activation.pointer + 1) with
  | some command =>
      rw [stepPast_pointer_iff sound free apart (nextIndent_of_some next)]
      constructor
      · rintro ⟨isOpen, same, lower⟩
        exact ⟨isOpen, same ▸ lower, same⟩
      · rintro ⟨isOpen, inside, same⟩
        exact ⟨isOpen, same, same ▸ inside⟩
  | none =>
      rw [stepPast_pointer_iff sound free apart (nextIndent_of_none next)]
      constructor
      · rintro ⟨isOpen, same, lower⟩
        refine ⟨isOpen, same ▸ lower, ?_⟩
        intro level above below
        exact activation.loopStart?_above_enclosingLoop (same ▸ above) below
      · rintro ⟨isOpen, inside, noneInside⟩
        have reaches := activation.le_enclosingLoop isOpen (Nat.le_of_lt inside)
        have same : activation.enclosingLoop activation.indent =
            activation.script.indentAt start := by
          by_cases above : activation.script.indentAt start <
              activation.enclosingLoop activation.indent
          · obtain ⟨loop, registered⟩ := loopStart?_enclosingLoop (Nat.zero_lt_of_lt above)
            rw [noneInside _ above (activation.enclosingLoop_le _)] at registered
            cases registered
          · omega
        exact ⟨isOpen, same, same ▸ inside⟩

/-- The exact condition for going back to the loop at `start`. -/
theorem stepPast_returns_iff {activation : Activation} (sound : activation.LoopsSound)
    (free : activation.holdPointer = false) {start : Nat}
    (behind : start ≤ activation.pointer) :
    activation.stepPast.pointer = start ↔ activation.ReturnsTo start :=
  stepPast_goesTo_iff sound free (by omega)

/-- A run that goes back to a loop takes over its indent. -/
theorem stepPast_indent_of_returns {activation : Activation} (sound : activation.LoopsSound)
    (free : activation.holdPointer = false) {start : Nat}
    (behind : start ≤ activation.pointer) (back : activation.stepPast.pointer = start) :
    activation.stepPast.indent = activation.script.indentAt start := by
  rcases stepPast_position free rfl with ⟨_, settled, _⟩ | ⟨_, pointer⟩
  · rw [settled]
    exact ((stepPast_pointer_iff sound free (by omega) rfl).mp back).2.1
  · omega

/-! ## Loops that are left by a break only -/

/-- Every registered loop is the command at the pointer, about to start again, or surrounds
all commands up to the pointer and has been entered. -/
def LoopsEntered (activation : Activation) : Prop :=
  ∀ level start, activation.loopStart? level = some start →
    start = activation.pointer ∧ level = activation.indent ∨
      level < activation.indent ∧ start < activation.pointer ∧
        ∀ between, start < between → between < activation.pointer →
          level < activation.script.indentAt between

/-- Every registered loop surrounds the pointer and has been entered. -/
def LoopsAround (activation : Activation) : Prop :=
  ∀ level start, activation.loopStart? level = some start →
    level < activation.indent ∧ activation.script.Surrounds start activation.pointer

theorem LoopsEntered.congr {left right : Activation} (entered : left.LoopsEntered)
    (script : right.script = left.script) (loops : right.loops = left.loops)
    (pointer : right.pointer = left.pointer) (indent : right.indent = left.indent) :
    right.LoopsEntered := by
  intro level start registered
  rw [loopStart?_congr loops] at registered
  rw [script, pointer, indent]
  exact entered level start registered

theorem LoopsEntered.counted {activation : Activation} (entered : activation.LoopsEntered)
    (config : Config) (executed : Nat) :
    (activation.counted config executed).LoopsEntered := by
  obtain ⟨_, _, _, equal⟩ := activation.counted_eq config executed
  rw [equal]
  exact entered.congr rfl rfl rfl rfl

theorem LoopsAround.mono {left right : Activation} (around : left.LoopsAround)
    (script : right.script = left.script) (loops : right.loops = left.loops)
    (pointer : right.pointer = left.pointer) (indent : left.indent ≤ right.indent) :
    right.LoopsAround := by
  intro level start registered
  rw [loopStart?_congr loops] at registered
  rw [script, pointer]
  exact ⟨Nat.lt_of_lt_of_le (around level start registered).1 indent,
    (around level start registered).2⟩

/-- A loop that surrounds the commands before the pointer surrounds the pointer. -/
private theorem surrounds_pointer {activation : Activation} (inPlace : activation.InPlace)
    {command : Command} (found : activation.script.command? activation.pointer = some command)
    {level start : Nat} (registered : activation.loopStart? level = some start)
    (inside : level < activation.indent) (behind : start < activation.pointer)
    (deeper : ∀ between, start < between → between < activation.pointer →
      level < activation.script.indentAt between) :
    activation.script.Surrounds start activation.pointer := by
  refine ⟨Nat.le_of_lt behind, ?_⟩
  intro between after before
  rw [inPlace.loops.indentAt registered]
  by_cases last : between = activation.pointer
  · rw [last, Script.indentAt_eq found]
    exact Nat.lt_of_lt_of_le inside (inPlace.indent found)
  · exact deeper between after (by omega)

/-- Unless a loop is about to start again, all registered loops surround the pointer. -/
theorem LoopsEntered.around {activation : Activation} (entered : activation.LoopsEntered)
    (inPlace : activation.InPlace) {command : Command}
    (found : activation.script.command? activation.pointer = some command)
    (other : activation.script.instruction? activation.pointer = some .loop →
      command.indent ≠ activation.indent) : activation.LoopsAround := by
  intro level start registered
  rcases entered level start registered with ⟨here, current⟩ | ⟨inside, behind, deeper⟩
  · obtain ⟨loop, same, indent, isLoop⟩ := inPlace.loops level start registered
    rw [here] at same isLoop
    rw [found] at same
    cases same
    exact absurd (indent.trans current) (other isLoop)
  · exact ⟨inside, surrounds_pointer inPlace found registered inside behind deeper⟩

/-- Entering the loop at the pointer puts it around the run, inside of all others. -/
theorem LoopsEntered.enterLoop {activation : Activation} (entered : activation.LoopsEntered)
    (inPlace : activation.InPlace) {command : Command}
    (found : activation.script.command? activation.pointer = some command) :
    activation.enterLoop.LoopsAround := by
  intro level start registered
  by_cases here : level = activation.indent
  · subst here
    have equal : some activation.pointer = some start := by
      rw [← registered]
      exact (loopStart?_setLoop_same activation activation.indent _).symm
    cases equal
    refine ⟨Nat.lt_succ_self _, Nat.le_refl _, ?_⟩
    intro between after before
    exact absurd before (Nat.not_le_of_gt after)
  · have before : activation.loopStart? level = some start := by
      rw [← registered]
      exact (loopStart?_setLoop_other activation _ here).symm
    rcases entered level start before with ⟨_, current⟩ | ⟨inside, behind, deeper⟩
    · exact absurd current here
    · exact ⟨Nat.lt_succ_of_lt inside,
        surrounds_pointer inPlace found before inside behind deeper⟩

/-- Instructions that do not jump keep the pointer and all registered loops around it. -/
theorem LoopsAround.effect {activation next : Activation} {instruction : Instruction}
    (around : activation.LoopsAround) (noJumps : activation.script.HasNoJumps)
    (other : instruction ≠ .loop)
    (decoded : activation.script.instruction? activation.pointer = some instruction)
    (effect : Effect activation instruction next) : next.LoopsAround := by
  cases effect with
  | enterLoop => exact absurd rfl other
  | jump name => exact absurd decoded ((noJumps _).2 name)
  | exit => exact absurd decoded (noJumps _).1
  | breakLoop =>
      intro level start registered
      by_cases here : level = activation.enclosingLoop activation.indent
      · have closed : (activation.breakLoop).loopStart? level = none := by
          rw [here]
          exact loopStart?_setLoop_same activation _ none
        rw [closed] at registered
        cases registered
      · have before : activation.loopStart? level = some start := by
          rw [← registered]
          exact (loopStart?_setLoop_other activation _ here).symm
        obtain ⟨inside, surrounds⟩ := around level start before
        have reaches := activation.le_enclosingLoop before (Nat.le_of_lt inside)
        exact ⟨Nat.lt_of_le_of_ne reaches here, surrounds⟩
  | branch chain holds =>
      cases holds
      · exact around.mono rfl rfl rfl (Nat.le_refl _)
      · exact around.mono rfl rfl rfl (Nat.le_succ _)
  | branchElse =>
      unfold branchElse
      split
      · exact around
      · exact around.mono rfl rfl rfl (Nat.le_succ _)
  | keep => exact around
  | settings => exact around.mono rfl rfl rfl (Nat.le_refl _)
  | wait => exact around.mono rfl rfl rfl (Nat.le_refl _)
  | prompt => exact around.mono rfl rfl rfl (Nat.le_refl _)
  | suspend => exact around.mono rfl rfl rfl (Nat.le_refl _)
  | park => exact around.mono rfl rfl rfl (Nat.le_refl _)

/-- Running the command at the pointer leaves all registered loops around it. -/
theorem LoopsEntered.perform {activation : Activation} (entered : activation.LoopsEntered)
    (inPlace : activation.InPlace) (noJumps : activation.script.HasNoJumps)
    {command : Command} {instruction : Instruction}
    (found : activation.script.command? activation.pointer = some command)
    (decoded : activation.script.instruction? activation.pointer = some instruction)
    (world : World) :
    (activation.perform world command.id instruction).activation.LoopsAround := by
  by_cases isLoop : instruction = .loop
  · subst isLoop
    exact entered.enterLoop inPlace found
  · have around : activation.LoopsAround := by
      refine entered.around inPlace found (fun decodedLoop => ?_)
      rw [decoded] at decodedLoop
      exact absurd (Option.some.inj decodedLoop) isLoop
    exact around.effect noJumps isLoop decoded (activation.perform_effect world _ _)

/-- If no registered loop is left but the one the run settles on, all that remain have been
entered. -/
private theorem LoopsAround.settle {activation : Activation} (around : activation.LoopsAround)
    (sound : activation.LoopsSound) (free : activation.holdPointer = false) {indent : Nat}
    (next : { activation with pointer := activation.pointer + 1 }.nextIndent = indent)
    (kept : indent < activation.indent → ∀ level start,
      activation.loopStart? level = some start → level ≤ indent) :
    activation.stepPast.LoopsEntered := by
  intro level start registered
  rw [loopStart?_congr (stepPast_loops activation)] at registered
  rw [stepPast_script]
  obtain ⟨inside, surrounds⟩ := around level start registered
  have here := sound.indentAt registered
  rcases stepPast_position free next with ⟨lower, settled, pointer⟩ | ⟨deeper, pointer⟩
  · have below := kept lower level start registered
    rw [settled, pointer]
    by_cases same : level = indent
    · subst same
      rw [registered]
      exact .inl ⟨rfl, rfl⟩
    · refine .inr ⟨Nat.lt_of_le_of_ne below same, ?_⟩
      cases again : activation.loopStart? indent with
      | none =>
          rw [Option.getD_none]
          refine ⟨Nat.lt_succ_of_le surrounds.1, ?_⟩
          intro between after before
          rw [← here]
          exact surrounds.2 between after (Nat.le_of_lt_succ before)
      | some loop =>
          rw [Option.getD_some]
          have inner := around indent loop again
          have indentLoop := sound.indentAt again
          have ordered : start < loop := by
            rcases Nat.lt_trichotomy start loop with before | equal | behind
            · exact before
            · rw [← equal, here] at indentLoop
              exact absurd indentLoop same
            · have deeper := inner.2.2 start behind surrounds.1
              omega
          refine ⟨ordered, ?_⟩
          intro between after before
          have := inner.2.1
          rw [← here]
          exact surrounds.2 between after (by omega)
  · have settled : activation.stepPast.indent = activation.indent := by
      rw [stepPast_of_free free]
      unfold settleIndent
      rw [next]
      simp [deeper]
    rw [settled, pointer]
    refine .inr ⟨inside, Nat.lt_succ_of_le surrounds.1, ?_⟩
    intro between after before
    rw [← here]
    exact surrounds.2 between after (Nat.le_of_lt_succ before)

/-- In an aligned script a step leaves no block of an open loop. -/
theorem LoopsAround.stepPast {activation : Activation} (around : activation.LoopsAround)
    (sound : activation.LoopsSound) (aligned : activation.script.LoopsAligned)
    (free : activation.holdPointer = false) : activation.stepPast.LoopsEntered := by
  cases next : activation.script.command? (activation.pointer + 1) with
  | none =>
      refine around.settle sound free (nextIndent_of_none next) ?_
      intro _ level start registered
      exact activation.le_enclosingLoop registered
        (Nat.le_of_lt (around level start registered).1)
  | some command =>
      refine around.settle sound free (nextIndent_of_some next) ?_
      intro _ level start registered
      refine Nat.le_of_not_lt (fun above => ?_)
      obtain ⟨_, _, _, isLoop⟩ := sound level start registered
      have outside : ¬ activation.script.Surrounds start (activation.pointer + 1) := by
        intro surrounds
        have deeper := surrounds.2 (activation.pointer + 1)
          (Nat.lt_succ_of_le (around level start registered).2.1) (Nat.le_refl _)
        rw [sound.indentAt registered, Script.indentAt_eq next] at deeper
        omega
      have same := aligned _ _ _ isLoop (around level start registered).2 outside next
      rw [sound.indentAt registered] at same
      omega

end Activation

/-! ## Whole runs -/

/-- Without jumps, running a command leaves the pointer alone. -/
theorem Effect.pointer {activation next : Activation} {instruction : Instruction}
    (noJumps : activation.script.HasNoJumps)
    (decoded : activation.script.instruction? activation.pointer = some instruction)
    (effect : Effect activation instruction next) : next.pointer = activation.pointer := by
  cases effect with
  | jump name => exact absurd decoded ((noJumps _).2 name)
  | exit => exact absurd decoded (noJumps _).1
  | branch chain holds => cases holds <;> rfl
  | branchElse =>
      unfold Activation.branchElse
      split <;> rfl
  | _ => rfl

theorem Handling.pointer {runCallee : CalleeRunner} {thread next : Thread}
    {world after : World} (noJumps : thread.root.script.HasNoJumps)
    (handling : Handling runCallee thread world next after) :
    next.root.pointer = thread.root.pointer := by
  cases handling with
  | skip => rfl
  | ignore => rfl
  | perform _ _ decoded performed =>
      subst performed
      exact (Activation.perform_effect _ _ _ _).pointer noJumps decoded
  | call _ _ _ performed called =>
      subst performed
      rw [(Activation.perform_call called).2]
      rfl
  | callThrough _ _ _ performed called =>
      subst performed
      rw [(Activation.perform_call called).2]
      rfl

theorem Handling.loopsAround {runCallee : CalleeRunner} {thread next : Thread}
    {world after : World} (entered : thread.root.LoopsEntered)
    (inPlace : thread.root.InPlace) (noJumps : thread.root.script.HasNoJumps)
    (handling : Handling runCallee thread world next after) : next.root.LoopsAround := by
  cases handling with
  | skip found differs => exact entered.around inPlace found (fun _ => differs)
  | ignore found _ unknown =>
      refine entered.around inPlace found (fun isLoop => ?_)
      rw [unknown] at isLoop
      cases isLoop
  | perform found _ decoded performed =>
      subst performed
      exact entered.perform inPlace noJumps found decoded _
  | call found _ decoded performed =>
      subst performed
      exact entered.perform inPlace noJumps found decoded _
  | callThrough found _ decoded performed =>
      subst performed
      exact (entered.perform inPlace noJumps found decoded _).mono rfl rfl rfl
        (Nat.le_refl _)

/-- A step of an aligned script leaves no open loop behind. -/
theorem Step.loopsEntered {runCallee : CalleeRunner} {thread next : Thread}
    {world after : World} (entered : thread.root.LoopsEntered)
    (inPlace : thread.root.InPlace) (noJumps : thread.root.script.HasNoJumps)
    (aligned : thread.root.script.LoopsAligned)
    (step : Step runCallee thread world next after) : next.root.LoopsEntered := by
  cases step with
  | pause => exact entered.congr rfl rfl rfl rfl
  | move handling =>
      rcases handling.parks inPlace.free with ⟨free, _⟩ | ⟨parked, _⟩
      · have around := handling.loopsAround entered inPlace noJumps
        have sound := handling.loopsSound inPlace.loops
        rw [← handling.sameRun.script] at aligned
        exact around.stepPast sound aligned free
      · rw [parked]
        exact entered.congr rfl rfl rfl rfl

/-- What lasts through a run of a script without jumps. -/
private theorem lasts_loopsEntered {script : Script} (noJumps : script.HasNoJumps) :
    Lasts (fun _ thread _ => thread.root.script = script ∧ thread.root.InPlace ∧
      (script.LoopsAligned → thread.root.LoopsEntered)) where
  frame := fun _ => {
    reset := id
    start := by
      rintro _ _ _ ⟨same, _, _⟩ _ _
      refine ⟨same, Activation.inPlace_start _, fun _ level start registered => ?_⟩
      cases registered
    count := by
      rintro _ _ _ ⟨same, inPlace, entered⟩ _ _
      exact ⟨same, inPlace.congr rfl rfl rfl rfl rfl,
        fun aligned => (entered aligned).congr rfl rfl rfl rfl⟩
    unpark := by
      rintro _ _ _ ⟨same, inPlace, entered⟩ _ _
      exact ⟨same, inPlace.congr rfl rfl rfl rfl rfl,
        fun aligned => (entered aligned).congr rfl rfl rfl rfl⟩
    pass := by
      rintro _ _ _ next after executed ⟨same, inPlace, entered⟩ _ step
      subst same
      have script := (step.sameRun.trans (next.root.counted_sameRun after.config executed)).script
      exact ⟨script, (step.inPlace inPlace).counted _ _,
        fun aligned => (step.loopsEntered (entered aligned) inPlace noJumps aligned).counted _ _⟩
    finish := by
      rintro _ _ _ ⟨same, inPlace, entered⟩ _
      exact ⟨same, inPlace.congr rfl rfl rfl rfl rfl,
        fun aligned => (entered aligned).congr rfl rfl rfl rfl⟩ }
  away := id
  back := by
    rintro _ _ _ _ _ _ ⟨same, inPlace, entered⟩
    exact ⟨same, inPlace.congr rfl rfl rfl rfl rfl,
      fun aligned => (entered aligned).congr rfl rfl rfl rfl⟩

/-- The threads that updates reach from the start of a run, each in any world. -/
inductive Updated (activation : Activation) : Thread → Prop where
  | start : Updated activation { root := activation.start }
  | update {thread : Thread} {fuel : Nat} {world : World} {update : Update}
      (reached : Updated activation thread)
      (updated : thread.update fuel world = some update) : Updated activation update.thread

/-- Executing the command at the pointer steps over it: `handled` is the run once the
command has run, and `stepped` once the pointer has moved. -/
structure Thread.StepsOver (thread : Thread) (world : World) (runCallee : CalleeRunner)
    (handled stepped : Activation) : Prop where
  handles : ∃ run, thread.handle world runCallee = some run ∧ run.thread.root = handled
  executes : ∃ run, thread.execute world runCallee thread.root.pointer = some run ∧
    run.thread.root = stepped
  moves : handled.holdPointer = false
  plays : stepped.preview.waiting = false

/-- The loop at `start` is the innermost open loop around the command at `pointer`, and
the next command is not in its block. -/
structure Activation.LeavesLoop (handled : Activation) (pointer start : Nat) : Prop where
  isOpen : handled.IsOpen start
  around : handled.script.Surrounds start pointer
  innermost : ∀ inner, handled.IsOpen inner → handled.script.Surrounds inner pointer →
    inner ≤ start
  leaves : ¬ handled.script.Surrounds start (pointer + 1)

/-- A step over a command is the step of the run that the command leaves. -/
theorem Thread.StepsOver.stepped {thread : Thread} {world : World} {runCallee : CalleeRunner}
    {handled stepped : Activation} (able : thread.root.canStep = true)
    (step : thread.StepsOver world runCallee handled stepped) :
    stepped = handled.stepPast ∧
      ∃ next after, Handling runCallee thread world next after ∧ next.root = handled := by
  obtain ⟨run, handles, rfl⟩ := step.handles
  obtain ⟨executed, executes, rfl⟩ := step.executes
  refine ⟨?_, run.thread, run.world, Thread.handle_cases handles, rfl⟩
  rcases Thread.execute_cases able executes with ⟨_, _, _, paused⟩ | ⟨_, again, same, _, moved⟩
  · have plays := step.plays
    rw [paused] at plays
    cases plays
  · rw [handles] at same
    cases same
    rw [moved]

theorem Updated.fact {activation : Activation} (noJumps : activation.script.HasNoJumps)
    {thread : Thread} (updated : Updated activation thread) :
    thread.root.script = activation.script ∧ thread.root.InPlace ∧
      (activation.script.LoopsAligned → thread.root.LoopsEntered) := by
  induction updated with
  | start =>
      refine ⟨rfl, Activation.inPlace_start _, fun _ level start registered => ?_⟩
      cases registered
  | @update thread fuel world update reached updated inductionHypothesis =>
      exact Thread.update_fact (lasts_loopsEntered noJumps) none
        inductionHypothesis updated

/-- Leaving the block of an open loop goes back to it exactly if the next command stands at
the indent of the loop, or there is no next command and no loop registered further inside.
In aligned scripts that is always so. -/
theorem leavesLoop_returns_iff {activation : Activation}
    (noJumps : activation.script.HasNoJumps) {thread : Thread}
    (updated : Updated activation thread) {fuel : Nat} {world : World}
    {visit : Thread × World} (visited : visit ∈ thread.visits fuel world)
    {handled stepped : Activation}
    (step : visit.1.StepsOver visit.2 (thread.calleeRunner fuel) handled stepped)
    {start : Nat} (leaving : handled.LeavesLoop visit.1.root.pointer start) :
    (stepped.pointer = start ∧ stepped.indent = activation.script.indentAt start ↔
        handled.ReturnsTo start) ∧
      (activation.script.LoopsAligned →
        stepped.pointer = start ∧ stepped.indent = activation.script.indentAt start) := by
  obtain ⟨⟨_, same, inPlace, entered⟩, able⟩ :=
    Thread.visits_fact (lasts_loopsEntered noJumps) none (updated.fact noJumps) visited
  obtain ⟨rfl, next, after, handling, rfl⟩ := step.stepped able
  rw [← same] at noJumps entered ⊢
  have script := handling.sameRun.script
  have pointer := handling.pointer noJumps
  have sound := handling.loopsSound inPlace.loops
  have behind : start ≤ next.root.pointer := by
    rw [pointer]
    exact leaving.around.1
  have exactly : next.root.stepPast.pointer = start ∧
      next.root.stepPast.indent = visit.1.root.script.indentAt start ↔
        next.root.ReturnsTo start := by
    rw [← Activation.stepPast_returns_iff sound step.moves behind, ← script]
    constructor
    · exact And.left
    · intro back
      exact ⟨back, Activation.stepPast_indent_of_returns sound step.moves behind back⟩
  refine ⟨exactly, ?_⟩
  intro aligned
  rw [exactly]
  have around := handling.loopsAround (entered aligned) inPlace noJumps
  refine ⟨leaving.isOpen, (around _ _ leaving.isOpen).1, ?_⟩
  split
  · rename_i command found
    obtain ⟨_, _, _, isLoop⟩ := sound _ _ leaving.isOpen
    rw [pointer, script] at found
    rw [script] at isLoop ⊢
    refine aligned start _ command isLoop ?_ ?_ found
    · exact script ▸ leaving.around
    · exact script ▸ leaving.leaves
  · rename_i missing
    intro level above below
    cases registered : next.root.loopStart? level with
    | none => rfl
    | some inner =>
        have indent := sound.indentAt registered
        have surrounds := (around level inner registered).2
        have inside : inner ≤ start := by
          refine leaving.innermost inner ?_ (pointer ▸ surrounds)
          unfold Activation.IsOpen
          rw [indent]
          exact registered
        -- A loop further out is less indented.
        by_cases equal : inner = start
        · subst equal
          omega
        · have deeper := surrounds.2 start (by omega) behind
          omega

/-- A loop as the last command of a loop, at the end of the script. -/
def nestedLoops : Script where
  commands := #[{ id := "Loop" }, { id := "Loop", indent := 1 },
    { id := "EraseMessage", indent := 2 }]
  instructions := #[some .loop, some .loop, some .eraseMessage]
  jumpTargets := #[none, none, none]

/-- As `nestedLoops`, with a command behind both loops. -/
def nestedLoopsThenLabel : Script where
  commands := nestedLoops.commands.push { id := "Label" }
  instructions := nestedLoops.instructions.push (some .label)
  jumpTargets := nestedLoops.jumpTargets.push none

/-- A run that has entered `depth` nested loops at the top of a script. -/
private def entering (script : Script) (depth : Nat) (loops : Array (Option Nat)) : Activation :=
  { context := { id := "scene" }, script, pointer := depth, indent := depth, loops,
    isRunning := true }

private theorem nestedLoops_hasNoJumps : nestedLoops.HasNoJumps := by
  intro index
  match index with
  | 0 | 1 | 2 => simp [nestedLoops, Script.instruction?]
  | index + 3 => simp [nestedLoops, Script.instruction?]

private theorem nestedLoopsThenLabel_hasNoJumps : nestedLoopsThenLabel.HasNoJumps := by
  intro index
  match index with
  | 0 | 1 | 2 | 3 => simp [nestedLoopsThenLabel, nestedLoops, Script.instruction?]
  | index + 4 => simp [nestedLoopsThenLabel, nestedLoops, Script.instruction?]

private theorem nestedLoops_loopsAligned : nestedLoops.LoopsAligned := by
  intro start index next _ around leaves found
  have behind := around.1
  match index with
  | 0 =>
      have first : start = 0 := by omega
      subst first
      exact absurd (by decide) leaves
  | 1 =>
      match start with
      | 0 | 1 => exact absurd (by decide) leaves
      | start + 2 => omega
  | index + 2 => cases found

private theorem entering_innermost {script : Script} (inside : script.indentAt 2 = 2)
    {inner : Nat} (isOpen : (entering script 2 #[some 0, some 1]).IsOpen inner)
    (around : script.Surrounds inner 2) : inner ≤ 1 := by
  have behind := around.1
  match inner with
  | 0 | 1 => decide
  | 2 =>
      unfold Activation.IsOpen entering at isOpen
      rw [inside] at isOpen
      cases isOpen
  | inner + 3 => omega

/-- At the end of the script the inner of two loops starts again. -/
theorem nestedLoops_returns :
    ∃ run thread visit handled stepped, run.script = nestedLoops ∧
      nestedLoops.HasNoJumps ∧ nestedLoops.LoopsAligned ∧ Updated run thread ∧
      visit ∈ thread.visits 3 .empty ∧
      visit.1.StepsOver visit.2 (thread.calleeRunner 3) handled stepped ∧
      handled.LeavesLoop visit.1.root.pointer 1 ∧
      stepped.pointer = 1 ∧ stepped.indent = nestedLoops.indentAt 1 := by
  have visited : ({ root := entering nestedLoops 2 #[some 0, some 1] },
      World.empty.resetTemporaries { id := "scene" }) ∈
        Thread.visits { root := (entering nestedLoops 0 #[]).start } 3 .empty := by
    rw [Thread.visits_start (by decide), commandVisits_step rfl rfl, commandVisits_step rfl rfl,
      commandVisits_step rfl rfl]
    exact .tail _ (.tail _ (.head _))
  have step : Thread.StepsOver { root := entering nestedLoops 2 #[some 0, some 1] }
      (World.empty.resetTemporaries { id := "scene" })
      (Thread.calleeRunner { root := (entering nestedLoops 0 #[]).start } 3)
      (entering nestedLoops 2 #[some 0, some 1])
      (entering nestedLoops 2 #[some 0, some 1]).stepPast :=
    ⟨⟨_, rfl, rfl⟩, ⟨_, rfl, rfl⟩, rfl, rfl⟩
  have leaving : (entering nestedLoops 2 #[some 0, some 1]).LeavesLoop 2 1 :=
    ⟨rfl, by decide, fun _ => entering_innermost rfl, by decide⟩
  obtain ⟨_, always⟩ :=
    leavesLoop_returns_iff nestedLoops_hasNoJumps .start visited step leaving
  exact ⟨_, _, _, _, _, rfl, nestedLoops_hasNoJumps, nestedLoops_loopsAligned, .start, visited,
    step, leaving, always nestedLoops_loopsAligned⟩

/-- The outer of two loops is entered again, and not the inner one, if the next command
stands at its indent. -/
theorem not_always_returns :
    ¬ ∀ (run : Activation) (thread : Thread) (fuel : Nat) (world : World)
      (visit : Thread × World) (handled stepped : Activation) (start : Nat),
      Script.compile run.script.commands.toList = .ok run.script →
      run.script.HasNoJumps → Updated run thread → visit ∈ thread.visits fuel world →
      visit.1.StepsOver visit.2 (thread.calleeRunner fuel) handled stepped →
      handled.LeavesLoop visit.1.root.pointer start →
      stepped.pointer = start ∧ stepped.indent = run.script.indentAt start := by
  intro returns
  have visited : ({ root := entering nestedLoopsThenLabel 2 #[some 0, some 1] },
      World.empty.resetTemporaries { id := "scene" }) ∈
        Thread.visits { root := (entering nestedLoopsThenLabel 0 #[]).start } 3 .empty := by
    rw [Thread.visits_start (by decide), commandVisits_step rfl rfl, commandVisits_step rfl rfl,
      commandVisits_step rfl rfl]
    exact .tail _ (.tail _ (.head _))
  have inner := returns (entering nestedLoopsThenLabel 0 #[]) _ 3 .empty _
    (entering nestedLoopsThenLabel 2 #[some 0, some 1])
    (entering nestedLoopsThenLabel 2 #[some 0, some 1]).stepPast 1 rfl
    nestedLoopsThenLabel_hasNoJumps .start visited
    ⟨⟨_, rfl, rfl⟩, ⟨_, rfl, rfl⟩, rfl, rfl⟩
    ⟨rfl, by decide, fun _ => entering_innermost rfl, by decide⟩
  exact absurd inner.1 (by decide)

end NovelEngine
