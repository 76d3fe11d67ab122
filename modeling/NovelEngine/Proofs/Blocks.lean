import NovelEngine.Proofs.Execution

/-!
Contract: the block structure that a run follows.

Owns:
- the blocks of a script, read off its indents;
- the laws of the table of open loops;
- the invariant of the position: every registered loop is a loop command at its
  indent, and the current indent is not deeper than the next command.

Does not own: which loop is entered again.
-/

namespace NovelEngine

/-! ## Blocks of a script -/

namespace Script

/-- The indent of the command at `index`; zero past the end. -/
def indentAt (script : Script) (index : Nat) : Nat :=
  match script.command? index with
  | some command => command.indent
  | none => 0

/-- Whether `index` is `start` itself or lies in the block that `start` opens: all
commands behind `start` up to `index` are indented deeper. -/
def Surrounds (script : Script) (start index : Nat) : Prop :=
  start ≤ index ∧ ∀ between, start < between → between ≤ index →
    script.indentAt start < script.indentAt between

instance (script : Script) (start index : Nat) : Decidable (script.Surrounds start index) :=
  decidable_of_iff (start ≤ index ∧ ∀ between, between < index + 1 → start < between →
      script.indentAt start < script.indentAt between) (by
    constructor
    · rintro ⟨behind, deeper⟩
      exact ⟨behind, fun between after before => deeper between (Nat.lt_succ_of_le before) after⟩
    · rintro ⟨behind, deeper⟩
      exact ⟨behind, fun between before after => deeper between after (Nat.le_of_lt_succ before)⟩)

theorem indentAt_eq {script : Script} {index : Nat} {command : Command}
    (found : script.command? index = some command) :
    script.indentAt index = command.indent := by
  simp [indentAt, found]

end Script

/-! ## The table of open loops -/

namespace Activation

@[simp] theorem loopStart?_setLoop_same (activation : Activation) (indent : Nat)
    (start : Option Nat) : (activation.setLoop indent start).loopStart? indent = start :=
  Slots.read_write_same _ _ _ _

theorem loopStart?_setLoop_other (activation : Activation) {indent other : Nat}
    (start : Option Nat) (different : other ≠ indent) :
    (activation.setLoop indent start).loopStart? other = activation.loopStart? other :=
  Slots.read_write_other _ _ _ different

/-- Loops are looked up in the table alone. -/
theorem loopStart?_congr {left right : Activation} (same : left.loops = right.loops)
    (indent : Nat) : left.loopStart? indent = right.loopStart? indent := by
  unfold loopStart?
  rw [same]

theorem enclosingLoop_congr {left right : Activation} (same : left.loops = right.loops)
    (indent : Nat) : left.enclosingLoop indent = right.enclosingLoop indent := by
  induction indent with
  | zero => rfl
  | succ indent inductionHypothesis =>
      unfold enclosingLoop
      rw [inductionHypothesis, loopStart?_congr same]

theorem enclosingLoop_le (activation : Activation) (indent : Nat) :
    activation.enclosingLoop indent ≤ indent := by
  induction indent with
  | zero => exact Nat.le_refl 0
  | succ indent inductionHypothesis =>
      unfold enclosingLoop
      split
      · exact Nat.le_refl _
      · omega

/-- No loop is registered between the nearest one and the indent the search starts from. -/
theorem loopStart?_above_enclosingLoop (activation : Activation) {indent level : Nat}
    (above : activation.enclosingLoop indent < level) (below : level ≤ indent) :
    activation.loopStart? level = none := by
  induction indent with
  | zero =>
      simp only [enclosingLoop] at above
      omega
  | succ indent inductionHypothesis =>
      unfold enclosingLoop at above
      split at above
      · omega
      · rename_i missing
        by_cases top : level = indent + 1
        · subst top
          simpa using missing
        · exact inductionHypothesis above (by omega)

theorem le_enclosingLoop (activation : Activation) {indent level start : Nat}
    (registered : activation.loopStart? level = some start) (below : level ≤ indent) :
    level ≤ activation.enclosingLoop indent := by
  by_cases above : activation.enclosingLoop indent < level
  · rw [activation.loopStart?_above_enclosingLoop above below] at registered
    cases registered
  · omega

theorem loopStart?_enclosingLoop {activation : Activation} {indent : Nat}
    (positive : 0 < activation.enclosingLoop indent) :
    ∃ start, activation.loopStart? (activation.enclosingLoop indent) = some start := by
  induction indent with
  | zero => simp [enclosingLoop] at positive
  | succ indent inductionHypothesis =>
      unfold enclosingLoop at positive ⊢
      split
      · rename_i registered
        exact Option.isSome_iff_exists.mp registered
      · rename_i missing
        simp only [missing] at positive
        exact inductionHypothesis positive

/-! ## Moving on -/

theorem stepPast_of_free {activation : Activation} (free : activation.holdPointer = false) :
    activation.stepPast =
      { activation with pointer := activation.pointer + 1 }.settleIndent := by
  simp [stepPast, free]

/-- The indent to settle on depends on the position only. -/
theorem nextIndent_congr {left right : Activation} (script : left.script = right.script)
    (loops : left.loops = right.loops) (pointer : left.pointer = right.pointer)
    (indent : left.indent = right.indent) : left.nextIndent = right.nextIndent := by
  unfold nextIndent
  rw [script, pointer, indent]
  split
  · rfl
  · exact enclosingLoop_congr loops _

/-- Where a run settles depends on the position only. -/
theorem settleIndent_congr {left right : Activation} (script : left.script = right.script)
    (loops : left.loops = right.loops) (pointer : left.pointer = right.pointer)
    (indent : left.indent = right.indent) :
    left.settleIndent.pointer = right.settleIndent.pointer ∧
      left.settleIndent.indent = right.settleIndent.indent := by
  unfold settleIndent
  rw [nextIndent_congr script loops pointer indent]
  dsimp only
  rw [loopStart?_congr loops, pointer, indent]
  split
  · exact ⟨rfl, rfl⟩
  · exact ⟨pointer, indent⟩

/-- The run once it has stepped past the command at `index` and done nothing else. -/
def behind (activation : Activation) (index : Nat) : Activation :=
  { activation with
    pointer := index + 1
    indent := activation.script.indentAt index }.settleIndent

theorem behind_congr {left right : Activation} (script : left.script = right.script)
    (loops : left.loops = right.loops) (index : Nat) :
    (left.behind index).pointer = (right.behind index).pointer ∧
      (left.behind index).indent = (right.behind index).indent := by
  unfold behind
  apply settleIndent_congr
  · exact script
  · exact loops
  · rfl
  · rw [script]

@[simp] theorem settleIndent_loops (activation : Activation) :
    activation.settleIndent.loops = activation.loops := by
  unfold settleIndent
  dsimp only
  split <;> rfl

@[simp] theorem settleIndent_script (activation : Activation) :
    activation.settleIndent.script = activation.script := by
  unfold settleIndent
  dsimp only
  split <;> rfl

@[simp] theorem stepPast_loops (activation : Activation) :
    activation.stepPast.loops = activation.loops := by
  obtain ⟨pointer, indent, equal⟩ := activation.stepPast_eq
  rw [equal]

@[simp] theorem stepPast_script (activation : Activation) :
    activation.stepPast.script = activation.script :=
  activation.stepPast_sameRun.script

/-! ## The invariant of the position -/

/-- Every registered loop is a loop command that stands at the indent it is registered at. -/
def LoopsSound (activation : Activation) : Prop :=
  ∀ level start, activation.loopStart? level = some start →
    ∃ command, activation.script.command? start = some command ∧ command.indent = level ∧
      activation.script.instruction? start = some .loop

theorem LoopsSound.indentAt {activation : Activation} (sound : activation.LoopsSound)
    {level start : Nat} (registered : activation.loopStart? level = some start) :
    activation.script.indentAt start = level := by
  obtain ⟨command, found, indent, _⟩ := sound level start registered
  rw [Script.indentAt_eq found, indent]

theorem LoopsSound.congr {left right : Activation} (sound : left.LoopsSound)
    (script : right.script = left.script) (loops : right.loops = left.loops) :
    right.LoopsSound := by
  intro level start registered
  rw [loopStart?_congr loops] at registered
  rw [script]
  exact sound level start registered

/-- The registered loops are sound, the next command is not less indented than the run,
and the run is not about to execute its command once more. -/
structure InPlace (activation : Activation) : Prop where
  loops : activation.LoopsSound
  indent : ∀ {command}, activation.script.command? activation.pointer = some command →
    activation.indent ≤ command.indent
  free : activation.holdPointer = false

theorem inPlace_start (activation : Activation) : activation.start.InPlace where
  loops := by
    intro level start registered
    cases registered
  indent := by
    intro command found
    exact Nat.zero_le _
  free := rfl

/-- Being in place depends on the position only. -/
theorem InPlace.congr {left right : Activation} (inPlace : left.InPlace)
    (script : right.script = left.script) (loops : right.loops = left.loops)
    (pointer : right.pointer = left.pointer) (indent : right.indent = left.indent)
    (held : right.holdPointer = left.holdPointer) : right.InPlace where
  loops := inPlace.loops.congr script loops
  indent := by
    intro command found
    rw [script, pointer] at found
    rw [indent]
    exact inPlace.indent found
  free := by
    rw [held]
    exact inPlace.free

/-- Leaving blocks puts a run in place: it stands before the next command at that
command's indent or above, or on the loop that starts again. -/
theorem LoopsSound.settleIndent {activation : Activation} (sound : activation.LoopsSound)
    (free : activation.holdPointer = false) : activation.settleIndent.InPlace where
  loops := sound.congr (settleIndent_script _) (settleIndent_loops _)
  free := by
    unfold Activation.settleIndent
    dsimp only
    split <;> exact free
  indent := by
    intro command found
    rw [settleIndent_script] at found
    unfold Activation.settleIndent at found ⊢
    dsimp only at found ⊢
    split at found
    · rename_i lower
      simp only [lower, if_true]
      cases registered : activation.loopStart? activation.nextIndent with
      | some start =>
          obtain ⟨loop, here, indent, _⟩ := sound _ start registered
          simp only [registered, Option.getD_some, here, Option.some.injEq] at found
          exact Nat.le_of_eq (by rw [← found, indent])
      | none =>
          simp only [registered, Option.getD_none] at found
          simp [nextIndent, found]
    · rename_i deeper
      simp only [deeper, if_false]
      simp only [nextIndent, found] at deeper
      omega

/-- Settling changes nothing, or leaves a block. In the second case the run stands at the
indent of its next command, which comes right behind or is a loop. -/
theorem LoopsSound.settleIndent_cases {activation : Activation}
    (sound : activation.LoopsSound) :
    activation.settleIndent = activation ∨
      activation.settleIndent.indent < activation.indent ∧
        (activation.settleIndent.pointer = activation.pointer ∨
          activation.script.instruction? activation.settleIndent.pointer = some .loop) ∧
        activation.settleIndent.nextIndent = activation.settleIndent.indent := by
  unfold Activation.settleIndent
  dsimp only
  split
  · rename_i lower
    refine .inr ⟨lower, ?_⟩
    cases registered : activation.loopStart? activation.nextIndent with
    | some start =>
        obtain ⟨loop, here, indent, isLoop⟩ := sound _ start registered
        refine ⟨.inr isLoop, ?_⟩
        simp [nextIndent, here]
        simpa [nextIndent] using indent
    | none =>
        refine ⟨.inl rfl, ?_⟩
        cases next : activation.script.command? activation.pointer with
        | some command => simp [nextIndent, next]
        | none =>
            have settled : activation.nextIndent =
                activation.enclosingLoop activation.indent := by simp [nextIndent, next]
            have outermost : activation.nextIndent = 0 := by
              apply Nat.eq_zero_of_not_pos
              intro positive
              rw [settled] at positive registered
              obtain ⟨start, found⟩ := loopStart?_enclosingLoop positive
              exact absurd (registered.symm.trans found) (by simp)
            rw [outermost]
            simp [nextIndent, next, enclosingLoop]
  · exact .inl rfl

/-- The instruction at the pointer, run at its own indent, keeps the loops sound. -/
theorem LoopsSound.effect {activation next : Activation} {command : Command}
    {instruction : Instruction} (sound : activation.LoopsSound)
    (found : activation.script.command? activation.pointer = some command)
    (current : command.indent = activation.indent)
    (decoded : activation.script.instruction? activation.pointer = some instruction)
    (effect : Effect activation instruction next) : next.LoopsSound := by
  cases effect with
  | enterLoop =>
      intro level start registered
      by_cases here : level = activation.indent
      · subst here
        have equal : some activation.pointer = some start := by
          rw [← registered]
          exact (loopStart?_setLoop_same activation activation.indent _).symm
        cases equal
        exact ⟨command, found, current, decoded⟩
      · have before : activation.loopStart? level = some start := by
          rw [← registered]
          exact (loopStart?_setLoop_other activation _ here).symm
        exact sound level start before
  | breakLoop =>
      intro level start registered
      by_cases here : level = activation.enclosingLoop activation.indent
      · have closed : (activation.breakLoop).loopStart? level = none := by
          rw [here]
          exact loopStart?_setLoop_same activation _ none
        rw [closed] at registered
        cases registered
      · have before : activation.loopStart? level = some start := by
          rw [← registered]
          exact (loopStart?_setLoop_other activation _ here).symm
        exact sound level start before
  | exit =>
      intro level start registered
      cases registered
  | branch chain holds =>
      cases holds
      · exact sound.congr rfl rfl
      · exact sound.congr rfl rfl
  | branchElse =>
      unfold branchElse
      split
      · exact sound
      · exact sound.congr rfl rfl
  | keep => exact sound
  | jump => exact sound.congr rfl rfl
  | settings => exact sound.congr rfl rfl
  | wait => exact sound.congr rfl rfl
  | prompt => exact sound.congr rfl rfl
  | suspend => exact sound.congr rfl rfl
  | park => exact sound.congr rfl rfl

theorem LoopsSound.stepPast {activation : Activation} (sound : activation.LoopsSound)
    (free : activation.holdPointer = false) : activation.stepPast.InPlace := by
  rw [stepPast_of_free free]
  exact LoopsSound.settleIndent (sound.congr rfl rfl) free

end Activation

/-- An instruction runs again only if it waits for the message box. -/
theorem Effect.parks {activation next : Activation} {instruction : Instruction}
    (free : activation.holdPointer = false) (effect : Effect activation instruction next) :
    next.holdPointer = false ∧ next.isWaitingForMessage = activation.isWaitingForMessage ∨
      instruction.speaks = true ∧ next = activation.waitForBox := by
  cases effect with
  | park speaks => exact .inr ⟨speaks, rfl⟩
  | branch chain holds => cases holds <;> exact .inl ⟨free, rfl⟩
  | branchElse =>
      unfold Activation.branchElse
      split <;> exact .inl ⟨free, rfl⟩
  | _ => exact .inl ⟨free, rfl⟩

namespace Activation

theorem InPlace.counted {activation : Activation} (inPlace : activation.InPlace)
    (config : Config) (executed : Nat) : (activation.counted config executed).InPlace := by
  obtain ⟨_, _, _, equal⟩ := activation.counted_eq config executed
  rw [equal]
  exact inPlace.congr rfl rfl rfl rfl rfl

end Activation

/-- Running a command keeps the loops sound, also when it calls a script. -/
theorem Handling.loopsSound {runCallee : CalleeRunner} {thread next : Thread}
    {world after : World} (sound : thread.root.LoopsSound)
    (handling : Handling runCallee thread world next after) : next.root.LoopsSound := by
  cases handling with
  | skip => exact sound
  | ignore => exact sound
  | perform found current decoded performed =>
      subst performed
      exact sound.effect found current decoded (Activation.perform_effect _ _ _ _)
  | call found current decoded performed =>
      subst performed
      exact sound.effect found current decoded (Activation.perform_effect _ _ _ _)
  | callThrough found current decoded performed =>
      subst performed
      exact (sound.effect found current decoded (Activation.perform_effect _ _ _ _)).congr
        rfl rfl

/-- Whether the command at the pointer runs next and shows something in the message box. -/
def Activation.SpeaksHere (activation : Activation) : Prop :=
  ∃ command instruction, activation.script.command? activation.pointer = some command ∧
    command.indent = activation.indent ∧
    activation.script.instruction? activation.pointer = some instruction ∧
    instruction.speaks = true

/-- A command that is to run again has left the position alone. -/
theorem Handling.parks {runCallee : CalleeRunner} {thread next : Thread}
    {world after : World} (free : thread.root.holdPointer = false)
    (handling : Handling runCallee thread world next after) :
    next.root.holdPointer = false ∧
        next.root.isWaitingForMessage = thread.root.isWaitingForMessage ∨
      next.root = thread.root.waitForBox ∧ thread.root.SpeaksHere := by
  cases handling with
  | skip => exact .inl ⟨free, rfl⟩
  | ignore => exact .inl ⟨free, rfl⟩
  | perform found current decoded performed =>
      subst performed
      rcases (Activation.perform_effect _ _ _ _).parks free with goes | ⟨speaks, parked⟩
      · exact .inl goes
      · exact .inr ⟨parked, _, _, found, current, decoded, speaks⟩
  | call _ _ _ performed called =>
      subst performed
      rw [(Activation.perform_call called).2]
      exact .inl ⟨free, rfl⟩
  | callThrough _ _ _ performed called =>
      subst performed
      rw [(Activation.perform_call called).2]
      exact .inl ⟨free, rfl⟩

theorem Step.inPlace {runCallee : CalleeRunner} {thread next : Thread} {world after : World}
    (inPlace : thread.root.InPlace) (step : Step runCallee thread world next after) :
    next.root.InPlace := by
  cases step with
  | pause => exact inPlace.congr rfl rfl rfl rfl rfl
  | move handling =>
      rcases handling.parks inPlace.free with ⟨free, _⟩ | ⟨parked, _⟩
      · exact (handling.loopsSound inPlace.loops).stepPast free
      · rw [parked]
        exact inPlace.congr rfl rfl rfl rfl inPlace.free.symm

end NovelEngine
