import NovelEngine.Proofs.Blocks
import NovelEngine.Proofs.Decoding
import NovelEngine.Proofs.SlotRanges

/-!
Contract: a command that fails has done nothing, or part of a range.

Owns:
- the instructions that change a range of slots;
- what is left of the world by an instruction that failed;
- the step past a failed command.

Does not own: when an instruction fails.

An instruction outside of ranges checks everything before it changes anything. A range stops
at its first failing slot, and then what it has done is what the same instruction does with a
range that ends in front of this slot. Drawing a random number cannot be undone, so the dice
are left out where a range draws numbers.
-/

namespace NovelEngine

/-! ## Instructions on ranges -/

namespace Instruction

/-- How many slots an instruction changes. -/
def range : Instruction → Nat
  | .changeNumbers change => change.range
  | .changeTexts change => change.range
  | .changeBooleans change => change.range
  | _ => 1

end Instruction

/-! ## What a failure leaves -/

/-- Two worlds that differ at most in their dice and the abort mark. -/
def World.SameButDice (before after : World) : Prop :=
  ∃ dice aborted, after = { before with dice, aborted }

theorem World.SameButDice.refl (world : World) : world.SameButDice world :=
  ⟨world.dice, world.aborted, rfl⟩

namespace Activation

variable (activation : Activation) (world : World)

end Activation

/-! ## Ranges that fail -/

theorem NumberSource.yield_sameButDice (source : NumberSource) (world : World)
    (context : Context) : world.SameButDice (source.yield world context).2 := by
  cases source with
  | random first second =>
      simp only [yield, World.randomBetween]
      split
      · exact ⟨_, world.aborted, rfl⟩
      · exact ⟨world.dice, true, rfl⟩
  | operand read => exact .refl world

namespace Activation

variable {activation : Activation} {world : World} {id : String} {instruction : Instruction}
  {error : Error}

end Activation

/-! ## The step past a failed command -/

end NovelEngine
