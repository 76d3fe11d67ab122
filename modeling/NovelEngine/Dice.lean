/-!
Contract: random whole numbers.

Owns: the numbers that are still to be drawn, and the draw of a number between two bounds,
both included.

Does not own: where the numbers come from, and how scripts round their bounds.
-/

namespace NovelEngine

/-- A source of random numbers, by all that it is going to yield. Nothing is known about a
number but the bounds it lies between. -/
structure Dice where
  /-- The number between two bounds that is drawn after so many others. -/
  result : (drawn : Nat) → (low high : Int) → Int
  within : ∀ (drawn : Nat) {low high : Int}, low ≤ high →
    low ≤ result drawn low high ∧ result drawn low high ≤ high
  drawn : Nat := 0

namespace Dice

/-- Dice that always show the lower bound. -/
def lowest : Dice where
  result := fun _ low _ => low
  within := fun _ _ _ nonempty => ⟨Int.le_refl _, nonempty⟩

/-- A number from `low` to `high`, or `none` if there is no number between them. -/
def draw? (dice : Dice) (low high : Int) : Option (Int × Dice) :=
  if high < low then none
  else some (dice.result dice.drawn low high, { dice with drawn := dice.drawn + 1 })

end Dice

end NovelEngine
