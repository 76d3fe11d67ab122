/-!
Contract: numbered cells that read as a default until written and grow on demand.

Owns:
- reading and writing one cell of an array;
- the laws "a write is read back", "other cells keep their value" and "the
  length grows to exactly one past the written cell".

Does not own: what the cells hold or any limit on their number.
-/

namespace NovelEngine.Slots

variable {α : Type}

/-- The cell at `index`, or `default` where nothing was ever written. -/
def read (default : α) (cells : Array α) (index : Nat) : α :=
  cells.getD index default

/-- Writes one cell. A cell past the end first fills the gap with `default`. -/
def write (default : α) (cells : Array α) (index : Nat) (value : α) : Array α :=
  if index < cells.size then cells.setIfInBounds index value
  else (cells ++ Array.replicate (index - cells.size) default).push value

/-! ## Laws -/

@[simp] theorem size_write (default : α) (cells : Array α) (index : Nat) (value : α) :
    (write default cells index value).size = max cells.size (index + 1) := by
  unfold write
  split
  · simp
    omega
  · simp
    omega

theorem read_of_size_le (default : α) {cells : Array α} {index : Nat}
    (beyond : cells.size ≤ index) : read default cells index = default := by
  simp [read, Array.getD_eq_getD_getElem?, beyond]

@[simp] theorem read_write_same (default : α) (cells : Array α) (index : Nat) (value : α) :
    read default (write default cells index value) index = value := by
  unfold read write
  split
  · rename_i inside
    simp [Array.getD_eq_getD_getElem?, inside]
  · rename_i outside
    have position : cells.size + (index - cells.size) = index := by omega
    rw [Array.getD_eq_getD_getElem?, Array.getElem?_push]
    simp [position]

theorem read_write_other (default : α) (cells : Array α) {index other : Nat} (value : α)
    (different : other ≠ index) :
    read default (write default cells index value) other = read default cells other := by
  unfold read write
  split
  · simp [Array.getD_eq_getD_getElem?, Ne.symm different]
  · rename_i outside
    simp only [Array.getD_eq_getD_getElem?, Array.getElem?_push, Array.size_append,
      Array.size_replicate, Array.getElem?_append, Array.getElem?_replicate]
    have position : cells.size + (index - cells.size) = index := by omega
    simp only [position, different, if_false]
    split
    · rfl
    · rename_i beyond
      have missing : cells[other]? = none := by simp; omega
      split <;> simp [missing]

end NovelEngine.Slots
