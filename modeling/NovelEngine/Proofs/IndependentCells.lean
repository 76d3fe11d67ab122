import NovelEngine.Proofs.Cells

/-!
Contract: the variable store is a table of independent cells.

Owns:
- the typed reads and writes of a store, as one read and one write of a cell;
- the accesses that meet in one row, and in one cell of it;
- the lengths of the rows, and the cells that no write has reached;
- the banks that a reset empties.

Does not own: the slot limit and the conversion of values.

The type of an access chooses the row, the scope of its reference and sometimes the context
choose the bank, and the index chooses the cell. The kind that the reference names has no part
in it.
-/

namespace NovelEngine

/-! ## The rows of a bank -/

namespace Cell

def kind : Cell → Kind
  | .number _ => .number
  | .text _ => .text
  | .boolean _ => .boolean
  | .list _ => .list

/-- What a slot holds before anything is written to it. -/
def unwritten : Kind → Cell
  | .number => .number 0.0
  | .text => .text ""
  | .boolean => .boolean false
  | .list => .list []

end Cell

/-- Writing to the row of a kind changes one slot of this kind and no other. -/
theorem Bank.Row.Serves.slot_write {α : Type} {row : Bank.Row α} {kind : Kind} {wrap : α → Cell}
    (serves : row.Serves kind wrap) (bank : Bank) (index : Nat) (value : α) (place : Nat)
    (other : Kind) :
    (row.write bank index value).slot place other =
      if other = kind ∧ place = index then wrap value else bank.slot place other := by
  by_cases alike : other = kind
  · subst alike
    by_cases same : place = index
    · rw [if_pos ⟨rfl, same⟩, same, serves.holds, row.read_write_same]
    · rw [if_neg (fun both => same both.2), serves.holds, serves.holds,
        row.read_write_other _ _ same]
  · rw [if_neg (fun both => alike both.1), serves.spares _ _ _ _ alike]

namespace Bank

variable (bank : Bank) (index : Nat) (cell : Cell)

/-- How many slots of a kind the bank has. -/
def rowLength (bank : Bank) : Kind → Nat
  | .number => bank.numbers.size
  | .text => bank.texts.size
  | .boolean => bank.booleans.size
  | .list => bank.lists.size

def setSlot : Cell → Bank
  | .number value => bank.setNumber index value
  | .text value => bank.setText index value
  | .boolean value => bank.setBoolean index value
  | .list items => bank.setList index items

theorem slot_setSlot (place : Nat) (kind : Kind) :
    (bank.setSlot index cell).slot place kind =
      if kind = cell.kind ∧ place = index then cell else bank.slot place kind := by
  cases cell with
  | number value => exact Row.numbers_serves.slot_write bank index value place kind
  | text value => exact Row.texts_serves.slot_write bank index value place kind
  | boolean value => exact Row.booleans_serves.slot_write bank index value place kind
  | list items => exact Row.lists_serves.slot_write bank index items place kind

/-- A row grows just as far as the slot that is written, and the other rows do not grow. -/
theorem rowLength_setSlot (kind : Kind) :
    (bank.setSlot index cell).rowLength kind =
      if kind = cell.kind then max (bank.rowLength kind) (index + 1)
      else bank.rowLength kind := by
  cases cell <;> cases kind <;>
    simp [setSlot, rowLength, Cell.kind, setNumber, setText, setBoolean, setList]

theorem slot_of_rowLength_le {bank : Bank} {index : Nat} {kind : Kind}
    (beyond : bank.rowLength kind ≤ index) : bank.slot index kind = .unwritten kind := by
  cases kind with
  | number => exact congrArg Cell.number (Slots.read_of_size_le 0.0 beyond)
  | text => exact congrArg Cell.text (Slots.read_of_size_le "" beyond)
  | boolean => exact congrArg Cell.boolean (Slots.read_of_size_le false beyond)
  | list => exact congrArg Cell.list (Slots.read_of_size_le [] beyond)

end Bank

/-! ## Typed access -/

/-- Whether `other` finds for the scope `place` the bank that `context` finds for `scope`. -/
def Scope.Meets (scope place : Scope) (context other : Context) : Prop :=
  place = scope ∧ (scope.isShared = true ∨ other = context)

instance (scope place : Scope) (context other : Context) :
    Decidable (scope.Meets place context other) :=
  inferInstanceAs (Decidable (_ ∧ _))

namespace Store

variable (store : Store) (context : Context)

/-- Reads a slot by the typed read of a kind. -/
def read (reference : VariableRef) : Kind → Cell
  | .number => .number (store.number context reference)
  | .text => .text (store.text context reference)
  | .boolean => .boolean (store.boolean context reference)
  | .list => .list (store.list context reference)

/-- Writes a slot by the typed write of what it shall hold. -/
def write (reference : VariableRef) : Cell → Store
  | .number value => store.setNumber context reference value
  | .text value => store.setText context reference value
  | .boolean value => store.setBoolean context reference value
  | .list items => store.setList context reference items

theorem read_eq (reference : VariableRef) (kind : Kind) :
    store.read context reference kind =
      (store.bank context reference.scope).slot reference.index kind := by
  cases kind <;> rfl

theorem write_eq (reference : VariableRef) (cell : Cell) :
    store.write context reference cell =
      store.changeBank context reference.scope (fun bank => bank.setSlot reference.index cell) := by
  cases cell <;> rfl

/-- A write changes one bank. -/
theorem bank_write (reference : VariableRef) (cell : Cell) (other : Context) (place : Scope) :
    (store.write context reference cell).bank other place =
      if reference.scope.Meets place context other then
        (store.bank other place).setSlot reference.index cell
      else store.bank other place := by
  rw [write_eq]
  unfold changeBank
  rw [bank_setBank]
  by_cases meets : reference.scope.Meets place context other
  · obtain ⟨here, shared⟩ := meets
    rw [if_pos ⟨here, shared⟩, if_pos ⟨here, shared⟩, here, store.bank_of_shared context shared]
  · rw [if_neg meets]
    exact if_neg meets

/-! ## Resets -/

/-- A reset empties the temporary bank of one context. -/
theorem bank_resetTemporaries_of (other : Context) (place : Scope) :
    (store.resetTemporaries context).bank other place =
      if place = .temporary ∧ other = context then {} else store.bank other place := by
  have replaced : store.resetTemporaries context = store.setBank context .temporary {} := rfl
  rw [replaced, bank_setBank]
  simp [Scope.isShared]

/-- The locals of one context are forgotten together with its temporary variables. -/
theorem bank_clearLocals_of (other : Context) (place : Scope) :
    (store.clearLocals context).bank other place =
      if (place = .local ∨ place = .temporary) ∧ other = context then {}
      else store.bank other place := by
  by_cases same : other = context
  · subst same
    cases place <;> simp [clearLocals, Store.bank]
  · have kept (table : Registry Context Bank) :
        (table.erase context).find? other = table.find? other :=
      Registry.find?_erase_other table same
    cases place <;> simp [clearLocals, Store.bank, same, kept]

/-! ## Independence -/

/-- The cells of a store are independent. A typed read gives what a typed write put into the
same cell, which is the cell of the same type, scope and index, and of the same context unless
the scope is shared. Any other typed read gives what it gave before, and past the end of its
row the default of its type. The row that is written grows just as far as the written cell.
A reset empties the temporary bank of its context, and forgetting the locals of a context its
local and its temporary bank; no other bank is touched by them. -/
theorem cells_independent (store : Store) :
    (∀ (context other : Context) (reference place : VariableRef) (cell : Cell) (kind : Kind),
      (store.write context reference cell).read other place kind =
        if kind = cell.kind ∧ reference.scope.Meets place.scope context other ∧
            place.index = reference.index then cell
        else store.read other place kind) ∧
    (∀ (context : Context) (reference : VariableRef) (kind : Kind),
      (store.bank context reference.scope).rowLength kind ≤ reference.index →
      store.read context reference kind = .unwritten kind) ∧
    (∀ (context other : Context) (reference : VariableRef) (cell : Cell) (place : Scope)
        (kind : Kind),
      ((store.write context reference cell).bank other place).rowLength kind =
        if kind = cell.kind ∧ reference.scope.Meets place context other then
          max ((store.bank other place).rowLength kind) (reference.index + 1)
        else (store.bank other place).rowLength kind) ∧
    (∀ (context other : Context) (place : Scope),
      (store.resetTemporaries context).bank other place =
        if place = .temporary ∧ other = context then {} else store.bank other place) ∧
    (∀ (context other : Context) (place : Scope),
      (store.clearLocals context).bank other place =
        if (place = .local ∨ place = .temporary) ∧ other = context then {}
        else store.bank other place) := by
  refine ⟨?_, ?_, ?_, store.bank_resetTemporaries_of, store.bank_clearLocals_of⟩
  · intro context other reference place cell kind
    rw [read_eq, read_eq, bank_write]
    by_cases meets : reference.scope.Meets place.scope context other
    · rw [if_pos meets, Bank.slot_setSlot]
      simp [meets]
    · rw [if_neg meets, if_neg (fun all => meets all.2.1)]
  · intro context reference kind beyond
    rw [read_eq]
    exact Bank.slot_of_rowLength_le beyond
  · intro context other reference cell place kind
    rw [bank_write]
    by_cases meets : reference.scope.Meets place context other
    · rw [if_pos meets, Bank.rowLength_setSlot]
      simp [meets]
    · rw [if_neg meets, if_neg (fun both => meets both.2)]

/-- The hall has written its last text, by a reference that speaks of a number. -/
private def farText : Store :=
  ({} : Store).write { id := "hall" } { index := 9999 } (.text "far")

/-- The text is read back, the gap in front of it and the texts of the yard read as unwritten,
and with the locals of the hall the whole row is gone. -/
theorem farText_independent :
    farText.read { id := "hall" } { kind := .text, index := 9999 } .text = .text "far" ∧
    farText.read { id := "hall" } { kind := .text, index := 9998 } .text = .text "" ∧
    (farText.bank { id := "hall" } .local).rowLength .text = 10000 ∧
    (farText.bank { id := "yard" } .local).rowLength .text ≤ 9999 ∧
    farText.read { id := "yard" } { kind := .text, index := 9999 } .text = .text "" ∧
    ((farText.clearLocals { id := "hall" }).bank { id := "hall" } .local).rowLength .text = 0 := by
  obtain ⟨reads, _, lengths, _, _⟩ := ({} : Store).cells_independent
  obtain ⟨_, unwritten, _, _, forgets⟩ := farText.cells_independent
  have yard : (farText.bank { id := "yard" } .local).rowLength .text ≤ 9999 := by
    unfold farText
    rw [lengths, if_neg (by simp [Scope.Meets, Scope.isShared])]
    exact Nat.zero_le _
  refine ⟨?_, ?_, ?_, yard, ?_, ?_⟩
  · unfold farText
    rw [reads, if_pos ⟨rfl, ⟨rfl, .inr rfl⟩, rfl⟩]
  · unfold farText
    rw [reads, if_neg (by simp)]
    rfl
  · unfold farText
    rw [lengths, if_pos ⟨rfl, rfl, .inr rfl⟩]
    rfl
  · exact unwritten { id := "yard" } { kind := .text, index := 9999 } .text yard
  · rw [forgets, if_pos ⟨.inl rfl, rfl⟩]
    rfl

end Store

end NovelEngine
