import NovelEngine.Variable.Store

/-!
Contract: the cells of the variable store.

Owns:
- the rows of a bank, one for each kind of variable;
- which contexts share a bank, and what every slot of the store holds after a cell was written;
- what a cell holds after the temporary variables were reset.

Does not own: which cells an instruction writes.

A reference names a kind, but a typed access looks at the row of its own type, whatever that
kind says. Hence cells are taken from a row, and only `Store.get` asks for the kind.
-/

namespace NovelEngine

/-! ## The rows of a bank -/

/-- A row of a bank, whose cells are read and written one by one. -/
structure Bank.Row (α : Type) where
  read : Bank → Nat → α
  write : Bank → Nat → α → Bank
  read_write_same : ∀ bank index value, read (write bank index value) index = value
  read_write_other : ∀ bank {index other : Nat} value, other ≠ index →
    read (write bank index value) other = read bank other

namespace Bank.Row

def numbers : Row Float where
  read := Bank.number
  write := Bank.setNumber
  read_write_same := fun _ _ _ => Slots.read_write_same _ _ _ _
  read_write_other := fun _ _ _ _ different => Slots.read_write_other _ _ _ different

def texts : Row String where
  read := Bank.text
  write := Bank.setText
  read_write_same := fun _ _ _ => Slots.read_write_same _ _ _ _
  read_write_other := fun _ _ _ _ different => Slots.read_write_other _ _ _ different

def booleans : Row Bool where
  read := Bank.boolean
  write := Bank.setBoolean
  read_write_same := fun _ _ _ => Slots.read_write_same _ _ _ _
  read_write_other := fun _ _ _ _ different => Slots.read_write_other _ _ _ different

def lists : Row (List Value) where
  read := Bank.list
  write := Bank.setList
  read_write_same := fun _ _ _ => Slots.read_write_same _ _ _ _
  read_write_other := fun _ _ _ _ different => Slots.read_write_other _ _ _ different

end Bank.Row

/-- What a slot of any kind holds. -/
inductive Cell where
  | number (value : Float)
  | text (value : String)
  | boolean (value : Bool)
  | list (items : List Value)

def Bank.slot (bank : Bank) (index : Nat) : Kind → Cell
  | .number => .number (bank.number index)
  | .text => .text (bank.text index)
  | .boolean => .boolean (bank.boolean index)
  | .list => .list (bank.list index)

/-- The row of a kind: its cells are the slots of this kind, and writing to it spares the slots
of all others. -/
structure Bank.Row.Serves {α : Type} (row : Bank.Row α) (kind : Kind) (wrap : α → Cell) :
    Prop where
  holds : ∀ bank index, Bank.slot bank index kind = wrap (row.read bank index)
  spares : ∀ bank index value place {other : Kind}, other ≠ kind →
    (row.write bank index value).slot place other = bank.slot place other

namespace Bank.Row

theorem numbers_serves : numbers.Serves .number .number where
  holds := fun _ _ => rfl
  spares := fun _ _ _ _ other different => by
    cases other <;> first | rfl | exact absurd rfl different

theorem texts_serves : texts.Serves .text .text where
  holds := fun _ _ => rfl
  spares := fun _ _ _ _ other different => by
    cases other <;> first | rfl | exact absurd rfl different

theorem booleans_serves : booleans.Serves .boolean .boolean where
  holds := fun _ _ => rfl
  spares := fun _ _ _ _ other different => by
    cases other <;> first | rfl | exact absurd rfl different

theorem lists_serves : lists.Serves .list .list where
  holds := fun _ _ => rfl
  spares := fun _ _ _ _ other different => by
    cases other <;> first | rfl | exact absurd rfl different

end Bank.Row

/-! ## The cells of a store -/

/-- Whether all contexts have one bank of the scope in common. -/
def Scope.isShared : Scope → Bool
  | .global => true
  | .persistent => true
  | .local => false
  | .temporary => false

namespace Store

variable (store : Store) (context : Context)

/-- The cell of a row that a reference addresses, whatever kind the reference names. -/
def cell {α : Type} (row : Bank.Row α) (reference : VariableRef) : α :=
  row.read (store.bank context reference.scope) reference.index

def setCell {α : Type} (row : Bank.Row α) (reference : VariableRef) (value : α) : Store :=
  store.changeBank context reference.scope (fun bank => row.write bank reference.index value)

@[simp] theorem bank_setBank_same (scope : Scope) (bank : Bank) :
    (store.setBank context scope bank).bank context scope = bank := by
  cases scope <;> simp [setBank, Store.bank]

theorem bank_setBank_scope {scope other : Scope} (different : other ≠ scope) (bank : Bank) :
    (store.setBank context scope bank).bank context other = store.bank context other := by
  cases scope <;> cases other <;> first | rfl | exact absurd rfl different

/-- A bank is replaced for its own context, or for all of them if they share it. -/
theorem bank_setBank (scope : Scope) (bank : Bank) (other : Context) (place : Scope) :
    (store.setBank context scope bank).bank other place =
      if place = scope ∧ (scope.isShared = true ∨ other = context) then bank
      else store.bank other place := by
  by_cases same : other = context
  · subst same
    by_cases here : place = scope
    · subst here
      rw [bank_setBank_same, if_pos ⟨rfl, .inr rfl⟩]
    · rw [bank_setBank_scope _ _ here, if_neg (fun both => here both.1)]
  · have kept (table : Registry Context Bank) :
        (table.insert context bank).find? other = table.find? other :=
      Registry.find?_insert_other table bank same
    cases scope <;> cases place <;> simp [setBank, Store.bank, Scope.isShared, same, kept]

theorem bank_of_shared {scope : Scope} {other : Context}
    (shared : scope.isShared = true ∨ other = context) :
    store.bank other scope = store.bank context scope := by
  rcases shared with shared | same
  · cases scope <;> first | rfl | cases shared
  · rw [same]

section Rows

variable {α : Type} (row : Bank.Row α)

@[simp] theorem cell_setCell_same (reference : VariableRef) (value : α) :
    (store.setCell context row reference value).cell context row reference = value := by
  unfold cell setCell changeBank
  rw [bank_setBank_same, row.read_write_same]

theorem cell_setCell_other {reference other : VariableRef} (value : α)
    (elsewhere : other.scope ≠ reference.scope ∨ other.index ≠ reference.index) :
    (store.setCell context row reference value).cell context row other =
      store.cell context row other := by
  unfold cell setCell changeBank
  by_cases same : other.scope = reference.scope
  · have apart : other.index ≠ reference.index := elsewhere.resolve_left (not_not_intro same)
    rw [same, bank_setBank_same, row.read_write_other _ _ apart]
  · rw [bank_setBank_scope _ _ same]

/-- What the slot of a reference holds. -/
def slot (reference : VariableRef) : Cell :=
  (store.bank context reference.scope).slot reference.index reference.kind

/-- A cell that is written is the only slot of the store that changes. -/
theorem slot_setCell_other {row : Bank.Row α} {kind : Kind} {wrap : α → Cell}
    (serves : row.Serves kind wrap) {reference : VariableRef} (value : α) {other : Context}
    {place : VariableRef}
    (elsewhere : ¬ (place.kind = kind ∧ place.scope = reference.scope ∧
      (reference.scope.isShared = true ∨ other = context) ∧ place.index = reference.index)) :
    (store.setCell context row reference value).slot other place = store.slot other place := by
  unfold slot setCell changeBank
  rw [bank_setBank]
  by_cases here : place.scope = reference.scope ∧
      (reference.scope.isShared = true ∨ other = context)
  · obtain ⟨scope, shared⟩ := here
    rw [if_pos ⟨scope, shared⟩, scope, store.bank_of_shared context shared]
    by_cases alike : place.kind = kind
    · have apart : place.index ≠ reference.index :=
        fun index => elsewhere ⟨alike, scope, shared, index⟩
      rw [alike, serves.holds, serves.holds, row.read_write_other _ _ apart]
    · exact serves.spares _ _ _ _ alike
  · rw [if_neg here]

end Rows

/-! ## Access by kind -/

/-- A number that is written changes no variable that is read as another kind or stands
elsewhere. -/
theorem get_setNumber_other {reference other : VariableRef} (value : Float)
    (elsewhere : other.kind ≠ .number ∨ other.scope ≠ reference.scope ∨
      other.index ≠ reference.index) :
    (store.setNumber context reference value).get context other = store.get context other := by
  have number : other.kind = .number →
      (store.setNumber context reference value).number context other =
        store.number context other := by
    intro kind
    exact store.cell_setCell_other context .numbers value
      (elsewhere.resolve_left (not_not_intro kind))
  have others (access : Bank → Value)
      (spared : ∀ bank : Bank, access (bank.setNumber reference.index value) = access bank) :
      access ((store.setNumber context reference value).bank context other.scope) =
        access (store.bank context other.scope) := by
    unfold setNumber changeBank
    by_cases same : other.scope = reference.scope
    · rw [same, bank_setBank_same, spared]
    · rw [bank_setBank_scope _ _ same]
  unfold get
  cases kind : other.kind with
  | number => exact congrArg Value.float (number kind)
  | text => exact others (fun bank => .text (bank.text other.index)) (fun _ => rfl)
  | boolean => exact others (fun bank => .boolean (bank.boolean other.index)) (fun _ => rfl)
  | list =>
      exact others (fun bank => .integer (Int64.ofNat (bank.list other.index).length))
        (fun _ => rfl)

/-- A number is read back from its slot as a number. -/
theorem get_setNumber (reference : VariableRef) (value : Float) :
    (store.setNumber context reference value).get context { reference with kind := .number } =
      .float value :=
  congrArg Value.float (store.cell_setCell_same context .numbers reference value)

theorem get_assign_number {reference : VariableRef} (kind : reference.kind = .number)
    (value : Value) :
    (store.assign context reference value).get context reference = .float value.toFloat := by
  simp only [assign, get, kind]
  exact congrArg Value.float (store.cell_setCell_same context .numbers reference value.toFloat)

theorem get_assign_text {reference : VariableRef} (kind : reference.kind = .text)
    (value : Value) :
    (store.assign context reference value).get context reference = .text value.toText := by
  simp only [assign, get, kind]
  exact congrArg Value.text (store.cell_setCell_same context .texts reference value.toText)

/-! ## Temporary variables -/

theorem bank_resetTemporaries (scope : Scope) :
    (store.resetTemporaries context).bank context scope =
      if scope = .temporary then {} else store.bank context scope := by
  cases scope <;> simp [resetTemporaries, Store.bank]

/-- After a reset the temporary variables read as unwritten and all others as before. -/
theorem get_resetTemporaries (reference : VariableRef) :
    (store.resetTemporaries context).get context reference =
      if reference.scope = .temporary then ({} : Store).get context reference
      else store.get context reference := by
  unfold get number text boolean list
  rw [bank_resetTemporaries]
  by_cases temporary : reference.scope = .temporary
  · rw [temporary, if_pos rfl, if_pos rfl]
    rfl
  · rw [if_neg temporary, if_neg temporary]

end Store

end NovelEngine
