import NovelEngine.Proofs.EventDelivery
import NovelEngine.Proofs.FailedCommands
import NovelEngine.Proofs.SlotBounds

/-!
Contract: how many slots the banks of a game come to have.

Owns:
- banks and stores within the slot limit, and the writes that keep them there;
- the three kinds of commands that can grow a bank past the limit;
- the exact condition under which the banks of a game stay within it.

Does not own: what the slots hold.

A reference keeps to the limit because it is checked when it is read, and a slot of a range
because it is checked when it is reached. Growth by one item at a time is checked nowhere.
-/

namespace NovelEngine

/-! ## Banks -/

/-- No row of the bank and no list in it is longer than the highest index allows. -/
structure Bank.WithinLimit (bank : Bank) : Prop where
  numbers : bank.numbers.size ≤ maxSlot + 1
  texts : bank.texts.size ≤ maxSlot + 1
  booleans : bank.booleans.size ≤ maxSlot + 1
  lists : bank.lists.size ≤ maxSlot + 1
  items : ∀ index, (bank.list index).length ≤ maxSlot + 1

theorem Bank.withinLimit_empty : ({} : Bank).WithinLimit where
  numbers := Nat.zero_le _
  texts := Nat.zero_le _
  booleans := Nat.zero_le _
  lists := Nat.zero_le _
  items := fun _ => Nat.zero_le _

/-- A write within the limit leaves a row as long as the limit allows, or as long as it was. -/
theorem Slots.size_write_le {α : Type} (default : α) (cells : Array α) {index : Nat} (value : α)
    (within : index ≤ maxSlot) :
    (Slots.write default cells index value).size ≤ maxSlot + 1 ↔ cells.size ≤ maxSlot + 1 := by
  rw [Slots.size_write]
  omega

/-- Banks with the same lists are within the limit if their rows are. -/
theorem Bank.withinLimit_congr {bank other : Bank}
    (numbers : other.numbers.size ≤ maxSlot + 1 ↔ bank.numbers.size ≤ maxSlot + 1)
    (texts : other.texts.size ≤ maxSlot + 1 ↔ bank.texts.size ≤ maxSlot + 1)
    (booleans : other.booleans.size ≤ maxSlot + 1 ↔ bank.booleans.size ≤ maxSlot + 1)
    (lists : other.lists = bank.lists) : other.WithinLimit ↔ bank.WithinLimit := by
  have items (index : Nat) : other.list index = bank.list index :=
    congrArg (Slots.read [] · index) lists
  constructor
  · intro within
    exact ⟨numbers.mp within.numbers, texts.mp within.texts, booleans.mp within.booleans,
      lists ▸ within.lists, fun index => items index ▸ within.items index⟩
  · intro within
    exact ⟨numbers.mpr within.numbers, texts.mpr within.texts, booleans.mpr within.booleans,
      lists ▸ within.lists, fun index => items index ▸ within.items index⟩

/-- The writes of the row do not lead out of the limit, nor back into it. -/
def Bank.Row.KeepsLimit {α : Type} (row : Bank.Row α) : Prop :=
  ∀ (bank : Bank) (index : Nat) (value : α), index ≤ maxSlot →
    ((row.write bank index value).WithinLimit ↔ bank.WithinLimit)

theorem Bank.Row.numbers_keepsLimit : Bank.Row.numbers.KeepsLimit :=
  fun _ _ _ within => withinLimit_congr (Slots.size_write_le _ _ _ within) Iff.rfl Iff.rfl rfl

theorem Bank.Row.texts_keepsLimit : Bank.Row.texts.KeepsLimit :=
  fun _ _ _ within => withinLimit_congr Iff.rfl (Slots.size_write_le _ _ _ within) Iff.rfl rfl

theorem Bank.Row.booleans_keepsLimit : Bank.Row.booleans.KeepsLimit :=
  fun _ _ _ within => withinLimit_congr Iff.rfl Iff.rfl (Slots.size_write_le _ _ _ within) rfl

/-- A list may be stored if it is not too long itself. -/
theorem Bank.setList_within {bank : Bank} (before : bank.WithinLimit) {index : Nat}
    (within : index ≤ maxSlot) (items : List Value) :
    (bank.setList index items).WithinLimit ↔ items.length ≤ maxSlot + 1 := by
  constructor
  · intro written
    have here := written.items index
    unfold Bank.list Bank.setList at here
    rwa [Slots.read_write_same] at here
  · intro short
    have length := Slots.size_write_le [] bank.lists items within
    refine ⟨before.numbers, before.texts, before.booleans, length.mpr before.lists, ?_⟩
    intro other
    unfold Bank.list Bank.setList
    by_cases same : other = index
    · rw [same, Slots.read_write_same]
      exact short
    · rw [Slots.read_write_other _ _ _ same]
      exact before.items other

/-! ## Parameters -/

/-- How many parameters of a call go to each row of its locals. -/
structure ParameterCount where
  numbers : Nat := 0
  texts : Nat := 0
  booleans : Nat := 0
deriving DecidableEq, Repr

namespace ParameterCount

def of : List Value → ParameterCount
  | [] => {}
  | .text _ :: rest => { of rest with texts := (of rest).texts + 1 }
  | .boolean _ :: rest => { of rest with booleans := (of rest).booleans + 1 }
  | _ :: rest => { of rest with numbers := (of rest).numbers + 1 }

/-- No row of the locals has to hold more parameters than the limit allows. -/
structure Fits (count : ParameterCount) : Prop where
  numbers : count.numbers ≤ maxSlot + 1
  texts : count.texts ≤ maxSlot + 1
  booleans : count.booleans ≤ maxSlot + 1

end ParameterCount

namespace Bank

/-- The bank holds as many values of each kind, and lists as before. -/
structure Holds (bank : Bank) (count : ParameterCount) (lists : Array (List Value)) : Prop where
  numbers : bank.numbers.size = count.numbers
  texts : bank.texts.size = count.texts
  booleans : bank.booleans.size = count.booleans
  lists : bank.lists = lists

/-- Every parameter is the last one of its row when it is filled in. -/
theorem fill_holds (parameters : List Value) {bank : Bank} {count : ParameterCount}
    {lists : Array (List Value)} (holds : bank.Holds count lists) :
    (withParameters.fill bank count.numbers count.texts count.booleans parameters).Holds
      { numbers := count.numbers + (ParameterCount.of parameters).numbers
        texts := count.texts + (ParameterCount.of parameters).texts
        booleans := count.booleans + (ParameterCount.of parameters).booleans } lists := by
  obtain ⟨numbers, texts, booleans, same⟩ := holds
  induction parameters generalizing bank count with
  | nil => exact ⟨numbers, texts, booleans, same⟩
  | cons parameter rest inductionHypothesis =>
      have number (value : Float) :=
        @inductionHypothesis (bank.setNumber count.numbers value)
          { count with numbers := count.numbers + 1 } (by simp [setNumber, numbers]) texts
          booleans same
      cases parameter with
      | text value =>
          have filled := @inductionHypothesis (bank.setText count.texts value)
            { count with texts := count.texts + 1 } numbers (by simp [setText, texts]) booleans
            same
          exact ⟨filled.numbers, filled.texts.trans (Nat.add_right_comm _ _ _),
            filled.booleans, filled.lists⟩
      | boolean value =>
          have filled := @inductionHypothesis (bank.setBoolean count.booleans value)
            { count with booleans := count.booleans + 1 } numbers texts
            (by simp [setBoolean, booleans]) same
          exact ⟨filled.numbers, filled.texts,
            filled.booleans.trans (Nat.add_right_comm _ _ _), filled.lists⟩
      | integer value =>
          have filled := number (Value.toFloat (.integer value))
          exact ⟨filled.numbers.trans (Nat.add_right_comm _ _ _), filled.texts,
            filled.booleans, filled.lists⟩
      | float value =>
          have filled := number (Value.toFloat (.float value))
          exact ⟨filled.numbers.trans (Nat.add_right_comm _ _ _), filled.texts,
            filled.booleans, filled.lists⟩

/-- Parameters fill an empty bank up to the limit, unless there are too many of a kind. -/
theorem withParameters_within (parameters : List Value) :
    (({} : Bank).withParameters parameters).WithinLimit ↔
      (ParameterCount.of parameters).Fits := by
  have empty : ({} : Bank).Holds {} #[] := ⟨rfl, rfl, rfl, rfl⟩
  have holds : (({} : Bank).withParameters parameters).Holds _ #[] := fill_holds parameters empty
  simp only [Nat.zero_add] at holds
  constructor
  · intro within
    exact ⟨holds.numbers ▸ within.numbers, holds.texts ▸ within.texts,
      holds.booleans ▸ within.booleans⟩
  · intro fits
    refine ⟨holds.numbers ▸ fits.numbers, holds.texts ▸ fits.texts,
      holds.booleans ▸ fits.booleans, ?_, fun index => ?_⟩
    · rw [holds.lists]
      exact Nat.zero_le _
    · unfold Bank.list
      rw [holds.lists]
      exact Nat.zero_le _

end Bank

/-! ## Stores -/

/-- Every bank of the store is within the limit. -/
def Store.WithinLimit (store : Store) : Prop :=
  ∀ context scope, (store.bank context scope).WithinLimit

namespace Store

variable {store : Store} {context : Context} {scope : Scope}

/-- A replaced bank is found where it was, and the others are as they were. -/
theorem bank_setBank_cases (store : Store) (context other : Context) (scope place : Scope)
    (bank : Bank) :
    ((store.setBank context scope bank).bank other place = bank ∧
        store.bank other place = store.bank context scope) ∨
      (store.setBank context scope bank).bank other place = store.bank other place := by
  rw [bank_setBank]
  split
  · rename_i here
    obtain ⟨same, shared⟩ := here
    rw [same]
    exact .inl ⟨rfl, store.bank_of_shared context shared⟩
  · exact .inr rfl

/-- What leads no bank out of the limit or back into it leads no store there either. -/
theorem changeBank_within {change : Bank → Bank}
    (keeps : ∀ bank, (change bank).WithinLimit ↔ bank.WithinLimit) :
    (store.changeBank context scope change).WithinLimit ↔ store.WithinLimit := by
  refine forall_congr' (fun other => forall_congr' (fun place => ?_))
  unfold changeBank
  rcases store.bank_setBank_cases context other scope place (change (store.bank context scope))
    with ⟨here, same⟩ | elsewhere
  · rw [here, same]
    exact keeps _
  · rw [elsewhere]

theorem setCell_within {α : Type} {row : Bank.Row α} (keeps : row.KeepsLimit)
    {reference : VariableRef} (within : reference.index ≤ maxSlot) (value : α) :
    (store.setCell context row reference value).WithinLimit ↔ store.WithinLimit :=
  changeBank_within (fun bank => keeps bank reference.index value within)

namespace WithinLimit

theorem setBank (limited : store.WithinLimit) (bank : Bank) :
    (store.setBank context scope bank).WithinLimit ↔ bank.WithinLimit := by
  constructor
  · intro changed
    have here := changed context scope
    rwa [bank_setBank_same] at here
  · intro within other place
    rcases store.bank_setBank_cases context other scope place bank with ⟨here, _⟩ | elsewhere
    · rw [here]
      exact within
    · rw [elsewhere]
      exact limited other place

theorem setList (limited : store.WithinLimit) {reference : VariableRef}
    (within : reference.index ≤ maxSlot) (items : List Value) :
    (store.setList context reference items).WithinLimit ↔ items.length ≤ maxSlot + 1 :=
  (limited.setBank _).trans (Bank.setList_within (limited context reference.scope) within items)

theorem resetTemporaries (limited : store.WithinLimit) (context : Context) :
    (store.resetTemporaries context).WithinLimit :=
  (@setBank store context .temporary limited {}).mpr Bank.withinLimit_empty

theorem clearLocals (limited : store.WithinLimit) (context : Context) :
    (store.clearLocals context).WithinLimit := by
  have erased (table : Registry Context Bank)
      (within : ∀ other, ((table.find? other).getD {}).WithinLimit) (other : Context) :
      (((table.erase context).find? other).getD {}).WithinLimit := by
    by_cases same : other = context
    · rw [same, Registry.find?_erase_same]
      exact Bank.withinLimit_empty
    · rw [Registry.find?_erase_other _ same]
      exact within other
  intro other scope
  cases scope with
  | global => exact limited other .global
  | persistent => exact limited other .persistent
  | «local» => exact erased store.locals (fun other => limited other .local) other
  | temporary => exact erased store.temporaries (fun other => limited other .temporary) other

/-- An event starts within the limit unless it is given too many parameters of a kind. -/
theorem setParameters (limited : store.WithinLimit) (parameters : List Value) :
    ((store.clearLocals context).setParameters context parameters).WithinLimit ↔
      (ParameterCount.of parameters).Fits := by
  refine ((limited.clearLocals context).setBank _).trans ?_
  rw [bank_clearLocals_same]
  exact Bank.withParameters_within parameters

end WithinLimit

end Store

/-! ## Ranges -/

theorem rewriteCell_within {α : Type} {row : Bank.Row α} (keeps : row.KeepsLimit)
    {context : Context} {compute : Store → α → Except Error α} {slot : VariableRef}
    (within : slot.index ≤ maxSlot) (world : World) :
    (rewriteCell context row compute slot world).1.store.WithinLimit ↔
      world.store.WithinLimit := by
  unfold rewriteCell
  split
  · exact Store.setCell_within keeps within _
  · exact Iff.rfl

/-- Slots of a range are only reached within the limit. -/
theorem changeSlots_within {activation : Activation} {world : World} {target : VariableRef}
    {range : Nat} {change : VariableRef → World → World × Option Error}
    (keeps : ∀ slot world, slot.index ≤ maxSlot →
      ((change slot world).1.store.WithinLimit ↔ world.store.WithinLimit)) :
    (changeSlots activation world target range change).world.store.WithinLimit ↔
      world.store.WithinLimit :=
  iff_of_eq (changeRange_spares_within (fun world => world.store.WithinLimit)
    (fun _ _ _ within world => propext (keeps _ world within)) world)

theorem Activation.changeNumbers_within (activation : Activation) (world : World)
    (change : NumberChange) :
    (activation.changeNumbers world change).world.store.WithinLimit ↔
      world.store.WithinLimit := by
  rw [changeNumbers_eq]
  refine changeSlots_within (fun slot between within => ?_)
  obtain ⟨dice, aborted, drawn⟩ := change.source.yield_sameButDice between activation.context
  unfold rewriteNumber
  dsimp only
  rw [drawn]
  exact rewriteCell_within Bank.Row.numbers_keepsLimit within _

theorem Activation.changeBooleans_within (activation : Activation) (world : World)
    (change : BooleanChange) :
    (activation.changeBooleans world change).world.store.WithinLimit ↔
      world.store.WithinLimit := by
  rw [changeBooleans_eq]
  exact changeSlots_within (fun _ between within =>
    rewriteCell_within Bank.Row.booleans_keepsLimit within between)

/-! ## Lists -/

/-- Only a push makes a list longer than the limit allows, and only one onto a full list. -/
theorem ListOperation.apply_length {operation : ListOperation} {items after : List Value}
    {value : Value} {index : Nat} (short : items.length ≤ maxSlot + 1)
    (applied : operation.apply items value index = .ok after) :
    after.length ≤ maxSlot + 1 ↔ ¬ (operation = .push ∧ items.length = maxSlot + 1) := by
  cases operation with
  | push =>
      cases applied
      rw [List.length_append, List.length_singleton]
      simp only [true_and]
      omega
  | pop =>
      cases applied
      refine iff_of_true ?_ nofun
      rw [List.length_dropLast]
      omega
  | clear =>
      cases applied
      exact iff_of_true (Nat.zero_le _) nofun
  | set =>
      simp only [ListOperation.apply] at applied
      split at applied
      · cases applied
        refine iff_of_true ?_ nofun
        rw [Array.length_toList, Slots.size_write_le _ _ _ (by assumption)]
        exact short
      · cases applied
  | removeAt =>
      cases applied
      refine iff_of_true ?_ nofun
      exact Nat.le_trans (List.length_eraseIdx_le _ _) short

theorem Activation.changeLists_within {activation : Activation} {world : World}
    {change : ListChange} (limited : world.store.WithinLimit)
    (within : change.target.index ≤ maxSlot) :
    (activation.changeLists world change).world.store.WithinLimit ↔
      ¬ (change.operation = .push ∧
        (world.store.list activation.context change.target).length = maxSlot + 1) := by
  have short : (world.store.list activation.context change.target).length ≤ maxSlot + 1 :=
    (limited activation.context change.target.scope).items change.target.index
  unfold changeLists
  dsimp only
  split
  · rename_i after applied
    exact (limited.setList within after).trans (ListOperation.apply_length short applied)
  · rename_i failed
    refine iff_of_true limited (fun ⟨pushes, _⟩ => ?_)
    rw [pushes] at failed
    cases failed

/-! ## Snippets -/

/-- No array that the snippet leaves behind has more items than a row may hold. -/
structure SnippetResult.Fits (after : SnippetResult) : Prop where
  numbers : ∀ items, after.numbers? = some items → items.length ≤ maxSlot + 1
  strings : ∀ items, after.strings? = some items → items.length ≤ maxSlot + 1
  switches : ∀ items, after.switches? = some items → items.length ≤ maxSlot + 1

theorem SnippetResult.takeBack_within (after : SnippetResult) {bank : Bank}
    (before : bank.WithinLimit) : (after.takeBack bank).WithinLimit ↔ after.Fits := by
  obtain ⟨result, numbers, strings, switches⟩ := after
  constructor
  · intro within
    constructor
    · rintro items rfl
      simpa [takeBack] using within.numbers
    · rintro items rfl
      simpa [takeBack] using within.texts
    · rintro items rfl
      simpa [takeBack] using within.booleans
  · intro fits
    refine ⟨?_, ?_, ?_, before.lists, before.items⟩
    · cases numbers with
      | none => exact before.numbers
      | some items => simpa [takeBack] using fits.numbers items rfl
    · cases strings with
      | none => exact before.texts
      | some items => simpa [takeBack] using fits.strings items rfl
    · cases switches with
      | none => exact before.booleans
      | some items => simpa [takeBack] using fits.switches items rfl

/-- The snippet succeeds and leaves more items behind than the local bank may hold. -/
def World.OverflowsBy (world : World) (context : Context) (source : String) : Prop :=
  ∃ after, world.engine.evaluate? source (.ofBank (world.store.bank context .local)) =
    some after ∧ ¬ after.Fits

theorem World.runSnippet_within {world after : World} {context : Context} {source text : String}
    (limited : world.store.WithinLimit)
    (ran : world.runSnippet context source = .ok (text, after)) :
    after.store.WithinLimit ↔ ¬ world.OverflowsBy context source := by
  unfold World.runSnippet SnippetEngine.run at ran
  unfold World.OverflowsBy
  cases ended : world.engine.evaluate? source (.ofBank (world.store.bank context .local)) with
  | none =>
      rw [ended] at ran
      cases ran
  | some left =>
      rw [ended] at ran
      cases ran
      refine (limited.setBank _).trans ((left.takeBack_within (limited context .local)).trans ?_)
      simp

/-- A snippet that fails leaves everything as it was. -/
theorem World.not_overflowsBy_of_failed {world : World} {context : Context} {source : String}
    {error : Error} (failed : world.runSnippet context source = .error error) :
    ¬ world.OverflowsBy context source := by
  rintro ⟨after, ended, _⟩
  unfold World.runSnippet SnippetEngine.run at failed
  rw [ended] at failed
  cases failed

theorem Activation.runSnippet_within {activation : Activation} {world : World}
    (limited : world.store.WithinLimit) (source : String) :
    (activation.runSnippet world source).world.store.WithinLimit ↔
      ¬ world.OverflowsBy activation.context source := by
  unfold runSnippet
  split
  · rename_i ran
    exact World.runSnippet_within limited ran
  · rename_i failed
    exact iff_of_true limited (World.not_overflowsBy_of_failed failed)

/-- Whether the text of a change is computed by a snippet that overflows the local bank. -/
def TextChange.Overflows (change : TextChange) (world : World) (context : Context) : Prop :=
  ∃ source, change.source = some (.snippet source) ∧ world.OverflowsBy context source

/-- The slots of the texts themselves are only reached within the limit. -/
theorem Activation.changeTexts_within_of_yielded {activation : Activation}
    {world between : World} {change : TextChange} {operand : String}
    (yielded : activation.yieldText world change.source = .ok (operand, between)) :
    (activation.changeTexts world change).world.store.WithinLimit ↔
      between.store.WithinLimit := by
  rw [changeTexts_eq activation world yielded]
  exact changeSlots_within (fun _ between within =>
    rewriteCell_within Bank.Row.texts_keepsLimit within between)

theorem Activation.changeTexts_within {activation : Activation} {world : World}
    (limited : world.store.WithinLimit) (change : TextChange) :
    (activation.changeTexts world change).world.store.WithinLimit ↔
      ¬ change.Overflows world activation.context := by
  cases given : change.source with
  | none =>
      have yielded : activation.yieldText world change.source = .ok ("", world) := by
        rw [given]
        rfl
      refine iff_of_true ((changeTexts_within_of_yielded yielded).mpr limited) ?_
      simp [TextChange.Overflows, given]
  | some source =>
      cases source with
      | operand operand =>
          have yielded : activation.yieldText world change.source =
              .ok (operand.text world.store activation.context, world) := by
            rw [given]
            rfl
          refine iff_of_true ((changeTexts_within_of_yielded yielded).mpr limited) ?_
          simp [TextChange.Overflows, given]
      | snippet source =>
          have overflows : change.Overflows world activation.context ↔
              world.OverflowsBy activation.context source := by
            simp [TextChange.Overflows, given]
          have yields : activation.yieldText world change.source =
              world.runSnippet activation.context source := by
            rw [given]
            rfl
          rw [overflows]
          cases ran : world.runSnippet activation.context source with
          | error error =>
              refine iff_of_true ?_ (World.not_overflowsBy_of_failed ran)
              unfold changeTexts
              rw [yields, ran]
              exact limited
          | ok result =>
              rw [changeTexts_within_of_yielded (yields.trans ran)]
              exact World.runSnippet_within limited ran

/-! ## Calls -/

/-- Whether the call of an event goes through and has more parameters of a kind than a row may
hold. -/
def Activation.OverflowsCall (activation : Activation) (world : World) (id : String)
    (parameters : List Value) (wait : Bool) : Prop :=
  (world.board.events.find? id).isSome ∧ (wait = true → activation.mayCall = true) ∧
    ¬ (ParameterCount.of parameters).Fits

theorem Activation.callEvent_within {activation : Activation} {world : World}
    (limited : world.store.WithinLimit) (id : String) (parameters : List Value) (wait : Bool) :
    (activation.callEvent world id parameters wait).world.store.WithinLimit ↔
      ¬ activation.OverflowsCall world id parameters wait := by
  unfold callEvent OverflowsCall
  cases world.board.events.find? id with
  | none => exact iff_of_true limited nofun
  | some event =>
      have entered :
          (world.enterEvent (activation.contextUnder event.id) id parameters).store.WithinLimit ↔
            (ParameterCount.of parameters).Fits := limited.setParameters parameters
      cases wait with
      | false => exact entered.trans (by simp)
      | true =>
          cases activation.mayCall with
          | false => exact iff_of_true limited (by simp)
          | true => exact entered.trans (by simp)

/-! ## All instructions -/

/-- Whether the instruction writes variables when it is executed. -/
def Instruction.writes : Instruction → Bool
  | .changeNumbers _ => true
  | .changeTexts _ => true
  | .changeBooleans _ => true
  | .changeLists _ => true
  | .snippet _ => true
  | .callEvent .. => true
  | _ => false

/-- All other instructions leave the variables alone. -/
theorem Activation.perform_store (activation : Activation) (world : World) (id : String)
    {instruction : Instruction} (reads : instruction.writes = false) :
    (activation.perform world id instruction).world.store = world.store := by
  cases instruction with
  | conditionElseIf test =>
      simp only [perform, testElseIf]
      split
      · rfl
      · cases test <;> rfl
  | jumpToLabel name =>
      simp only [perform, followJump]
      split
      · rfl
      · split
        · rfl
        · split <;> rfl
  | wait time =>
      simp only [perform, waitFrames]
      split <;> rfl
  | callScene uid =>
      simp only [perform, callScene]
      split
      · rfl
      · split <;> rfl
  | showMessage text character wait =>
      simp only [perform, showMessage]
      split
      · rfl
      · split
        · split <;> rfl
        · split <;> rfl
  | showChoices choices target =>
      simp only [perform, showChoices]
      split <;> rfl
  | inputNumber target length =>
      simp only [perform, inputNumber, openPrompt]
      split <;> rfl
  | inputText target length =>
      simp only [perform, inputText, openPrompt]
      split <;> rfl
  | object kind slot timing action =>
      simp only [perform, actOnObject]
      split
      · rfl
      · simp only [eraseObject, animateObject]
        split <;> split <;> rfl
      · unfold animateObject
        split <;> rfl
  | changeNumbers | changeTexts | changeBooleans | changeLists | snippet | callEvent =>
      cases reads
  | _ => rfl

/-- Whether a command grows a bank past the limit: by a push onto a full list, by a snippet that
leaves too many items behind, or by a call with too many parameters. -/
def Deed.Overflows (deed : Deed) : Prop :=
  match deed.instruction with
  | .changeLists change =>
      change.operation = .push ∧
        (deed.world.store.list deed.run.context change.target).length = maxSlot + 1
  | .snippet source => deed.world.OverflowsBy deed.run.context source
  | .changeTexts change => change.Overflows deed.world deed.run.context
  | .callEvent id parameters wait => deed.run.OverflowsCall deed.world id parameters wait
  | _ => False

/-- A command leads out of the limit exactly if it overflows. -/
theorem Deed.outcome_within {deed : Deed}
    (bounded : ∀ reference, deed.instruction.slot? = some reference → reference.index ≤ maxSlot)
    (limited : deed.world.store.WithinLimit) :
    deed.outcome.world.store.WithinLimit ↔ ¬ deed.Overflows := by
  obtain ⟨run, world, command, instruction⟩ := deed
  cases instruction with
  | changeNumbers change =>
      exact iff_of_true ((run.changeNumbers_within world change).mpr limited) not_false
  | changeBooleans change =>
      exact iff_of_true ((run.changeBooleans_within world change).mpr limited) not_false
  | changeTexts change => exact Activation.changeTexts_within limited change
  | changeLists change => exact Activation.changeLists_within limited (bounded change.target rfl)
  | snippet source => exact Activation.runSnippet_within limited source
  | callEvent id parameters wait =>
      exact Activation.callEvent_within limited id parameters wait
  | _ =>
      refine iff_of_true ?_ not_false
      unfold Deed.outcome
      rw [Activation.perform_store run world command.id rfl]
      exact limited

/-! ## Events of the host -/

/-- An answer is written within the limit. -/
theorem Activation.Bounded.deliver_within {run : Activation} {world : World} {event : HostEvent}
    {delivery : Delivery} (bounded : run.Bounded) (limited : world.store.WithinLimit)
    (delivered : run.deliver? world event = some delivery) :
    delivery.world.store.WithinLimit := by
  obtain ⟨box, erased⟩ := run.eraseIfAutomatic_eq world
  unfold Activation.deliver? at delivered
  split at delivered
  · cases delivered
    rw [erased]
    exact limited
  · rename_i labels target index waits
    split at delivered
    · cases delivered
    · cases delivered
      have within := bounded.wait _ waits
      rw [Activation.takeChoice_writes, erased]
      cases target with
      | none => exact limited
      | some reference =>
          have slot := within reference rfl
          exact (Store.setCell_within Bank.Row.numbers_keepsLimit slot _).mpr limited
  · rename_i target value waits
    obtain ⟨within, single⟩ := bounded.wait _ waits
    cases delivered
    show (world.store.assign run.context target value).WithinLimit
    unfold Store.assign
    split
    · exact (Store.setCell_within Bank.Row.numbers_keepsLimit within _).mpr limited
    · exact (Store.setCell_within Bank.Row.texts_keepsLimit within _).mpr limited
    · exact (Store.setCell_within Bank.Row.booleans_keepsLimit within _).mpr limited
    · contradiction
  · cases delivered
    exact limited
  · cases delivered

/-! ## Games -/

/-- What can be started is bounded, and every bank is within the limit. -/
structure World.Limited (world : World) : Prop where
  bounded : world.Bounded
  store : world.store.WithinLimit

/-- Banks stay within the limit as long as no allowed command leads out of it. That a command
does so exactly if it overflows is granted, for it depends on the world that it finds. -/
theorem upkeep_limited {Allowed : Deed → Prop}
    (safe : ∀ deed, Allowed deed →
      (deed.outcome.world.store.WithinLimit ↔ ¬ deed.Overflows) →
      deed.outcome.world.store.WithinLimit) :
    GameUpkeep Allowed Activation.Bounded World.Limited where
  congr := fun bounded script _ wait => bounded.congr script wait
  reset := fun context limited =>
    ⟨limited.bounded.congr rfl rfl rfl, limited.store.resetTemporaries context⟩
  release := fun _ limited => ⟨limited.bounded.congr rfl rfl rfl, limited.store⟩
  deactivate := fun id limited => ⟨limited.bounded.deactivate id, limited.store⟩
  deed := by
    intro deed due allowed bounded limited
    have within := fun reference =>
      bounded.script deed.run.pointer deed.instruction reference due.decoded.2
    have effect := deed.run.perform_effect deed.world deed.command.id deed.instruction
    obtain ⟨known, called⟩ := limited.bounded.calling
      (deed.run.perform_calling deed.world deed.command.id deed.instruction)
    exact ⟨effect.bounded bounded within,
      ⟨known, safe deed allowed (Deed.outcome_within within limited.store)⟩, called⟩
  deliver := by
    intro run world event delivery bounded limited delivered
    have spares := Activation.deliver?_spares delivered
    have answered := Activation.deliver?_answered delivered
    refine ⟨.of_none ?_ answered.waitingFor, limited.bounded.congr spares.scenes
      (congrArg EventBoard.events spares.board) spares.spawned,
      bounded.deliver_within limited.store delivered⟩
    rw [(Activation.deliver?_sameRun delivered).script]
    exact bounded.script
  spawned := fun limited => limited.bounded.spawned
  adopt := fun limited =>
    ⟨⟨limited.bounded.scenes, limited.bounded.events, List.forall_mem_nil _⟩, limited.store⟩
  unrequest := fun limited => ⟨limited.bounded.congr rfl rfl rfl, limited.store⟩
  leave := fun limited =>
    ⟨limited.bounded.congr rfl rfl rfl, limited.store.clearLocals _⟩
  scene := fun limited found _ => .of_none (limited.bounded.scene found) rfl

/-- A game starts without variables. -/
theorem Game.start_store {host : Host} {project : Project} {game : Game}
    {notices : List Notice} (started : host.start project = .ok (game, notices)) :
    game.world.store = {} := by
  obtain ⟨loading, _, _, loaded, _, rfl⟩ := Host.start_cases started
  obtain ⟨active, activated⟩ := loading.world.activateAll_eq (host.parallelEvents loading.world)
  rw [activated]
  exact Loading.addSources_keeps (fun world => world.store = {}) (fun _ _ kept => kept)
    (fun _ _ kept => kept) rfl loaded

theorem Store.withinLimit_empty : ({} : Store).WithinLimit := by
  intro context scope
  cases scope <;> exact Bank.withinLimit_empty

/-- What holds of the commands of a passage, and after it, if they are all allowed. -/
theorem Game.Passage.limited {host : Host} {project : Project} {start game : Game}
    {notices : List Notice} {happenings : List Happening} {Allowed : Deed → Prop}
    (started : host.start project = .ok (start, notices))
    (passage : Game.Passage start happenings game)
    (safe : ∀ deed, Allowed deed →
      (deed.outcome.world.store.WithinLimit ↔ ¬ deed.Overflows) →
      deed.outcome.world.store.WithinLimit)
    (heeded : Heeded Allowed happenings) :
    Heeded (fun deed => deed.outcome.world.store.WithinLimit ↔ ¬ deed.Overflows) happenings ∧
      game.world.store.WithinLimit := by
  obtain ⟨bounded, known⟩ := start_bounded started
  have limited : start.world.Limited := by
    refine ⟨known, ?_⟩
    rw [start_store started]
    exact Store.withinLimit_empty
  have kept := (upkeep_limited safe).passage passage bounded limited heeded
  refine ⟨fun deed member => ?_, kept.sound.store⟩
  obtain ⟨due, fits, sound⟩ := kept.founded deed member
  exact Deed.outcome_within
    (fun reference => fits.script _ _ reference due.decoded.2) sound.store

/-- The banks of a game are within the limit as long as no command overflows, and beyond it as
soon as one has. -/
theorem Game.Passage.withinLimit_iff {host : Host} {project : Project} {start game : Game}
    {notices : List Notice} {happenings : List Happening}
    (started : host.start project = .ok (start, notices))
    (passage : Game.Passage start happenings game) :
    ((∀ deed, .did deed ∈ happenings → deed.outcome.world.store.WithinLimit) ↔
        ∀ deed, .did deed ∈ happenings → ¬ deed.Overflows) ∧
      ((∀ deed, .did deed ∈ happenings → ¬ deed.Overflows) →
        game.world.store.WithinLimit) := by
  have safe (deed : Deed) (fits : ¬ deed.Overflows)
      (law : deed.outcome.world.store.WithinLimit ↔ ¬ deed.Overflows) := law.mpr fits
  refine ⟨⟨fun within => ?_, fun fits => ?_⟩, fun fits => (passage.limited started safe fits).2⟩
  · have law := (passage.limited started (fun _ within _ => within) within).1
    exact fun deed member => (law deed member).mp (within deed member)
  · have law := (passage.limited started safe fits).1
    exact fun deed member => (law deed member).mpr (fits deed member)

/-! ## A crowded gate -/

/-- An event that runs all the time and adds an item to a list in every frame. -/
def crowdedGate : Project where
  scenes := [{ uid := "hall" }]
  events := [{
    id := "gate"
    parallel := true
    commands := [{
      id := "ChangeListVariables"
      params := .record [
        ("target", .record [
          ("scope", .text "global"), ("kind", .text "list"), ("index", .integer 0)]),
        ("operation", .text "push"),
        ("value", .integer 7)] }] }]

/-- The first item still fits in. -/
theorem crowdedGate_withinLimit :
    ∃ start notices happenings game, Host.plain.start crowdedGate = .ok (start, notices) ∧
      Game.Passage start happenings game ∧ happenings ≠ [] ∧
      game.world.store.global.list 0 = [.integer 7] ∧ game.world.store.WithinLimit := by
  obtain ⟨start, notices, frame, run, world, command, change, started, ran, acts, empty, list⟩ :
      ∃ start notices frame run world command change,
        Host.plain.start crowdedGate = .ok (start, notices) ∧ start.runThreads 1 = some frame ∧
        start.frameHappenings 1 ++ frame.game.sceneChange =
          [.did ⟨run, world, command, .changeLists change⟩] ∧
        world.store.list run.context change.target = [] ∧
        frame.game.followSceneRequest.1.world.store.global.list 0 = [.integer 7] :=
    ⟨_, _, _, _, _, _, _, rfl, rfl, rfl, rfl, rfl⟩
  have passage := Game.Passage.tick .stay ran (Game.tick_eq ran)
  rw [acts] at passage
  refine ⟨start, notices, _, _, started, passage, by simp, list, ?_⟩
  refine (passage.withinLimit_iff started).2 (fun deed member => ?_)
  cases List.mem_singleton.mp member
  rintro ⟨_, full⟩
  have full : (world.store.list run.context change.target).length = maxSlot + 1 := full
  rw [empty] at full
  cases full

/-- The game of the crowded gate once its scene is over. -/
private def crowded? (store : Store) : Option Game := do
  let (game, _) ← (Host.plain.start crowdedGate).toOption
  return { game with
    world := { game.world with store }
    main := { root := game.main.root.finished } }

/-- What a frame of the crowded gate makes of the variables. -/
private def Store.crowd (store : Store) : Store :=
  ((store.resetTemporaries { id := "hall" }).resetTemporaries { id := "gate" }).setList
    { id := "gate" } { scope := .global, kind := .list, index := 0 }
    (store.global.list 0 ++ [.integer 7])

private theorem Store.length_crowd (store : Store) :
    (store.crowd.global.list 0).length = (store.global.list 0).length + 1 := by
  have grown : store.crowd.global.list 0 = store.global.list 0 ++ [.integer 7] :=
    Slots.read_write_same _ _ _ _
  rw [grown, List.length_append, List.length_singleton]

private theorem crowded?_frame (store : Store) :
    ∃ game frame, crowded? store = some game ∧ game.runThreads 1 = some frame ∧
      crowded? store.crowd = some frame.game.followSceneRequest.1 :=
  ⟨_, _, rfl, rfl, rfl⟩

private theorem crowdedGate_first :
    ∃ start notices frame, Host.plain.start crowdedGate = .ok (start, notices) ∧
      start.runThreads 1 = some frame ∧
      crowded? (Store.crowd {}) = some frame.game.followSceneRequest.1 :=
  ⟨_, _, _, rfl, rfl, rfl⟩

/-- The list grows by one item in every frame, whatever its length. -/
theorem crowdedGate_grows :
    ∃ start notices, Host.plain.start crowdedGate = .ok (start, notices) ∧
      ∀ frames, ∃ happenings game, Game.Passage start happenings game ∧
        (game.world.store.global.list 0).length = frames + 1 := by
  obtain ⟨start, notices, first, started, ran, settled⟩ := crowdedGate_first
  refine ⟨start, notices, started, fun frames => ?_⟩
  suffices grown : ∃ happenings game store, Game.Passage start happenings game ∧
      crowded? store = some game ∧ (store.global.list 0).length = frames + 1 by
    obtain ⟨happenings, game, store, passage, settled, length⟩ := grown
    cases settled
    exact ⟨happenings, _, passage, length⟩
  induction frames with
  | zero => exact ⟨_, _, _, .tick .stay ran (Game.tick_eq ran), settled, Store.length_crowd {}⟩
  | succ frames inductionHypothesis =>
      obtain ⟨happenings, game, store, passage, settled, length⟩ := inductionHypothesis
      obtain ⟨same, frame, evaluated, ran, onwards⟩ := crowded?_frame store
      rw [settled] at evaluated
      cases evaluated
      refine ⟨_, _, store.crowd, .tick passage ran (Game.tick_eq ran), onwards, ?_⟩
      rw [Store.length_crowd, length]

/-- Lists grow past the limit. -/
theorem not_always_withinLimit :
    ¬ ∀ (host : Host) (project : Project) (start game : Game) (notices : List Notice)
        (happenings : List Happening),
      host.start project = .ok (start, notices) →
      Game.Passage start happenings game → game.world.store.WithinLimit := by
  intro always
  obtain ⟨start, notices, started, grows⟩ := crowdedGate_grows
  obtain ⟨happenings, game, passage, length⟩ := grows (maxSlot + 1)
  have within := always .plain crowdedGate start game notices happenings started passage
  have short : (game.world.store.global.list 0).length ≤ maxSlot + 1 :=
    (within { id := "gate" } .global).items 0
  omega

end NovelEngine
