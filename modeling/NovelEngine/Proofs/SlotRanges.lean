import NovelEngine.Engine.Changes
import NovelEngine.Proofs.Cells

/-!
Contract: changes of several neighbouring slots.

Owns:
- how the change of a range falls apart into the slots in front of a slot, this slot and the
  slots behind it, and where it stops when it fails;
- what a range leaves alone;
- the value of its operand that each slot of a range is changed by.

Does not own: the operations on one slot.

A text or a truth value is computed once for the whole range. A number is read again for every
slot. If it stands in the range itself, the slots behind it are therefore changed by what has
become of it, not by what it was.
-/

namespace NovelEngine

/-! ## Slots of a range -/

namespace VariableRef

/-- The slot `distance` further on, within the slot limit or not. -/
def further (reference : VariableRef) (distance : Nat) : VariableRef :=
  { reference with index := reference.index + distance }

theorem eq_further_of_shift {reference slot : VariableRef} {distance : Nat}
    (shifted : reference.shift distance = .ok slot) : slot = reference.further distance := by
  unfold shift at shifted
  split at shifted
  · cases shifted
    rfl
  · cases shifted

theorem within_of_shift {reference slot : VariableRef} {distance : Nat}
    (shifted : reference.shift distance = .ok slot) : reference.index + distance ≤ maxSlot := by
  unfold shift at shifted
  split at shifted
  · assumption
  · cases shifted

end VariableRef

section Ranges

variable {change : VariableRef → World → World × Option Error} {target : VariableRef}

/-- What no slot of a range within the slot limit changes, the range does not change. -/
theorem changeRange_spares_within {β : Type} (view : World → β) {offset count : Nat}
    (spared : ∀ distance, offset ≤ distance → distance < offset + count →
      target.index + distance ≤ maxSlot →
      ∀ world, view (change (target.further distance) world).1 = view world)
    (world : World) : view (changeRange change target offset count world).1 = view world := by
  induction count generalizing offset world with
  | zero => rfl
  | succ count inductionHypothesis =>
      unfold changeRange
      split
      · rfl
      · rename_i slot shifted
        have first := spared offset (Nat.le_refl _) (by omega)
          (VariableRef.within_of_shift shifted) world
        rw [← VariableRef.eq_further_of_shift shifted] at first
        split
        · rename_i changed error equal
          rw [equal] at first
          exact first
        · rename_i changed equal
          rw [equal] at first
          have rest : view (changeRange change target (offset + 1) count changed).1 =
              view changed :=
            inductionHypothesis
              (fun distance above below => spared distance (by omega) (by omega)) changed
          exact rest.trans first

/-- What no slot of a range changes, the range does not change. -/
theorem changeRange_spares {β : Type} (view : World → β) {offset count : Nat}
    (spared : ∀ distance, offset ≤ distance → distance < offset + count →
      ∀ world, view (change (target.further distance) world).1 = view world)
    (world : World) : view (changeRange change target offset count world).1 = view world :=
  changeRange_spares_within view (fun distance above below _ => spared distance above below) world

/-- A range falls apart into two, of which the second is not reached if the first fails. -/
theorem changeRange_add (offset front behind : Nat) (world : World) :
    changeRange change target offset (front + behind) world =
      match changeRange change target offset front world with
      | (between, none) => changeRange change target (offset + front) behind between
      | (between, some error) => (between, some error) := by
  induction front generalizing offset world with
  | zero => simp only [Nat.zero_add, Nat.add_zero, changeRange]
  | succ front inductionHypothesis =>
      rw [Nat.add_right_comm, changeRange, changeRange]
      split
      · rfl
      · split
        · rfl
        · rw [inductionHypothesis, show offset + 1 + front = offset + (front + 1) by omega]

/-- A range without a failing slot has none in its front part either, and goes on behind it. -/
theorem changeRange_reaches {offset count : Nat} {world after : World}
    (succeeds : changeRange change target offset count world = (after, none)) {distance : Nat}
    (inside : distance ≤ count) :
    ∃ between,
      changeRange change target offset distance world = (between, none) ∧
      changeRange change target (offset + distance) (count - distance) between =
        (after, none) := by
  rw [show count = distance + (count - distance) by omega, changeRange_add] at succeeds
  split at succeeds
  · rename_i between reached
    exact ⟨between, reached, succeeds⟩
  · cases succeeds

/-- A range without a failing slot passes its first slot. -/
theorem changeRange_passes {offset count : Nat} {world after : World}
    (succeeds : changeRange change target offset (count + 1) world = (after, none)) :
    ∃ later,
      change (target.further offset) world = (later, none) ∧
      changeRange change target (offset + 1) count later = (after, none) := by
  unfold changeRange at succeeds
  split at succeeds
  · cases succeeds
  · rename_i slot shifted
    rw [VariableRef.eq_further_of_shift shifted] at succeeds
    split at succeeds
    · cases succeeds
    · rename_i later passed
      exact ⟨later, passed, succeeds⟩

end Ranges

/-! ## Rewriting the cells of a row -/

/-- Computes a cell anew from the store and from what the cell holds. -/
def rewriteCell {α : Type} (context : Context) (row : Bank.Row α)
    (compute : Store → α → Except Error α) (slot : VariableRef) (world : World) :
    World × Option Error :=
  match compute world.store (world.store.cell context row slot) with
  | .ok value => ({ world with store := world.store.setCell context row slot value }, none)
  | .error error => (world, some error)

section Rewriting

variable {α : Type} {context : Context} {row : Bank.Row α}
  {compute : Store → α → Except Error α} {target : VariableRef}

theorem rewriteCell_spares {β : Type} (view : Store → β) {slot : VariableRef}
    (spared : ∀ store value, view (store.setCell context row slot value) = view store)
    (world : World) :
    view (rewriteCell context row compute slot world).1.store = view world.store := by
  unfold rewriteCell
  split
  · exact spared _ _
  · rfl

theorem rewriteCell_ok {slot : VariableRef} {world after : World}
    (succeeds : rewriteCell context row compute slot world = (after, none)) :
    compute world.store (world.store.cell context row slot) =
      .ok (after.store.cell context row slot) := by
  unfold rewriteCell at succeeds
  split at succeeds
  · rename_i value computed
    cases succeeds
    rw [computed, Store.cell_setCell_same]
  · cases succeeds

/-- A range of cells leaves the cells in front of it and behind it alone. -/
theorem cell_changeRange_outside {offset count distance : Nat} {world after : World}
    {failure : Option Error}
    (changed : changeRange (rewriteCell context row compute) target offset count world =
      (after, failure))
    (outside : distance < offset ∨ offset + count ≤ distance) :
    after.store.cell context row (target.further distance) =
      world.store.cell context row (target.further distance) := by
  obtain rfl : (changeRange (rewriteCell context row compute) target offset count world).1 =
      after := congrArg Prod.fst changed
  refine changeRange_spares
    (fun world => world.store.cell context row (target.further distance))
    (fun other above below => ?_) world
  refine rewriteCell_spares (fun store => store.cell context row (target.further distance))
    (fun store value => store.cell_setCell_other context row value (.inr ?_))
  show target.index + distance ≠ target.index + other
  omega

/-- Each cell of a range is computed from what it held and from the store that the cells in
front of it have left. These hold their final values by then. -/
theorem changeRange_cell {count : Nat} {world after : World}
    (succeeds : changeRange (rewriteCell context row compute) target 0 count world =
      (after, none)) {distance : Nat} (inside : distance < count) :
    ∃ between,
      changeRange (rewriteCell context row compute) target 0 distance world =
        (between, none) ∧
      compute between.store (world.store.cell context row (target.further distance)) =
        .ok (after.store.cell context row (target.further distance)) ∧
      ∀ earlier < distance, between.store.cell context row (target.further earlier) =
        after.store.cell context row (target.further earlier) := by
  obtain ⟨between, reached, onwards⟩ :=
    changeRange_reaches succeeds (Nat.le_of_lt inside)
  have front (earlier : Nat) (below : earlier < 0 + distance) :=
    cell_changeRange_outside onwards (.inl below)
  have ahead := cell_changeRange_outside reached (.inr (Nat.le_refl (0 + distance)))
  rw [show count - distance = count - distance - 1 + 1 by omega] at onwards
  obtain ⟨later, passed, rest⟩ := changeRange_passes onwards
  have settled := cell_changeRange_outside rest (.inl (Nat.lt_succ_self (0 + distance)))
  rw [Nat.zero_add] at front ahead passed settled
  refine ⟨between, reached, ?_, fun earlier below => (front earlier below).symm⟩
  rw [← ahead, settled]
  exact rewriteCell_ok passed

end Rewriting

/-! ## Numbers, texts and truth values as rewritten cells -/

/-- A row of slots each of which was changed by the same function of what it held. -/
def ChangedAlike {α : Type} (row : Bank.Row α) (context : Context) (target : VariableRef)
    (range : Nat) (change : α → Except Error α) (before after : Store) : Prop :=
  ∀ distance < max range 1, change (before.cell context row (target.further distance)) =
    .ok (after.cell context row (target.further distance))

/-- If the rewritten cells are computed without the store, they are all changed alike. -/
theorem changedAlike_of_const {α : Type} {row : Bank.Row α} {context : Context}
    {target : VariableRef} {range : Nat} {change : α → Except Error α} {world after : World}
    (succeeds : changeRange (rewriteCell context row (fun _ => change)) target 0 (max range 1)
      world = (after, none)) :
    ChangedAlike row context target range change world.store after.store := by
  intro distance inside
  obtain ⟨_, _, computed, _⟩ := changeRange_cell succeeds inside
  exact computed

namespace Operand

/-- Whether the operand is the number in the slot `distance` behind `target`. -/
def IsNumberBehind (operand : Operand) (target : VariableRef) (distance : Nat) : Prop :=
  operand = .slot { target.further distance with kind := .number }

theorem number_of_behind {operand : Operand} {target : VariableRef} {distance : Nat}
    (own : operand.IsNumberBehind target distance) (store : Store) (context : Context) :
    operand.number store context =
      store.cell context .numbers (target.further distance) := by
  rw [own]
  rfl

/-- A number written to a slot changes no operand but that slot. -/
theorem number_setCell_other {operand : Operand} {target : VariableRef} {distance : Nat}
    (other : ¬ operand.IsNumberBehind target distance) (store : Store) (context : Context)
    (value : Float) :
    operand.number (store.setCell context .numbers (target.further distance) value) context =
      operand.number store context := by
  cases operand with
  | literal constant => rfl
  | slot reference =>
      refine congrArg Value.toFloat (store.get_setNumber_other context value ?_)
      refine Decidable.byContradiction (fun same => other ?_)
      simp only [not_or, ne_eq, Decidable.not_not] at same
      obtain ⟨kind, scope, index⟩ := same
      obtain ⟨_, _, _⟩ := reference
      cases kind
      cases scope
      cases index
      rfl

/-- A range of numbers changes no operand that does not stand in it. -/
theorem number_changeRange_foreign {operand : Operand} {target : VariableRef}
    {context : Context} {compute : Store → Float → Except Error Float} {count : Nat}
    {world after : World} {failure : Option Error}
    (changed : changeRange (rewriteCell context .numbers compute) target 0 count world =
      (after, failure))
    (foreign : ∀ own < count, ¬ operand.IsNumberBehind target own) :
    operand.number after.store context = operand.number world.store context := by
  obtain rfl : (changeRange (rewriteCell context .numbers compute) target 0 count world).1 =
      after := congrArg Prod.fst changed
  refine changeRange_spares (fun world => operand.number world.store context)
    (fun own above below => ?_) world
  exact rewriteCell_spares (fun store => operand.number store context)
    (fun store value => number_setCell_other (foreign own (by omega)) store context value)

end Operand

namespace Activation

variable (activation : Activation) (world : World)

/-- Rewrites the number in a slot with the number that the source yields there. -/
def rewriteNumber (operation : NumberOperation) (source : NumberSource) (slot : VariableRef)
    (world : World) : World × Option Error :=
  let (operand, world) := source.yield world activation.context
  rewriteCell activation.context .numbers (fun _ current => operation.apply current operand)
    slot world

theorem changeNumbers_eq (change : NumberChange) :
    activation.changeNumbers world change =
      changeSlots activation world change.target change.range
        (activation.rewriteNumber change.operation change.source) := by
  unfold changeNumbers
  congr 1
  funext slot between
  unfold rewriteNumber
  generalize change.source.yield between activation.context = yielded
  obtain ⟨operand, between⟩ := yielded
  have current : between.store.number activation.context slot =
      between.store.cell activation.context .numbers slot := rfl
  simp only [rewriteCell, current]
  cases change.operation.apply (between.store.cell activation.context .numbers slot) operand <;>
    rfl

/-- Without random numbers every slot is computed from the store alone. -/
theorem changeNumbers_of_operand {change : NumberChange} {operand : Operand}
    (source : change.source = .operand operand) :
    activation.changeNumbers world change =
      changeSlots activation world change.target change.range
        (rewriteCell activation.context .numbers (fun store current =>
          change.operation.apply current (operand.number store activation.context))) := by
  rw [changeNumbers_eq, source]
  rfl

theorem changeBooleans_eq (change : BooleanChange) :
    activation.changeBooleans world change =
      changeSlots activation world change.target change.range
        (rewriteCell activation.context .booleans (fun _ current =>
          .ok (if change.toggle then !current
            else change.value.boolean world.store activation.context))) :=
  rfl

theorem changeTexts_eq {change : TextChange} {operand : String} {between : World}
    (yielded : activation.yieldText world change.source = .ok (operand, between)) :
    activation.changeTexts world change =
      changeSlots activation between change.target change.range
        (rewriteCell activation.context .texts (fun _ current =>
          .ok (change.operation.apply current operand))) := by
  unfold changeTexts
  rw [yielded]
  rfl

end Activation

theorem changeSlots_ok {activation : Activation} {world : World} {target : VariableRef}
    {range : Nat} {change : VariableRef → World → World × Option Error}
    (succeeds : (changeSlots activation world target range change).failure = none) :
    changeRange change target 0 (max range 1) world =
      ((changeSlots activation world target range change).world, none) :=
  Prod.ext rfl succeeds

/-! ## The operand of a range -/

namespace Activation

variable {activation : Activation} {world : World}

/-- Each slot of a range of numbers is changed by the operand as it was before, unless the
operand stands in front of the slot in the range. Then it is changed by the operand as it is
afterwards. -/
theorem changeNumbers_slot {change : NumberChange} {operand : Operand}
    (source : change.source = .operand operand)
    (succeeds : (activation.changeNumbers world change).failure = none) {distance : Nat}
    (inside : distance < max change.range 1) :
    ∃ read, change.operation.apply
        (world.store.cell activation.context .numbers (change.target.further distance)) read =
          .ok ((activation.changeNumbers world change).world.store.cell activation.context
            .numbers (change.target.further distance)) ∧
      ((∀ own < distance, ¬ operand.IsNumberBehind change.target own) →
        read = operand.number world.store activation.context) ∧
      ∀ own < distance, operand.IsNumberBehind change.target own →
        read = operand.number (activation.changeNumbers world change).world.store
          activation.context := by
  rw [changeNumbers_of_operand activation world source] at succeeds ⊢
  obtain ⟨between, reached, computed, settled⟩ :=
    changeRange_cell (changeSlots_ok succeeds) inside
  refine ⟨_, computed, fun foreign => ?_, fun own front is => ?_⟩
  · exact Operand.number_changeRange_foreign reached foreign
  · rw [Operand.number_of_behind is, Operand.number_of_behind is]
    exact settled own front

/-- A range of texts is changed by one text, from where computing this text left the world. -/
theorem changeTexts_alike {change : TextChange} {operand : String} {between : World}
    (yielded : activation.yieldText world change.source = .ok (operand, between))
    (succeeds : (activation.changeTexts world change).failure = none) :
    ChangedAlike .texts activation.context change.target change.range
      (fun current => .ok (change.operation.apply current operand)) between.store
      (activation.changeTexts world change).world.store := by
  rw [changeTexts_eq activation world yielded] at succeeds ⊢
  exact changedAlike_of_const (changeSlots_ok succeeds)

/-- A range of truth values is inverted, or set to one value. -/
theorem changeBooleans_alike {change : BooleanChange}
    (succeeds : (activation.changeBooleans world change).failure = none) :
    ChangedAlike .booleans activation.context change.target change.range
      (fun current => .ok (if change.toggle then !current
        else change.value.boolean world.store activation.context)) world.store
      (activation.changeBooleans world change).world.store := by
  rw [changeBooleans_eq activation world] at succeeds ⊢
  exact changedAlike_of_const (changeSlots_ok succeeds)

end Activation

/-- A range of numbers is changed by one operand exactly if this makes no difference to the
slots behind the operand, which are changed by what has become of it. A range of texts and a
range of truth values always are. -/
theorem changeNumbers_alike_iff (activation : Activation) (world : World)
    (change : NumberChange) (operand : Operand) (source : change.source = .operand operand)
    (succeeds : (activation.changeNumbers world change).failure = none) :
    let context := activation.context
    let before := world.store
    let after := (activation.changeNumbers world change).world.store
    let slot (distance : Nat) := before.cell context .numbers (change.target.further distance)
    (ChangedAlike .numbers context change.target change.range
        (change.operation.apply · (operand.number before context)) before after ↔
      ∀ own distance, operand.IsNumberBehind change.target own → own < distance →
        distance < max change.range 1 →
        change.operation.apply (slot distance) (operand.number before context) =
          change.operation.apply (slot distance) (operand.number after context)) ∧
    (∀ own distance, operand.IsNumberBehind change.target own → own < distance →
      distance < max change.range 1 →
      change.operation.apply (slot distance) (operand.number after context) =
        .ok (after.cell context .numbers (change.target.further distance))) ∧
    (∀ (world between : World) (change : TextChange) (text : String),
      activation.yieldText world change.source = .ok (text, between) →
      (activation.changeTexts world change).failure = none →
      ChangedAlike .texts context change.target change.range
        (fun current => .ok (change.operation.apply current text)) between.store
        (activation.changeTexts world change).world.store) ∧
    (∀ (world : World) (change : BooleanChange),
      (activation.changeBooleans world change).failure = none →
      ChangedAlike .booleans context change.target change.range
        (fun current => .ok (if change.toggle then !current
          else change.value.boolean world.store context)) world.store
        (activation.changeBooleans world change).world.store) := by
  intro context before after slot
  have behind (own distance : Nat) (is : operand.IsNumberBehind change.target own)
      (front : own < distance) (inside : distance < max change.range 1) :
      change.operation.apply (slot distance) (operand.number after context) =
        .ok (after.cell context .numbers (change.target.further distance)) := by
    obtain ⟨read, computed, _, settled⟩ := Activation.changeNumbers_slot source succeeds inside
    rwa [settled own front is] at computed
  refine ⟨⟨fun alike own distance is front inside => ?_, fun indifferent distance inside => ?_⟩,
    behind, fun _ _ _ _ => Activation.changeTexts_alike, fun _ _ => Activation.changeBooleans_alike⟩
  · exact (alike distance inside).trans (behind own distance is front inside).symm
  · by_cases among : ∃ own < distance, operand.IsNumberBehind change.target own
    · obtain ⟨own, front, is⟩ := among
      exact (indifferent own distance is front inside).trans (behind own distance is front inside)
    · obtain ⟨read, computed, unsettled, _⟩ :=
        Activation.changeNumbers_slot source succeeds inside
      rwa [unsettled (fun own front is => among ⟨own, front, is⟩)] at computed

/-- A change of three numbers that adds one of them to all of them. -/
def addToAll (own : Nat) : NumberChange where
  target := { scope := .global, index := 0 }
  range := 3
  operation := .add
  source := .operand (.slot { scope := .global, index := own })

def threeNumbers : World :=
  { World.empty with store := { global := { numbers := #[1.0, 2.0, 4.0] } } }

def adder : Activation :=
  { context := { id := "adder" }, script := {} }

/-- The last number is added to all of them as it was. -/
theorem addLastToAll_alike :
    (adder.changeNumbers threeNumbers (addToAll 2)).failure = none ∧
    ChangedAlike .numbers adder.context (addToAll 2).target 3 (NumberOperation.add.apply · 4.0)
      threeNumbers.store (adder.changeNumbers threeNumbers (addToAll 2)).world.store := by
  have succeeds : (adder.changeNumbers threeNumbers (addToAll 2)).failure = none := by decide
  refine ⟨succeeds, (changeNumbers_alike_iff adder threeNumbers (addToAll 2) _ rfl succeeds).1.2
    (fun own distance is front inside => ?_)⟩
  have last : own = 2 := by
    simpa [Operand.IsNumberBehind, VariableRef.further, addToAll, eq_comm] using is
  have within : distance < 3 := inside
  omega

/-- The first number is added to the others as it has become. -/
theorem not_always_changedAlike :
    ¬ ∀ (activation : Activation) (world : World) (change : NumberChange) (operand : Operand),
      change.source = .operand operand →
      (activation.changeNumbers world change).failure = none →
      ChangedAlike .numbers activation.context change.target change.range
        (change.operation.apply · (operand.number world.store activation.context)) world.store
        (activation.changeNumbers world change).world.store := by
  intro always
  have alike : NumberOperation.add.apply (2.0 : Float) 1.0 = .ok 4.0 :=
    always adder threeNumbers (addToAll 0) _ rfl (by decide) 1 (by decide)
  have sum : (2.0 + 1.0 : Float) = 4.0 := Except.ok.inj alike
  exact absurd sum (by decide)

end NovelEngine
