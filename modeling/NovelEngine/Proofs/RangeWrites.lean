import NovelEngine.Proofs.SlotRanges

/-!
Contract: the slots that a change of a range writes.

Owns:
- a row of writes, one for each slot, and the slots of the store outside of it;
- the part of a range that lies within the slot limit, and the failure where it ends.

Does not own: the values that are computed for the slots.

A range comes from script data and may be far longer than the store allows. The first slot
behind the limit ends it, so the writes are as many as there are slots in front of that one.
-/

namespace NovelEngine

/-! ## A row of writes -/

/-- Whether a reference, as `other` uses it, addresses one of the `count` slots of `kind` that
`context` finds from `start` on. -/
structure VariableRef.InRange (reference : VariableRef) (other context : Context) (kind : Kind)
    (start : VariableRef) (count : Nat) : Prop where
  kind : reference.kind = kind
  scope : reference.scope = start.scope
  shared : start.scope.isShared = true ∨ other = context
  above : start.index ≤ reference.index
  below : reference.index < start.index + count

/-- A store in which `count` cells of a row were rewritten from `start` on, each once. -/
inductive Store.Rewritten {α : Type} (context : Context) (row : Bank.Row α)
    (compute : Store → α → Except Error α) : VariableRef → Nat → Store → Store → Prop where
  | done {start : VariableRef} {store : Store} : Rewritten context row compute start 0 store store
  | next {start : VariableRef} {count : Nat} {store after : Store} {value : α}
      (computed : compute store (store.cell context row start) = .ok value)
      (rest : Rewritten context row compute (start.further 1) count
        (store.setCell context row start value) after) :
      Rewritten context row compute start (count + 1) store after

section Rows

variable {α : Type} {context : Context} {row : Bank.Row α}
  {compute : Store → α → Except Error α}

/-- Rewriting a range leaves every slot outside of it as it was. -/
theorem Store.Rewritten.slot_outside {kind : Kind} {wrap : α → Cell}
    (serves : row.Serves kind wrap) {start : VariableRef} {count : Nat} {before after : Store}
    (rewritten : Rewritten context row compute start count before after) {other : Context}
    {reference : VariableRef}
    (outside : ¬ reference.InRange other context kind start count) :
    after.slot other reference = before.slot other reference := by
  induction rewritten with
  | done => rfl
  | @next start count store after value computed rest inductionHypothesis =>
      have behind : ¬ reference.InRange other context kind (start.further 1) count := by
        intro inside
        have above : start.index + 1 ≤ reference.index := inside.above
        have below : reference.index < start.index + 1 + count := inside.below
        exact outside ⟨inside.kind, inside.scope, inside.shared, by omega, by omega⟩
      rw [inductionHypothesis behind]
      apply store.slot_setCell_other context serves
      rintro ⟨kind, scope, shared, index⟩
      exact outside ⟨kind, scope, shared, by omega, by omega⟩

end Rows

/-! ## Ranges within the slot limit -/

/-- The first slot behind a range, which ends at the slot limit at the latest. -/
def VariableRef.rangeEnd (target : VariableRef) (range : Nat) : Nat :=
  min (target.index + max range 1) (maxSlot + 1)

/-- What is left of a world of which a range was rewritten: its slots up to the limit are
computed anew, one after another, and nothing else is changed. These are never more than the
slots from the target to the limit. The change fails where it comes to the limit. -/
structure Outcome.RewritesRange {α : Type} (outcome : Outcome) (activation : Activation)
    (world : World) (row : Bank.Row α) (kind : Kind) (compute : Store → α → Except Error α)
    (target : VariableRef) (range : Nat) : Prop where
  rewritten : Store.Rewritten activation.context row compute target
    (target.rangeEnd range - target.index) world.store outcome.world.store
  outside : ∀ (other : Context) (reference : VariableRef),
    ¬ reference.InRange other activation.context kind target
      (target.rangeEnd range - target.index) →
    outcome.world.store.slot other reference = world.store.slot other reference
  failure : outcome.failure =
    if maxSlot + 1 < target.index + max range 1 then some (.slotOutOfRange (maxSlot + 1))
    else none
  activation : outcome.activation = activation
  world : outcome.world = { world with store := outcome.world.store }

section Ranges

variable {α : Type} {context : Context} {row : Bank.Row α}
  {compute : Store → α → Except Error α} {target : VariableRef}

theorem VariableRef.shift_of_within {reference : VariableRef} {distance : Nat}
    (within : reference.index + distance ≤ maxSlot) :
    reference.shift distance = .ok (reference.further distance) :=
  if_pos within

theorem VariableRef.shift_at_limit {reference : VariableRef} {distance : Nat}
    (limit : reference.index + distance = maxSlot + 1) :
    reference.shift distance = .error (.slotOutOfRange (maxSlot + 1)) := by
  unfold shift
  rw [limit, if_neg (Nat.not_succ_le_self maxSlot)]
  rfl

/-- A range whose cells can all be computed is rewritten up to the slot limit. -/
theorem changeRange_rewritten {offset count : Nat} {world after : World}
    {failure : Option Error} (reach : target.index + offset ≤ maxSlot + 1)
    (changed : changeRange (rewriteCell context row compute) target offset count world =
      (after, failure))
    (computes : ∀ store current error, compute store current = .error error →
      failure ≠ some error) :
    Store.Rewritten context row compute (target.further offset)
        (min count (maxSlot + 1 - (target.index + offset))) world.store after.store ∧
      failure = (if maxSlot + 1 < target.index + offset + count
        then some (.slotOutOfRange (maxSlot + 1)) else none) ∧
      after = { world with store := after.store } := by
  induction count generalizing offset world with
  | zero =>
      cases changed
      rw [Nat.zero_min, if_neg (by omega)]
      exact ⟨.done, rfl, rfl⟩
  | succ count inductionHypothesis =>
      unfold changeRange at changed
      by_cases within : target.index + offset ≤ maxSlot
      · rw [VariableRef.shift_of_within within] at changed
        simp only [rewriteCell] at changed
        cases computed : compute world.store
            (world.store.cell context row (target.further offset)) with
        | error error =>
            rw [computed] at changed
            cases changed
            exact absurd rfl (computes _ _ _ computed)
        | ok value =>
            rw [computed] at changed
            obtain ⟨rewritten, failed, same⟩ :=
              inductionHypothesis (by omega) changed
            have slots : min (count + 1) (maxSlot + 1 - (target.index + offset)) =
                min count (maxSlot + 1 - (target.index + (offset + 1))) + 1 := by omega
            have onwards : target.index + (offset + 1) + count =
                target.index + offset + (count + 1) := by omega
            rw [onwards] at failed
            rw [slots]
            exact ⟨.next computed rewritten, failed, same⟩
      · -- The range has not left the limit before, so this is the first slot behind it.
        have limit : target.index + offset = maxSlot + 1 := by omega
        rw [VariableRef.shift_at_limit limit] at changed
        cases changed
        rw [limit, Nat.sub_self, Nat.min_zero, if_pos (by omega)]
        exact ⟨.done, rfl, rfl⟩

theorem changeSlots_rewritesRange {kind : Kind} {wrap : α → Cell} (serves : row.Serves kind wrap)
    {activation : Activation} {world : World} {range : Nat} {outcome : Outcome}
    (reach : target.index ≤ maxSlot)
    (changes : outcome =
      changeSlots activation world target range (rewriteCell activation.context row compute))
    (computes : ∀ store current error, compute store current = .error error →
      outcome.failure ≠ some error) :
    outcome.RewritesRange activation world row kind compute target range := by
  subst changes
  obtain ⟨rewritten, failed, same⟩ :=
    changeRange_rewritten (Nat.le_succ_of_le reach) rfl computes
  have slots : min (max range 1) (maxSlot + 1 - (target.index + 0)) =
      target.rangeEnd range - target.index := by
    unfold VariableRef.rangeEnd
    omega
  rw [slots] at rewritten
  exact {
    rewritten
    outside := fun _ _ outside => rewritten.slot_outside serves outside
    failure := failed
    activation := rfl
    world := same }

end Ranges

/-! ## The commands -/

theorem NumberOperation.apply_error {operation : NumberOperation} {current operand : Float}
    {error : Error} (fails : operation.apply current operand = .error error) :
    error = .divisionByZero := by
  cases operation with
  | divide | modulo =>
      simp only [apply] at fails
      split at fails
      · exact (Except.error.inj fails).symm
      · cases fails
  | _ => cases fails

/-- A text that no snippet yields is read without a change to the world. -/
theorem Activation.yieldText_of_plain (activation : Activation) (world : World)
    {source : Option TextSource} (plain : ∀ snippet, source ≠ some (.snippet snippet)) :
    ∃ text, activation.yieldText world source = .ok (text, world) := by
  match source with
  | none => exact ⟨_, rfl⟩
  | some (.operand operand) => exact ⟨_, rfl⟩
  | some (.snippet snippet) => exact absurd rfl (plain snippet)

/-- A change of a range writes exactly its slots. From a target within the slot limit on, every
slot of the range up to the limit is computed anew and written once, in the row of the command
and in the bank of the target, and every other slot of every bank holds what it held. The
change fails exactly if the range goes past the limit, and names the first slot behind it. This
holds of numbers if their operand is not random and nothing is divided by zero, of texts if no
snippet yields them, and of truth values. -/
theorem Activation.changes_exactly_range (activation : Activation) (world : World) :
    (∀ (change : NumberChange) (operand : Operand), change.source = .operand operand →
      change.target.index ≤ maxSlot →
      (activation.changeNumbers world change).failure ≠ some .divisionByZero →
      (activation.changeNumbers world change).RewritesRange activation world .numbers .number
        (fun store current =>
          change.operation.apply current (operand.number store activation.context))
        change.target change.range) ∧
    (∀ change : TextChange, (∀ snippet, change.source ≠ some (.snippet snippet)) →
      change.target.index ≤ maxSlot →
      ∃ text, activation.yieldText world change.source = .ok (text, world) ∧
        (activation.changeTexts world change).RewritesRange activation world .texts .text
          (fun _ current => .ok (change.operation.apply current text))
          change.target change.range) ∧
    (∀ change : BooleanChange, change.target.index ≤ maxSlot →
      (activation.changeBooleans world change).RewritesRange activation world .booleans .boolean
        (fun _ current => .ok (if change.toggle then !current
          else change.value.boolean world.store activation.context))
        change.target change.range) := by
  refine ⟨?_, ?_, ?_⟩
  · intro change operand source reach divides
    apply changeSlots_rewritesRange Bank.Row.numbers_serves reach
      (activation.changeNumbers_of_operand world source)
    intro store current error fails
    rw [NumberOperation.apply_error fails]
    exact divides
  · intro change plain reach
    obtain ⟨text, yielded⟩ := activation.yieldText_of_plain world plain
    exact ⟨text, yielded, changeSlots_rewritesRange Bank.Row.texts_serves reach
      (activation.changeTexts_eq world yielded) nofun⟩
  · intro change reach
    exact changeSlots_rewritesRange Bank.Row.booleans_serves reach
      (activation.changeBooleans_eq world change) nofun

/-- Sets every number from the last but one on, and as many behind it as a script can ask for. -/
private def fillUp : NumberChange where
  target := { scope := .global, index := 9998 }
  range := UInt64.size - 1
  operation := .set
  source := .operand (.literal (.integer 7))

/-- Clears the last text. -/
private def clearLast : TextChange where
  target := { scope := .global, kind := .text, index := 9999 }
  range := 0
  operation := .set
  source := none

/-- Inverts three truth values of a script. -/
private def flipThree : BooleanChange where
  target := { kind := .boolean, index := 4 }
  range := 3
  toggle := true
  value := .literal .zero

/-- The two last numbers are set and the third last is spared. The last text and the three
truth values are all within the limit. -/
theorem lastNumbers_changed_exactly :
    (adder.changeNumbers threeNumbers fillUp).failure = some (.slotOutOfRange 10000) ∧
    Store.Rewritten adder.context .numbers (fun _ _ => .ok (Decimal.ofInt64 7))
      { scope := .global, index := 9998 } 2 threeNumbers.store
      (adder.changeNumbers threeNumbers fillUp).world.store ∧
    (adder.changeNumbers threeNumbers fillUp).world.store.slot adder.context
      { scope := .global, index := 9997 } = .number 0.0 ∧
    (adder.changeTexts threeNumbers clearLast).failure = none ∧
    (adder.changeBooleans threeNumbers flipThree).failure = none := by
  obtain ⟨numbers, texts, booleans⟩ := adder.changes_exactly_range threeNumbers
  have filled := numbers fillUp _ rfl (by decide) (by decide)
  obtain ⟨_, _, cleared⟩ := texts clearLast nofun (by decide)
  have flipped := booleans flipThree (by decide)
  refine ⟨filled.failure, filled.rewritten, ?_, cleared.failure, flipped.failure⟩
  exact filled.outside adder.context { scope := .global, index := 9997 }
    (fun inside => absurd inside.above (by decide))

end NovelEngine
