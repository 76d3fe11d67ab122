import NovelEngine.Proofs.Calling
import NovelEngine.Proofs.Cells

/-!
Contract: the parameters of a called event.

Owns:
- the parameters that belong to each row of a bank, in the order of the call;
- the cells of a bank after it was filled with parameters;
- the locals of an event where it is run or spawned.

Does not own: what becomes of the locals once the event runs.

One pass over the parameters fills three rows side by side. What a parameter of one row does
to the others is nothing, so the state of each row depends only on its own parameters: those
still to come lie behind the cells already filled.
-/

namespace NovelEngine

/-! ## The parameters of each row -/

namespace Value

def number? : Value → Option Float
  | .integer value => some (Decimal.ofInt64 value)
  | .float value => some value
  | _ => none

def text? : Value → Option String
  | .text value => some value
  | _ => none

def boolean? : Value → Option Bool
  | .boolean value => some value
  | _ => none

end Value

/-- The parameter at a position among those of one row, or the content of an unwritten cell. -/
def parameterAt {α : Type} (pick : Value → Option α) (default : α) (parameters : List Value)
    (index : Nat) : α :=
  (parameters.filterMap pick).getD index default

/-- A bank whose rows hold the parameters, each row those of its own from its first cell on,
and nothing else. -/
structure Bank.Seeded (bank : Bank) (parameters : List Value) : Prop where
  numbers : ∀ index, bank.number index = parameterAt Value.number? 0.0 parameters index
  texts : ∀ index, bank.text index = parameterAt Value.text? "" parameters index
  booleans : ∀ index, bank.boolean index = parameterAt Value.boolean? false parameters index
  lists : ∀ index, bank.list index = []

/-! ## Filling a bank -/

namespace Bank

/-- The cells of a row once `values` stand in it from the cell `start` on. -/
def Row.laid {α : Type} (row : Row α) (bank : Bank) (start : Nat) (values : List α)
    (index : Nat) : α :=
  if index < start then row.read bank index
  else values.getD (index - start) (row.read bank index)

theorem Row.laid_nil {α : Type} (row : Row α) (bank : Bank) (start index : Nat) :
    row.laid bank start [] index = row.read bank index := by
  unfold laid
  rw [List.getD_nil, ite_self]

/-- The first value is written before the others are laid behind it. -/
theorem Row.laid_write {α : Type} (row : Row α) (bank : Bank) (start : Nat) (value : α)
    (values : List α) (index : Nat) :
    row.laid (row.write bank start value) (start + 1) values index =
      row.laid bank start (value :: values) index := by
  unfold laid
  by_cases before : index < start
  · rw [if_pos before, if_pos (Nat.lt_succ_of_lt before),
      row.read_write_other _ _ (Nat.ne_of_lt before)]
  · by_cases here : index = start
    · subst here
      rw [if_pos (Nat.lt_succ_self _), if_neg (Nat.lt_irrefl _), Nat.sub_self,
        row.read_write_same, List.getD_cons_zero]
    · have behind : index - start = index - (start + 1) + 1 := by omega
      rw [if_neg (by omega), if_neg before, behind, row.read_write_other _ _ here,
        List.getD_cons_succ]

/-- What a bank holds once the parameters were laid into its rows behind the first cells. -/
structure Filled (before : Bank) (numbers texts booleans : Nat) (parameters : List Value)
    (after : Bank) : Prop where
  numbers : ∀ index, after.number index =
    Row.numbers.laid before numbers (parameters.filterMap Value.number?) index
  texts : ∀ index, after.text index =
    Row.texts.laid before texts (parameters.filterMap Value.text?) index
  booleans : ∀ index, after.boolean index =
    Row.booleans.laid before booleans (parameters.filterMap Value.boolean?) index
  lists : after.lists = before.lists

/-- Each parameter is the first of those that are still to be laid into its row. -/
theorem fill_filled (parameters : List Value) (bank : Bank) (numbers texts booleans : Nat) :
    bank.Filled numbers texts booleans parameters
      (withParameters.fill bank numbers texts booleans parameters) := by
  induction parameters generalizing bank numbers texts booleans with
  | nil =>
      exact {
        numbers := fun index => (Row.numbers.laid_nil bank numbers index).symm
        texts := fun index => (Row.texts.laid_nil bank texts index).symm
        booleans := fun index => (Row.booleans.laid_nil bank booleans index).symm
        lists := rfl }
  | cons parameter rest inductionHypothesis =>
      -- Whole numbers and doubles go to one row.
      have number (value : Float) (picked : parameter.number? = some value)
          (noText : parameter.text? = none) (noBoolean : parameter.boolean? = none) :
          bank.Filled numbers texts booleans (parameter :: rest)
            (withParameters.fill (bank.setNumber numbers value) (numbers + 1) texts booleans
              rest) := by
        have filled := inductionHypothesis (bank.setNumber numbers value) (numbers + 1) texts
          booleans
        refine ⟨fun index => ?_, fun index => ?_, fun index => ?_, filled.lists⟩
        · rw [List.filterMap_cons_some picked, filled.numbers]
          exact Row.numbers.laid_write bank numbers value _ index
        · rw [List.filterMap_cons_none noText]
          exact filled.texts index
        · rw [List.filterMap_cons_none noBoolean]
          exact filled.booleans index
      cases parameter with
      | integer value => exact number _ rfl rfl rfl
      | float value => exact number _ rfl rfl rfl
      | text value =>
          have filled := inductionHypothesis (bank.setText texts value) numbers (texts + 1)
            booleans
          exact {
            numbers := filled.numbers
            texts := fun index => (filled.texts index).trans
              (Row.texts.laid_write bank texts value _ index)
            booleans := filled.booleans
            lists := filled.lists }
      | boolean value =>
          have filled := inductionHypothesis (bank.setBoolean booleans value) numbers texts
            (booleans + 1)
          exact {
            numbers := filled.numbers
            texts := filled.texts
            booleans := fun index => (filled.booleans index).trans
              (Row.booleans.laid_write bank booleans value _ index)
            lists := filled.lists }

/-- An empty bank that was filled holds the parameters and nothing else. -/
theorem withParameters_seeded (parameters : List Value) :
    (({} : Bank).withParameters parameters).Seeded parameters := by
  have filled := fill_filled parameters {} 0 0 0
  refine ⟨filled.numbers, filled.texts, filled.booleans, fun index => ?_⟩
  unfold list withParameters
  rw [filled.lists]
  rfl

end Bank

/-! ## Calling an event -/

/-- Whatever its locals held before, an event starts with its parameters. -/
theorem World.enterEvent_seeded (world : World) (context : Context) (id : String)
    (parameters : List Value) :
    ((world.enterEvent context id parameters).locals context).Seeded parameters := by
  have locals : (world.enterEvent context id parameters).locals context =
      ({} : Bank).withParameters parameters := by
    show (Store.setBank _ context .local _).bank context .local = _
    rw [Store.bank_setBank_same, Store.bank_clearLocals_same]
  rw [locals]
  exact Bank.withParameters_seeded parameters

/-- How a called script starts: the caller waits while it is run in the world of the call, or
it is spawned there to run beside the others. -/
inductive Outcome.Starts (outcome : Outcome) (child : Activation) (entered : World) :
    Bool → Prop where
  | run (runs : ∀ runCallee callees, outcome.resolve runCallee callees =
        (runCallee child entered).map (fun update =>
          let run := receive outcome.activation update
          { run with notices := outcome.notices ++ run.notices })) :
      Starts outcome child entered true
  | spawn (callee : outcome.callee = none) (spawned : outcome.world = entered.spawn child) :
      Starts outcome child entered false

theorem Outcome.starts_of_callee {outcome : Outcome} {child : Activation}
    (called : outcome.callee = some child) : outcome.Starts child outcome.world true := by
  refine .run fun runCallee callees => ?_
  simp only [resolve, called]
  cases runCallee child outcome.world with
  | none => rfl
  | some update => rfl

theorem Activation.callEvent_starts (activation : Activation) {world : World} {id : String}
    {event : CommonEvent} (parameters : List Value) {wait : Bool}
    (found : world.board.events.find? id = some event)
    (allowed : wait = true → activation.mayCall = true) :
    ∃ child : Activation, child.context = activation.contextUnder event.id ∧
      child.script = event.script ∧
      (activation.callEvent world id parameters wait).Starts child
        (world.enterEvent (activation.contextUnder event.id) id parameters) wait := by
  unfold callEvent
  rw [found]
  cases wait with
  | false =>
      exact ⟨_, rfl, rfl, .spawn rfl rfl⟩
  | true =>
      rw [allowed rfl]
      exact ⟨_, rfl, rfl, Outcome.starts_of_callee rfl⟩

/-- A call of an event passes its parameters: where the event is run or spawned, the rows of
its locals hold the parameters in the order of the call, whatever they held before, and all
their other cells are as if never written. Global and persistent variables stay as they are. -/
theorem Activation.callEvent_passes_parameters (activation : Activation) {world : World}
    {id : String} {event : CommonEvent} (parameters : List Value) {wait : Bool}
    (found : world.board.events.find? id = some event)
    (allowed : wait = true → activation.mayCall = true) :
    ∃ child entered, (activation.callEvent world id parameters wait).Starts child entered wait ∧
      child.context = activation.contextUnder event.id ∧ child.script = event.script ∧
      (entered.locals child.context).Seeded parameters ∧
      entered.store.global = world.store.global ∧
      entered.store.persistent = world.store.persistent := by
  obtain ⟨child, context, script, starts⟩ := activation.callEvent_starts parameters found allowed
  refine ⟨child, _, starts, context, script, ?_, rfl, rfl⟩
  rw [context]
  exact world.enterEvent_seeded _ id parameters

private def welcome : CommonEvent :=
  { id := "greet", name := "Welcome", parallel := false
    script := { commands := #[], instructions := #[], jumpTargets := #[] } }

private def hall : Activation :=
  { context := { id := "hall" }, script := welcome.script }

/-- A world in which the welcome has left locals behind from an earlier call. -/
private def greetedOnce : World :=
  { World.empty with
    board := { events := .ofList [("greet", welcome)] }
    store := { locals := .ofList [(hall.contextUnder "greet",
      { numbers := #[9.0, 9.0, 9.0], texts := #["Ada", "Eve"], lists := #[[.integer 1]] })] } }

/-- Numbers of both sorts share a row, and nothing is left of the earlier call. -/
theorem welcome_passes_parameters :
    greetedOnce.board.events.find? "greet" = some welcome ∧ hall.mayCall = true ∧
    ∃ child entered,
      (hall.callEvent greetedOnce "greet"
        [.integer 4, .text "Bob", .boolean true, .float 1.5] true).Starts child entered true ∧
      (entered.locals child.context).number 0 = Decimal.ofInt64 4 ∧
      (entered.locals child.context).number 1 = 1.5 ∧
      (entered.locals child.context).number 2 = 0.0 ∧
      (entered.locals child.context).text 0 = "Bob" ∧
      (entered.locals child.context).text 1 = "" ∧
      (entered.locals child.context).boolean 0 = true ∧
      (entered.locals child.context).list 0 = [] := by
  have found : greetedOnce.board.events.find? "greet" = some welcome := rfl
  have allowed : hall.mayCall = true := by decide
  obtain ⟨child, entered, starts, _, _, seeded, _⟩ :=
    hall.callEvent_passes_parameters [.integer 4, .text "Bob", .boolean true, .float 1.5] found
      (fun _ => allowed)
  exact ⟨found, allowed, child, entered, starts, seeded.numbers 0, seeded.numbers 1,
    seeded.numbers 2, seeded.texts 0, seeded.texts 1, seeded.booleans 0, seeded.lists 0⟩

end NovelEngine
