import NovelEngine.Script

/-!
Contract: commands keep their kind when a script is prepared.

Owns:
- the opcode of an instruction, which decoding keeps;
- the instruction of each command of a prepared script;
- the slot limit, which every reference that is read keeps to.

Does not own: the other parameters of a command.
-/

namespace NovelEngine

def ObjectAction.verb : ObjectAction → ObjectVerb
  | .appear .. => .appear
  | .erase => .erase
  | .move .. => .move
  | .zoom .. => .zoom
  | .tint .. => .tint
  | .blend .. => .blend
  | .shake .. => .shake
  | .mask .. => .mask
  | .effect .. => .effect

namespace Instruction

/-- The opcode that an instruction was decoded from; `none` if its parameters could not be
read. -/
def opcode? : Instruction → Option Opcode
  | .loop => some .loop
  | .breakLoop => some .breakLoop
  | .condition .. => some .condition
  | .conditionElse => some .conditionElse
  | .conditionElseIf .. => some .conditionElseIf
  | .label => some .label
  | .jumpToLabel .. => some .jumpToLabel
  | .wait .. => some .wait
  | .callEvent .. => some .callEvent
  | .callScene .. => some .callScene
  | .changeScene .. => some .changeScene
  | .exitEvent => some .exitEvent
  | .changeNumbers .. => some .changeNumbers
  | .changeTexts .. => some .changeTexts
  | .changeBooleans .. => some .changeBooleans
  | .changeLists .. => some .changeLists
  | .showMessage .. => some .showMessage
  | .showChoices .. => some .showChoices
  | .inputNumber .. => some .inputNumber
  | .inputText .. => some .inputText
  | .messageSettings .. => some .messageSettings
  | .eraseMessage => some .eraseMessage
  | .playMusic .. => some .playMusic
  | .stopMusic .. => some .stopMusic
  | .playSound .. => some .playSound
  | .snippet .. => some .snippet
  | .object kind _ _ action => some (.object kind action.verb)
  | .shakeScreen .. => some .shakeScreen
  | .malformed => none

theorem action?_verb {params : Document} {verb : ObjectVerb} {action : ObjectAction}
    (decoded : action? params verb = some action) : action.verb = verb := by
  cases verb <;> simp only [action?] at decoded <;> (try split at decoded) <;>
    simp [Option.bind_eq_some_iff] at decoded <;> grind [ObjectAction.verb]

theorem decode?_opcode {opcode : Opcode} {params : Document} {instruction : Instruction}
    (decoded : decode? opcode params = some instruction) :
    instruction.opcode? = some opcode := by
  cases opcode with
  | object kind verb =>
      simp only [decode?, object?, Option.bind_eq_bind, Option.bind_eq_some_iff] at decoded
      obtain ⟨⟨slot, timing⟩, _, action, read, equal⟩ := decoded
      cases equal
      simp [opcode?, action?_verb read]
  | _ =>
      simp only [decode?, wait?, callEvent?, changeNumbers?, changeTexts?, changeBooleans?,
        changeLists?, showMessage?, showChoices?, messageSettings?, playMusic?, stopMusic?,
        playSound?, snippet?, shakeScreen?] at decoded
      all_goals try split at decoded
      all_goals simp [Option.bind_eq_some_iff] at decoded
      all_goals grind [opcode?]

end Instruction

/-! ## Prepared scripts -/

theorem Script.instruction?_eq_of_compile {commands : List Command} {script : Script}
    (compiled : Script.compile commands = .ok script) (index : Nat) :
    script.instruction? index = (script.command? index).bind Script.instructionOf := by
  unfold Script.compile at compiled
  split at compiled
  · cases compiled
  · cases compiled
    simp only [Script.instruction?, Script.command?, List.getElem?_toArray, List.getElem?_map]
    cases commands[index]? <;> rfl

theorem Script.instruction?_of_compile {commands : List Command} {script : Script}
    (compiled : Script.compile commands = .ok script) {index : Nat} {command : Command}
    (found : script.command? index = some command) :
    script.instruction? index = Script.instructionOf command := by
  rw [Script.instruction?_eq_of_compile compiled, found, Option.bind_some]

/-- An instruction of a prepared script has the opcode that the id of its command names. -/
theorem Script.ofId?_of_opcode {commands : List Command} {script : Script}
    (compiled : Script.compile commands = .ok script) {index : Nat} {command : Command}
    (found : script.command? index = some command) {instruction : Instruction}
    (decoded : script.instruction? index = some instruction) {opcode : Opcode}
    (known : instruction.opcode? = some opcode) : Opcode.ofId? command.id = some opcode := by
  rw [Script.instruction?_of_compile compiled found] at decoded
  obtain ⟨named, entry, equal⟩ := Option.map_eq_some_iff.mp decoded
  subst equal
  unfold Instruction.ofParams at known
  dsimp only at known
  cases read : Instruction.decode? named
      (if command.params.isNull then .record [] else command.params) with
  | none =>
      rw [read] at known
      cases known
  | some instruction =>
      rw [read, Option.getD_some, Instruction.decode?_opcode read] at known
      rw [entry, known]

/-! ## References -/

theorem Document.natural?_le {limit number : Nat} {document : Document}
    (read : document.natural? limit = some number) : number ≤ limit := by
  unfold Document.natural? at read
  split at read
  · split at read
    · cases read
      omega
    · cases read
  · cases read

/-- A reference that was read from a document keeps to the slot limit. -/
theorem VariableRef.decode?_within {document : Document} {reference : VariableRef}
    (read : VariableRef.decode? document = some reference) : reference.index ≤ maxSlot := by
  unfold VariableRef.decode? VariableRef.decodeWith? at read
  split at read
  · rename_i scope kind index _
    simp only [Option.bind_eq_bind, Option.pure_def, Option.bind_eq_some_iff,
      Option.some.injEq] at read
    obtain ⟨_, _, _, _, slot, given, rfl⟩ := read
    cases index with
    | given value => exact Document.natural?_le given
    | _ => cases given
  · cases read

/-! ## Prompts -/

/-- Whether the command asks the player for an answer. -/
def Opcode.asks : Opcode → Bool
  | .showChoices => true
  | .inputNumber => true
  | .inputText => true
  | _ => false

/-- The commands that a snapshot goes back to are those that ask for an answer. -/
theorem Command.isInputPrompt_iff (command : Command) :
    command.isInputPrompt = true ↔
      ∃ opcode, Opcode.ofId? command.id = some opcode ∧ opcode.asks = true := by
  unfold Command.isInputPrompt
  constructor
  · intro listed
    simp only [List.contains_eq_mem, List.mem_cons, List.not_mem_nil, or_false,
      decide_eq_true_eq] at listed
    rcases listed with id | id | id | id
    · exact ⟨.inputNumber, by rw [id]; rfl, rfl⟩
    · exact ⟨.inputText, by rw [id]; rfl, rfl⟩
    · exact ⟨.showChoices, by rw [id]; rfl, rfl⟩
    · exact ⟨.showChoices, by rw [id]; rfl, rfl⟩
  · rintro ⟨opcode, entry, asks⟩
    have listed : ∀ entry ∈ Opcode.table, entry.2.asks = true →
        ["InputNumber", "InputText", "Choice", "ShowChoices"].contains entry.1 = true := by
      decide
    obtain ⟨before, after, split, _⟩ := List.lookup_eq_some_iff.mp entry
    exact listed (command.id, opcode) (by rw [split]; simp) asks

end NovelEngine
