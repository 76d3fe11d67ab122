import NovelEngine.Proofs.ActiveEvents
import NovelEngine.Proofs.Decoding
import NovelEngine.Proofs.Upkeep

/-!
Contract: the references that are written without a look at the slot limit.

Owns:
- the targets of list changes, choices and inputs, which keep to the limit once they are read
  from the parameters of a command;
- scripts, runs and worlds in which all such references do.

Does not own: ranges of slots, which look at the limit slot by slot, and how many slots a bank
comes to have.
-/

namespace NovelEngine

/-! ## References in scripts -/

/-- The variable that an instruction, or the answer that it waits for, writes to without a look
at the slot limit. -/
def Instruction.slot? : Instruction → Option VariableRef
  | .changeLists change => some change.target
  | .showChoices _ target => target
  | .inputNumber target _ => some target
  | .inputText target _ => some target
  | _ => none

theorem VariableRef.required?_within {field : Document.Field} {reference : VariableRef}
    (read : field.required? VariableRef.decode? = some reference) :
    reference.index ≤ maxSlot := by
  cases field with
  | given value => exact VariableRef.decode?_within read
  | _ => cases read

theorem VariableRef.lenient?_within {field : Document.Field} {reference : VariableRef}
    (read : field.lenient? VariableRef.decode? = some (some reference)) :
    reference.index ≤ maxSlot := by
  unfold Document.Field.lenient? at read
  split at read
  · cases read
  · obtain ⟨_, given, equal⟩ := Option.map_eq_some_iff.mp read
    cases equal
    exact VariableRef.decode?_within given
  · cases read

theorem Instruction.prompt?_within {lengthName : String} {params : Document}
    {target : VariableRef} {length : Nat}
    (read : Instruction.prompt? lengthName params = some (target, length)) :
    target.index ≤ maxSlot := by
  unfold Instruction.prompt? at read
  split at read
  · simp only [Option.bind_eq_bind, Option.pure_def, Option.bind_eq_some_iff,
      Option.some.injEq] at read
    obtain ⟨_, given, _, _, equal⟩ := read
    cases equal
    exact VariableRef.required?_within given
  · cases read

/-- What is read from the parameters of a command keeps to the slot limit. -/
theorem Instruction.decode?_slot_within {opcode : Opcode} {params : Document}
    {instruction : Instruction} (decoded : decode? opcode params = some instruction)
    {reference : VariableRef} (writes : instruction.slot? = some reference) :
    reference.index ≤ maxSlot := by
  have known := decode?_opcode decoded
  cases instruction with
  | changeLists change =>
      cases known
      simp only [decode?, changeLists?] at decoded
      split at decoded
      · simp only [Option.bind_eq_bind, Option.pure_def, Option.bind_eq_some_iff,
          Option.some.injEq] at decoded
        obtain ⟨_, read, _, _, _, _, _, _, equal⟩ := decoded
        cases equal
        cases writes
        exact VariableRef.required?_within read
      · cases decoded
  | showChoices choices target =>
      cases known
      simp only [decode?, showChoices?] at decoded
      split at decoded
      · simp only [Option.bind_eq_bind, Option.pure_def, Option.bind_eq_some_iff,
          Option.some.injEq] at decoded
        obtain ⟨_, _, _, read, equal⟩ := decoded
        cases equal
        cases writes
        exact VariableRef.lenient?_within read
      · cases decoded
  | inputNumber target digits | inputText target letters =>
      cases known
      obtain ⟨⟨_, _⟩, read, equal⟩ := Option.map_eq_some_iff.mp decoded
      cases equal
      cases writes
      exact Instruction.prompt?_within read
  | _ => cases writes

theorem Instruction.ofParams_slot_within {opcode : Opcode} {params : Document}
    {reference : VariableRef} (writes : (ofParams opcode params).slot? = some reference) :
    reference.index ≤ maxSlot := by
  unfold ofParams at writes
  dsimp only at writes
  cases decoded : decode? opcode (if params.isNull then .record [] else params) with
  | none =>
      rw [decoded] at writes
      cases writes
  | some instruction =>
      rw [decoded] at writes
      exact decode?_slot_within decoded writes

/-- Every instruction of the script writes within the slot limit. -/
def Script.Bounded (script : Script) : Prop :=
  ∀ index instruction reference, script.instruction? index = some instruction →
    instruction.slot? = some reference → reference.index ≤ maxSlot

theorem Script.bounded_of_compile {commands : List Command} {script : Script}
    (compiled : Script.compile commands = .ok script) : script.Bounded := by
  intro index instruction reference decoded writes
  cases found : script.command? index with
  | some command =>
      rw [Script.instruction?_of_compile compiled found] at decoded
      obtain ⟨opcode, _, rfl⟩ := Option.map_eq_some_iff.mp decoded
      exact Instruction.ofParams_slot_within writes
  | none =>
      unfold Script.compile at compiled
      split at compiled
      · cases compiled
      · cases compiled
        have beyond : commands.length ≤ index := by simpa [Script.command?] using found
        simp [Script.instruction?, beyond] at decoded

/-! ## Runs -/

/-- The answer goes to a slot within the limit, an input to a single value. -/
def WaitReason.Bounded : WaitReason → Prop
  | .choice _ target => ∀ reference, target = some reference → reference.index ≤ maxSlot
  | .input target => target.index ≤ maxSlot ∧ target.kind ≠ .list
  | _ => True

/-- What the run executes and what it waits for keep to the slot limit. -/
structure Activation.Bounded (run : Activation) : Prop where
  script : run.script.Bounded
  wait : ∀ reason, run.waitingFor = some reason → reason.Bounded

namespace Activation.Bounded

theorem of_none {run : Activation} (script : run.script.Bounded) (silent : run.waitingFor = none) :
    run.Bounded := by
  refine ⟨script, fun reason waits => ?_⟩
  rw [silent] at waits
  cases waits

theorem congr {run other : Activation} (bounded : run.Bounded)
    (script : other.script = run.script)
    (wait : other.waitingFor = run.waitingFor ∨ other.waitingFor = none) : other.Bounded := by
  rcases wait with same | silent
  · refine ⟨script ▸ bounded.script, fun reason waits => ?_⟩
    rw [same] at waits
    exact bounded.wait reason waits
  · exact .of_none (script ▸ bounded.script) silent

theorem waitUntil {run : Activation} (bounded : run.Bounded) {reason : WaitReason}
    (within : reason.Bounded) : (run.waitUntil reason).Bounded := by
  refine ⟨bounded.script, fun other waits => ?_⟩
  cases waits
  exact within

end Activation.Bounded

theorem Instruction.answer?_bounded {instruction : Instruction}
    (within : ∀ reference, instruction.slot? = some reference → reference.index ≤ maxSlot)
    {reason : WaitReason} (raised : instruction.answer? = some reason) : reason.Bounded := by
  cases instruction with
  | showChoices choices target =>
      cases raised
      exact within
  | inputNumber target digits =>
      cases raised
      exact ⟨within target rfl, nofun⟩
  | inputText target letters =>
      cases raised
      exact ⟨within target rfl, nofun⟩
  | _ => cases raised

theorem Effect.bounded {run next : Activation} {instruction : Instruction}
    (effect : Effect run instruction next) (bounded : run.Bounded)
    (within : ∀ reference, instruction.slot? = some reference → reference.index ≤ maxSlot) :
    next.Bounded := by
  cases effect with
  | branch _ holds => cases holds <;> exact bounded.congr rfl (.inl rfl)
  | branchElse =>
      unfold Activation.branchElse
      split
      · exact bounded
      · exact bounded.congr rfl (.inl rfl)
  | jump => exact bounded.congr rfl (.inr rfl)
  | prompt raised => exact bounded.waitUntil (Instruction.answer?_bounded within raised)
  | @suspend _ reason other =>
      apply bounded.waitUntil
      cases reason with
      | choice => cases other
      | input => cases other
      | _ => trivial
  | _ => exact bounded.congr rfl (.inl rfl)

/-! ## Worlds -/

/-- All scripts that the world can start keep to the slot limit. -/
structure World.Bounded (world : World) : Prop where
  scenes : ∀ scene ∈ world.scenes.values, scene.script.Bounded
  events : ∀ event ∈ world.board.events.values, event.script.Bounded
  spawned : ∀ run ∈ world.spawned, run.Bounded

namespace World.Bounded

variable {world : World}

theorem congr (bounded : world.Bounded) {after : World} (scenes : after.scenes = world.scenes)
    (events : after.board.events = world.board.events)
    (spawned : after.spawned = world.spawned) : after.Bounded where
  scenes := scenes ▸ bounded.scenes
  events := events ▸ bounded.events
  spawned := spawned ▸ bounded.spawned

theorem scene (bounded : world.Bounded) {uid : String} {scene : Scene}
    (found : world.scenes.find? uid = some scene) : scene.script.Bounded :=
  bounded.scenes scene (Registry.mem_values_of_find? found)

theorem event (bounded : world.Bounded) {id : String} {event : CommonEvent}
    (found : world.board.events.find? id = some event) : event.script.Bounded :=
  bounded.events event (Registry.mem_values_of_find? found)

theorem deactivate (bounded : world.Bounded) (id : String) : (world.deactivate id).Bounded :=
  bounded.congr rfl (EventBoard.deactivate_events world.board id) rfl

theorem addScene (bounded : world.Bounded) {scene : Scene} (within : scene.script.Bounded) :
    (world.addScene scene).Bounded where
  scenes := by
    intro other member
    rcases Registry.mem_values_insert member with rfl | old
    · exact within
    · exact bounded.scenes other old
  events := bounded.events
  spawned := bounded.spawned

theorem addEvent (bounded : world.Bounded) {event : CommonEvent}
    (within : event.script.Bounded) : (world.addEvent event).Bounded where
  scenes := bounded.scenes
  events := by
    intro other member
    rcases Registry.mem_values_insert member with rfl | old
    · exact within
    · exact bounded.events other old
  spawned := bounded.spawned

theorem activateAll (bounded : world.Bounded) (events : List CommonEvent) :
    (world.activateAll events).Bounded := by
  obtain ⟨active, activated⟩ := world.activateAll_eq events
  rw [activated]
  exact bounded.congr rfl rfl rfl

/-- An instruction starts scripts that the world knows. -/
theorem calling (bounded : world.Bounded) {run : Activation} {instruction : Instruction}
    {outcome : Outcome} (calling : Calling run world instruction outcome) :
    outcome.world.Bounded ∧ ∀ callee, outcome.callee = some callee → callee.Bounded := by
  cases calling with
  | apart spares alone =>
      refine ⟨bounded.congr spares.scenes (congrArg EventBoard.events spares.board)
        spares.spawned, fun callee called => ?_⟩
      rw [alone] at called
      cases called
  | @spawnEvent _ _ event _ found entered alone =>
      have started : Activation.Bounded
          { context := run.contextUnder event.id, script := event.script : Activation }.start :=
        .of_none (bounded.event found) rfl
      refine ⟨?_, fun callee called => ?_⟩
      · rw [entered]
        exact ⟨bounded.scenes, bounded.events, List.forall_mem_append.mpr
          ⟨bounded.spawned, List.forall_mem_singleton.mpr started⟩⟩
      · rw [alone] at called
        cases called
  | callEvent found entered called =>
      rw [entered, called]
      refine ⟨bounded.congr rfl rfl rfl, fun callee same => ?_⟩
      cases same
      exact .of_none (bounded.event found) rfl
  | callScene found entered called =>
      rw [entered, called]
      refine ⟨bounded, fun callee same => ?_⟩
      cases same
      exact .of_none (bounded.scene found) rfl

end World.Bounded

/-! ## The start of a game -/

/-- The runs that a project starts with, and the scripts that it knows, keep to the limit. -/
theorem Game.start_bounded {host : Host} {project : Project} {game : Game}
    {notices : List Notice} (started : host.start project = .ok (game, notices)) :
    (∀ run ∈ game.live, run.Bounded) ∧ game.world.Bounded := by
  obtain ⟨loading, uid, scene, loaded, found, rfl⟩ := Host.start_cases started
  have bounded : loading.world.Bounded :=
    Loading.addSources_keeps World.Bounded
      (fun _ compiled bounded => bounded.addScene (Script.bounded_of_compile compiled))
      (fun _ compiled bounded => bounded.addEvent (Script.bounded_of_compile compiled))
      ⟨List.forall_mem_nil _, List.forall_mem_nil _, List.forall_mem_nil _⟩ loaded
  refine ⟨List.forall_mem_append.mpr ⟨?_, ?_⟩, bounded.activateAll _⟩
  · exact List.forall_mem_singleton.mpr (.of_none (bounded.scene found) rfl)
  · intro run member
    obtain ⟨thread, listed, inside⟩ := List.mem_flatMap.mp member
    obtain ⟨event, known, rfl⟩ := List.mem_map.mp listed
    cases List.mem_singleton.mp inside
    exact .of_none (bounded.events event (Host.mem_parallelEvents known)) rfl

end NovelEngine
