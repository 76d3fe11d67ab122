import NovelEngine.Proofs.LoopPasses

/-!
Contract: chains of conditions mean what their tree says.

Owns:
- blocks of runs in which no loop is open;
- what a run of a program's command list does, command by command.

Does not own: loops and jumps.
-/

namespace NovelEngine

/-! ## Blocks -/

/-- Executing the commands ahead of a run is this evaluation, and it takes the run to what
follows them. Of the truth values only those from `indent` on may change. -/
structure Performs (runCallee : CalleeRunner) (script : Script) (indent : Nat)
    (commands tail : List Command) (pointer : Nat) (conditions later : Array Bool)
    (actor : Activation) (world : World) (evaluation : Evaluation) : Prop where
  walk : Walk runCallee
    (actor.placed { pointer, indent := settled indent (commands ++ tail), conditions }) world
    commands.length evaluation.events
    (evaluation.actor.placed {
      pointer := pointer + commands.length
      indent := settled indent tail
      conditions := later }) evaluation.world
  below : ∀ level, level < indent →
    Slots.read false later level = Slots.read false conditions level
  acts : evaluation.actor.IsActor script
  unlimited : evaluation.world.IsUnlimited

/-- A block does what its tree says, wherever it stands. -/
theorem Block.performs {runCallee : CalleeRunner} {script : Script} {commands : List Command}
    (compiled : Script.compile commands = .ok script) (block : Block) {actor : Activation}
    {world : World} (acts : actor.IsActor script) (unlimited : world.IsUnlimited)
    {indent pointer : Nat} {conditions : Array Bool} {tail : List Command}
    (leads : LeadsOut indent tail)
    (here : script.onwards pointer = block.flatten indent ++ tail) :
    ∃ later, Performs runCallee script indent (block.flatten indent) tail pointer conditions later
      actor world (block.evaluate actor world) := by
  let start : Position := { pointer, indent, conditions }
  have stays : (block.inLoop.evaluate actor world).leaves = false := by
    rw [block.evaluate_inLoop]
  have inLoop : script.onwards start.pointer = block.inLoop.flatten start.indent ++ tail := by
    rw [block.flatten_inLoop]
    exact here
  have passes := @LoopBody.passes _ _ compiled 0 block.inLoop start _ _ acts unlimited
    [] tail (.unlooped indent) leads inLoop (fun leaves => by cases stays.symm.trans leaves)
  rw [block.flatten_inLoop, block.evaluate_inLoop] at passes
  obtain ⟨later, walk, below, goesOn, unbounded⟩ := passes
  have entry := @Activation.landed_of_unlooped _ _ acts.script start rfl
  have exit := @Activation.landed_of_unlooped _ _ goesOn.script
    (start.past (block.flatten indent).length later) rfl
  rw [Pass.steps_of_stays rfl, Pass.target_of_stays rfl, entry, exit] at walk
  refine ⟨later, ?_, below rfl, goesOn, unbounded⟩
  rw [← here, ← Script.onwards_append here]
  exact walk runCallee

/-! ## Whole scripts -/

/-- The first update of a started run executes its commands, also if there are none and it
ends or starts over at once. -/
theorem updateFrame_start (fuel : Nat) (runCallee : CalleeRunner) (run : Activation)
    (world : World) :
    updateFrame fuel runCallee run.start world =
        (runCommands runCallee fuel 0 { root := run.start }
          (world.resetTemporaries run.context) []).map Run.conclude ∧
      frameVisits fuel runCallee run.start world =
        commandVisits runCallee fuel 0 { root := run.start }
          (world.resetTemporaries run.context) := by
  cases repeats : run.repeats with
  | false =>
      have ready : run.start.IsReady := ⟨rfl, rfl, rfl, repeats⟩
      exact ⟨updateFrame_of_ready ready fuel runCallee world,
        frameVisits_of_ready ready fuel runCallee world⟩
  | true =>
      have goes : run.start.endsHere = false := by
        simp [Activation.endsHere, Activation.start, repeats]
      have again : run.start.restarted = run.start := by
        unfold Activation.restarted
        split <;> rfl
      have moves : run.start.restarted.rests (world.resetTemporaries run.context) = false := by
        rw [again]
        rfl
      have updates := @updateFrame_of_moves fuel runCallee _ world goes moves
      have visits : frameVisits fuel runCallee run.start world =
          commandVisits runCallee fuel 0 { root := run.start.restarted.unparked }
            (world.resetTemporaries run.context) := by
        unfold frameVisits
        dsimp only
        rw [goes, show run.start.context = run.context from rfl, moves]
        rfl
      rw [again] at updates visits
      exact ⟨updates, visits⟩

theorem Run.conclude_finished {root : Activation} (atEnd : root.isAtEnd = true)
    (once : root.repeats = false) (world : World) (notices : List Notice) :
    (Run.conclude { thread := { root }, world, notices }).progress = .finished ∧
      (Run.conclude { thread := { root }, world, notices }).world =
        world.releaseBox root.context := by
  have ends : root.endsHere = true := by simp [Activation.endsHere, atEnd, once]
  simp [Run.conclude, ends, Thread.finish]

theorem Run.conclude_restarted {root : Activation} (again : root.repeats = true)
    (world : World) (notices : List Notice) :
    (Run.conclude { thread := { root }, world, notices }).progress = .running ∧
      (Run.conclude { thread := { root }, world, notices }).world = world := by
  have goes : root.endsHere = false := by simp [Activation.endsHere, again]
  simp [Run.conclude, goes]

/-- The script of a program runs through in one update. Its commands are executed, and its
conditions asked, in the order and in the worlds that the evaluation of the tree gives. A run
that starts over at its end does so, any other is finished. -/
theorem Block.update_evaluates (block : Block) :
    ∃ script, Script.compile (block.flatten 0) = .ok script ∧
      ∀ (run : Activation) (world : World), run.script = script →
        run.callers.length < maxCallDepth → run.preview.waiting = false →
        world.config.preview = false → world.config.commandBudget = none →
        ∀ fuel, script.size ≤ fuel →
          ∃ update, Thread.update { root := run.start } fuel world = some update ∧
            eventsOf (Thread.visits { root := run.start } fuel world) =
              (block.evaluate run.start (world.resetTemporaries run.context)).events ∧
            (run.repeats = false → update.progress = .finished ∧ update.world =
              (block.evaluate run.start
                (world.resetTemporaries run.context)).world.releaseBox run.context) ∧
            (run.repeats = true → update.progress = .running ∧ update.world =
              (block.evaluate run.start (world.resetTemporaries run.context)).world) := by
  obtain ⟨script, compiled⟩ := block.compiles
  refine ⟨script, compiled, ?_⟩
  intro run world same shallow unpaused off unbounded fuel enough
  have acts : run.start.IsActor script := ⟨same, ⟨rfl, rfl, rfl, rfl⟩, rfl, rfl, unpaused⟩
  have unlimited : (world.resetTemporaries run.context).IsUnlimited := ⟨off, unbounded⟩
  have here : script.onwards 0 = block.flatten 0 ++ [] := by
    rw [List.append_nil, Script.onwards_zero compiled]
  have length : (block.flatten 0).length = script.size := by
    rw [← Script.onwards_zero compiled, script.length_onwards, Nat.sub_zero]
  obtain ⟨later, performs⟩ := @Block.performs (Thread.calleeRunner { root := run.start } fuel) _ _
    compiled block _ _ acts unlimited 0 0 #[] [] (fun _ none => by cases none) here
  have walk := performs.walk
  have entry : run.start.placed {
      pointer := 0, indent := settled 0 (block.flatten 0 ++ []), conditions := #[] } =
        run.start := by
    rw [settled_zero]
    rfl
  rw [entry, length] at walk
  have atEnd := performs.acts.isAtEnd_placed
    { pointer := 0 + script.size, conditions := later } (Nat.le_add_left _ _)
  obtain ⟨⟨notices, runs⟩, visits⟩ :=
    walk.completes (Activation.canStep_of_isAtEnd atEnd) enough
  obtain ⟨updates, visited⟩ := updateFrame_start fuel
    (Thread.calleeRunner { root := run.start } fuel) run world
  have room : 0 < run.start.callRoom := Nat.sub_pos_of_lt shallow
  have sameRun := block.evaluate_sameRun run.start (world.resetTemporaries run.context)
  rw [runs] at updates
  refine ⟨_, (Thread.update_eq room fuel world).trans updates,
    (congrArg eventsOf visited).trans visits, ?_, ?_⟩
  · intro once
    obtain ⟨finished, released⟩ :=
      Run.conclude_finished atEnd (sameRun.repeats.trans once) _ notices
    exact ⟨finished, released.trans (congrArg (World.releaseBox _) sameRun.context)⟩
  · intro again
    apply Run.conclude_restarted
    exact sameRun.repeats.trans again

/-- A command that plays a sound is plain. -/
def PlainCommand.sound (name : String) : PlainCommand where
  id := "PlaySound"
  params := .record [("name", .text name)]
  isPlain := by
    rintro _ ⟨⟩ activation world awake
    exact ⟨rfl, awake⟩

/-- Whether a local boolean is set. -/
def Test.isSet (index : Fin 2) : Test where
  params := .record [("left", .record [("kind", .text "boolean"), ("index", .integer index)])]
  condition := { left := .slot { scope := .local, kind := .boolean, index } }
  decodes := match index with
    | 0 => rfl
    | 1 => rfl

/-- Whether the first local boolean is set. -/
def Test.firstSet : Test :=
  .isSet 0

/-- A reception: a known guest is welcomed, with a wave if awaited, any other awaited guest
gets a nod, and everyone else goes. -/
def reception : Block :=
  .run (.sound "door")
    (.chain (.isSet 0)
      (.run (.sound "welcome") (.chain (.isSet 1) (.run (.sound "wave") .done) .close .done))
      (.elseIf (.isSet 1) (.run (.sound "nod") .done) (.otherwise (.run (.sound "leave") .done)))
      .done)

def usher (script : Script) : Activation where
  context := { id := "hall" }
  script

/-- Whatever the two conditions give, the guest is greeted in one update. -/
theorem reception_evaluates : ∃ script update, Script.compile (reception.flatten 0) = .ok script ∧
    script.size = 9 ∧
    Thread.update { root := (usher script).start } 9 (World.empty.withBudget none) = some update ∧
    update.progress = .finished ∧
    eventsOf (Thread.visits { root := (usher script).start } 9 (World.empty.withBudget none)) =
      (reception.evaluate (usher script).start
        ((World.empty.withBudget none).resetTemporaries { id := "hall" })).events := by
  obtain ⟨script, compiled, runs⟩ := Block.update_evaluates reception
  have size : script.size = 9 := by
    rw [← Nat.sub_zero script.size, ← script.length_onwards, Script.onwards_zero compiled]
    rfl
  obtain ⟨update, updated, events, ends, _⟩ := runs (usher script) (World.empty.withBudget none)
    rfl (Nat.zero_lt_of_ne_zero (by decide)) rfl rfl rfl 9 (Nat.le_of_eq size)
  exact ⟨script, update, compiled, size, updated, (ends rfl).1, events⟩

/-- A run that starts over at its end is not finished by an update. -/
theorem repeating_run_not_finished :
    ¬ ∀ (block : Block) (script : Script) (run : Activation) (world : World) (fuel : Nat),
      Script.compile (block.flatten 0) = .ok script → run.script = script →
      run.callers = [] → run.preview.waiting = false → world.config.preview = false →
      world.config.commandBudget = none → script.size ≤ fuel →
      ∃ update, Thread.update { root := run.start } fuel world = some update ∧
        update.progress = .finished := by
  intro always
  let script : Script := {
    commands := #[(PlainCommand.sound "bell").line 0]
    instructions := #[some (.playSound (.literal (.text "bell")))]
    jumpTargets := #[none] }
  obtain ⟨update, updated, finished⟩ := always (.run (.sound "bell") .done) script
    { context := { id := "scene" }, script, repeats := true } (World.empty.withBudget none) 1
    rfl rfl rfl rfl rfl rfl (Nat.le_refl 1)
  cases updated
  cases finished

end NovelEngine
