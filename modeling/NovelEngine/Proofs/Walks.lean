import NovelEngine.Proofs.Programs

/-!
Contract: what a run executes, command by command.

Owns:
- the commands ahead of a run and where it lands before them;
- walks: commands that are executed one after the other, and what happens meanwhile;
- plain commands and skipped commands as walks.

Does not own: conditions and loops.
-/

namespace NovelEngine

/-! ## The commands ahead of a run -/

namespace Script

/-- The commands from `index` on. -/
def onwards (script : Script) (index : Nat) : List Command :=
  script.commands.toList.drop index

variable {script : Script} {index : Nat}

theorem onwards_zero {commands : List Command}
    (compiled : Script.compile commands = .ok script) : script.onwards 0 = commands := by
  unfold Script.compile at compiled
  split at compiled
  · cases compiled
  · cases compiled
    rfl

theorem command?_eq_head? (script : Script) (index : Nat) :
    script.command? index = (script.onwards index).head? := by
  rw [onwards, List.head?_drop]
  exact (Array.getElem?_toList).symm

theorem onwards_append {first rest : List Command}
    (here : script.onwards index = first ++ rest) :
    script.onwards (index + first.length) = rest := by
  unfold onwards at here ⊢
  rw [← List.drop_drop, here, List.drop_left]

theorem onwards_succ {command : Command} {rest : List Command}
    (here : script.onwards index = command :: rest) : script.onwards (index + 1) = rest :=
  @onwards_append script index [command] rest here

theorem length_onwards (script : Script) (index : Nat) :
    (script.onwards index).length = script.size - index := by
  rw [onwards, List.length_drop, Array.length_toList]
  rfl

end Script

/-- The indent at which a run stands that comes from `indent` and has these commands ahead. -/
def settled (indent : Nat) : List Command → Nat
  | [] => 0
  | next :: _ => min indent next.indent

/-- The commands lead out of every block deeper than `indent`. -/
def LeadsOut (indent : Nat) (commands : List Command) : Prop :=
  ∀ next ∈ commands.head?, next.indent ≤ indent

theorem settled_zero (commands : List Command) : settled 0 commands = 0 := by
  cases commands with
  | nil => rfl
  | cons next rest => exact Nat.zero_min next.indent

theorem LeadsOut.deeper {indent : Nat} {commands : List Command}
    (leads : LeadsOut indent commands) : LeadsOut (indent + 1) commands :=
  fun next first => Nat.le_succ_of_le (leads next first)

namespace Activation

theorem enclosingLoop_of_unlooped {activation : Activation} (unlooped : activation.loops = #[])
    (indent : Nat) : activation.enclosingLoop indent = 0 := by
  induction indent with
  | zero => rfl
  | succ indent inductionHypothesis =>
      have missing : activation.loopStart? (indent + 1) = none := by
        unfold loopStart?
        rw [unlooped]
        rfl
      unfold enclosingLoop
      rw [missing, inductionHypothesis]
      rfl

theorem nextIndent_of_unlooped {activation : Activation} (unlooped : activation.loops = #[]) :
    min activation.indent activation.nextIndent =
      settled activation.indent (activation.script.onwards activation.pointer) := by
  unfold nextIndent
  rw [Script.command?_eq_head?]
  cases activation.script.onwards activation.pointer with
  | nil =>
      show min activation.indent (activation.enclosingLoop activation.indent) = 0
      rw [enclosingLoop_of_unlooped unlooped, Nat.min_zero]
  | cons next rest => rfl

/-- The same run when it comes to another position. The blocks that end before it are left,
and a loop whose block ends starts again. -/
def landed (activation : Activation) (position : Position) : Activation :=
  (activation.placed position).settleIndent

section Landing

variable {actor : Activation} {script : Script} (same : actor.script = script)
  {position : Position}

include same

theorem nextIndent_placed : (actor.placed position).nextIndent =
    ((script.onwards position.pointer).head?.map Command.indent).getD
      ((actor.placed position).enclosingLoop position.indent) := by
  have found : (actor.placed position).script.command? (actor.placed position).pointer =
      (script.onwards position.pointer).head? := by
    rw [← same]
    exact Script.command?_eq_head? _ _
  unfold nextIndent
  rw [found]
  cases (script.onwards position.pointer).head? with
  | none => rfl
  | some next => rfl

/-- A run lands on a command that is in its block, or deeper. -/
theorem landed_of_deep {command : Command} {rest : List Command}
    (here : script.onwards position.pointer = command :: rest)
    (deep : position.indent ≤ command.indent) :
    actor.landed position = actor.placed position := by
  have next : (actor.placed position).nextIndent = command.indent := by
    rw [nextIndent_placed same, here]
    rfl
  unfold landed settleIndent
  rw [next]
  exact if_neg (Nat.not_lt.mpr deep)

/-- Without loops a run settles on the next command. -/
theorem landed_of_unlooped (unlooped : position.loops = #[]) :
    actor.landed position = actor.placed { position with
      indent := settled position.indent (script.onwards position.pointer) } := by
  let ahead : Activation := actor.placed position
  have missing (indent : Nat) : ahead.loopStart? indent = none := by
    show Slots.read none position.loops indent = none
    rw [unlooped]
    rfl
  have next : min ahead.indent ahead.nextIndent =
      settled position.indent (script.onwards position.pointer) := by
    rw [← same]
    exact nextIndent_of_unlooped unlooped
  rw [← next]
  show ahead.settleIndent = _
  unfold settleIndent
  dsimp only
  rw [missing, Option.getD_none]
  by_cases lower : ahead.nextIndent < ahead.indent
  · rw [if_pos lower, Nat.min_eq_right (Nat.le_of_lt lower)]
    rfl
  · rw [if_neg lower, Nat.min_eq_left (Nat.le_of_not_lt lower)]
    rfl

end Landing

end Activation

/-! ## Runs command by command -/

/-- What a command with this instruction does to the world, or asks of it. `taken` says
whether its chain has taken a branch; then it asks nothing more. -/
def Command.event? (command : Command) (taken : Bool) (world : World) :
    Option Instruction → Option Event
  | some (.condition test) => some (.tested test world)
  | some (.conditionElseIf (some test)) => if taken then none else some (.tested test world)
  | some .conditionElse => none
  | _ => some (.ran command.id command.params world)

/-- What happens when the command at the pointer is executed in this state. -/
def Activation.event? (activation : Activation) (world : World) : Option Event :=
  match activation.script.command? activation.pointer with
  | none => none
  | some command =>
      if activation.runsNext world then
        command.event? (activation.condition activation.indent) world
          (activation.script.instruction? activation.pointer)
      else none

/-- What happens in the visited states, in order. -/
def eventsOf (visits : List (Thread × World)) : List Event :=
  visits.filterMap (fun visit => visit.1.root.event? visit.2)

/-- The run executes the command at its pointer and goes on at once. -/
structure Activation.StepsTo (runCallee : CalleeRunner) (root : Activation) (world : World)
    (next : Activation) (after : World) : Prop where
  able : root.canStep = true
  executes : ∃ notices, Thread.execute { root } world runCallee root.pointer =
    some { thread := { root := next }, world := after, notices }
  uncounted : ∀ executed, next.counted after.config executed = next

/-- The run executes a number of commands, with these events, and has not come to rest. -/
inductive Walk (runCallee : CalleeRunner) :
    Activation → World → Nat → List Event → Activation → World → Prop where
  | stay (root : Activation) (world : World) : Walk runCallee root world 0 [] root world
  | step {root next last : Activation} {world after final : World} {count : Nat}
      {events : List Event} (steps : root.StepsTo runCallee world next after)
      (rest : Walk runCallee next after count events last final) :
      Walk runCallee root world (count + 1) ((root.event? world).toList ++ events) last final

namespace Walk

variable {runCallee : CalleeRunner} {root middle last : Activation}
  {world between final : World} {count more : Nat} {events others : List Event}

theorem append (first : Walk runCallee root world count events middle between)
    (second : Walk runCallee middle between more others last final) :
    Walk runCallee root world (count + more) (events ++ others) last final := by
  induction first with
  | stay => rwa [Nat.zero_add]
  | step steps _ inductionHypothesis =>
      rw [Nat.add_right_comm, List.append_assoc]
      exact .step steps (inductionHypothesis second)

theorem single (steps : root.StepsTo runCallee world last final) :
    Walk runCallee root world 1 (root.event? world).toList last final := by
  have walk := Walk.step steps (.stay last final)
  rwa [List.append_nil] at walk

/-- The states that a walk visits are the first ones of an update. -/
theorem visits (walk : Walk runCallee root world count events last final)
    (fuel executed : Nat) :
    eventsOf (commandVisits runCallee (fuel + count) executed { root } world) =
      events ++ eventsOf
        (commandVisits runCallee fuel (executed + count) { root := last } final) := by
  induction walk generalizing executed with
  | stay => rfl
  | @step root next last world after final count events steps _ inductionHypothesis =>
      obtain ⟨able, ⟨notices, executes⟩, uncounted⟩ := steps
      have counted : Thread.counted { root := next } after.config (executed + 1) =
          { root := next } := congrArg (fun root => ({ root } : Thread)) (uncounted _)
      have total : executed + (count + 1) = executed + 1 + count := by omega
      rw [← Nat.add_assoc, commandVisits_step able executes, counted, List.append_assoc, total,
        ← inductionHypothesis (executed + 1)]
      cases happens : root.event? world with
      | none => simp [eventsOf, happens]
      | some event => simp [eventsOf, happens]

theorem runs (walk : Walk runCallee root world count events last final)
    (fuel executed : Nat) (told : List Notice) :
    ∃ heard, runCommands runCallee (fuel + count) executed { root } world told =
      runCommands runCallee fuel (executed + count) { root := last } final heard := by
  induction walk generalizing executed told with
  | stay => exact ⟨told, rfl⟩
  | @step root next last world after final count events steps _ inductionHypothesis =>
      obtain ⟨able, ⟨notices, executes⟩, uncounted⟩ := steps
      have counted : Thread.counted { root := next } after.config (executed + 1) =
          { root := next } := congrArg (fun root => ({ root } : Thread)) (uncounted _)
      obtain ⟨heard, later⟩ := inductionHypothesis (executed + 1)
        ((next.yieldIfDue after.config (executed + 1)).2.reverse ++ notices.reverse ++ told)
      have total : executed + (count + 1) = executed + 1 + count := by omega
      refine ⟨heard, ?_⟩
      rw [← Nat.add_assoc, runCommands_step able executes, counted, later, total]

/-- A walk that is longer than the fuel does not come to rest. -/
theorem exhausts (walk : Walk runCallee root world count events last final) {fuel : Nat}
    (longer : fuel < count) (executed : Nat) (told : List Notice) :
    runCommands runCallee fuel executed { root } world told = none := by
  induction walk generalizing fuel executed told with
  | stay => exact absurd longer (Nat.not_lt_zero fuel)
  | @step root next last world after final count events steps _ inductionHypothesis =>
      obtain ⟨able, ⟨notices, executes⟩, uncounted⟩ := steps
      cases fuel with
      | zero => exact if_pos able
      | succ fuel =>
          have counted : Thread.counted { root := next } after.config (executed + 1) =
              { root := next } := congrArg (fun root => ({ root } : Thread)) (uncounted _)
          rw [runCommands_step able executes, counted]
          exact inductionHypothesis (Nat.lt_of_succ_lt_succ longer) _ _

/-- A walk that comes to rest is all that an update executes. -/
theorem completes (walk : Walk runCallee root world count events last final)
    (unable : last.canStep = false) {fuel : Nat} (enough : count ≤ fuel) :
    (∃ notices, runCommands runCallee fuel 0 { root } world [] =
        some { thread := { root := last }, world := final, notices }) ∧
      eventsOf (commandVisits runCallee fuel 0 { root } world) = events := by
  have whole : fuel - count + count = fuel := Nat.sub_add_cancel enough
  obtain ⟨heard, runs⟩ := walk.runs (fuel - count) 0 []
  have visits := walk.visits (fuel - count) 0
  rw [whole] at runs visits
  constructor
  · exact ⟨heard.reverse, runs.trans (runCommands_of_unable unable)⟩
  · rw [visits]
    simp [commandVisits_of_unable, unable, eventsOf]

end Walk

/-! ## One command -/

/-- A run of `script` that nothing holds up. -/
structure Activation.IsActor (actor : Activation) (script : Script) : Prop where
  script : actor.script = script
  awake : actor.IsAwake
  running : actor.isRunning = true
  free : actor.holdPointer = false
  unpaused : actor.preview.waiting = false

/-- A world without preview in which an update may execute any number of commands. -/
structure World.IsUnlimited (world : World) : Prop where
  off : world.config.preview = false
  unlimited : world.config.commandBudget = none

theorem World.IsUnlimited.perform {world : World} (unlimited : world.IsUnlimited)
    (activation : Activation) (id : String) (instruction : Instruction) :
    (activation.perform world id instruction).world.IsUnlimited := by
  have config := activation.perform_config world id instruction
  exact ⟨config ▸ unlimited.off, config ▸ unlimited.unlimited⟩

/-- An instruction that leaves a run awake does not hold it up. -/
theorem Activation.IsActor.effect {actor next : Activation} {script : Script}
    (acts : actor.IsActor script) {instruction : Instruction}
    (effect : Effect actor instruction next) (awake : next.IsAwake) :
    next.IsActor script where
  script := effect.sameRun.script.trans acts.script
  awake := awake
  running := effect.aside.1.trans acts.running
  free := by
    rcases effect.parks acts.free with ⟨free, _⟩ | ⟨_, parked⟩
    · exact free
    · have waiting := awake.waiting
      rw [parked] at waiting
      cases waiting
  unpaused := by
    rw [effect.aside.2]
    exact acts.unpaused

/-- Past its last command such a run is at its end. -/
theorem Activation.IsActor.isAtEnd_placed {actor : Activation} {script : Script}
    (acts : actor.IsActor script) (position : Position) (past : script.size ≤ position.pointer) :
    (actor.placed position).isAtEnd = true := by
  have outside : ¬ position.pointer < actor.script.size := by
    rw [acts.script]
    omega
  simp [Activation.isAtEnd, Activation.placed, outside, acts.awake.waiting, acts.running]

section Commands

variable {runCallee : CalleeRunner} {script : Script} {actor : Activation} {world : World}
  {position : Position} {command : Command} {rest : List Command}

variable (acts : actor.IsActor script) (unlimited : world.IsUnlimited)
  (here : script.onwards position.pointer = command :: rest)

include acts here

theorem command?_placed : (actor.placed position).script.command? position.pointer =
    some command := by
  show actor.script.command? position.pointer = some command
  rw [acts.script, Script.command?_eq_head?, here]
  rfl

theorem instruction?_placed {commands : List Command}
    (compiled : Script.compile commands = .ok script) :
    (actor.placed position).script.instruction? position.pointer =
      Script.instructionOf command := by
  have found := command?_placed acts here
  have script : (actor.placed position).script = script := acts.script
  rw [script] at found ⊢
  exact Script.instruction?_of_compile compiled found

include unlimited

/-- A command after which the run is awake is followed by a step to the next one. -/
theorem stepsTo_of_handle {next : Activation} {after : World} {place : Position}
    (goesOn : next.IsActor script) (stays : after.IsUnlimited)
    (handles : ∃ notices, Thread.handle { root := actor.placed position } world runCallee =
      some { thread := { root := next.placed place }, world := after, notices }) :
    (actor.placed position).StepsTo runCallee world
      (next.landed { place with pointer := place.pointer + 1 }) after := by
  obtain ⟨notices, handles⟩ := handles
  have moved : (next.placed place).stepPast =
      next.landed { place with pointer := place.pointer + 1 } :=
    Activation.stepPast_of_free goesOn.free
  have inside : position.pointer < actor.script.size := by
    have length := script.length_onwards position.pointer
    rw [here, List.length_cons] at length
    rw [acts.script]
    omega
  refine ⟨?_, ⟨notices, ?_⟩, ?_⟩
  · simp [Activation.canStep, Activation.placed, acts.awake.waiting, acts.unpaused, inside,
      acts.running]
  · have executes := Thread.execute_of_handle unlimited.off handles
    rw [executes, moved]
  · intro executed
    have awake : (next.landed { place with pointer := place.pointer + 1 }).isWaiting = false := by
      rw [← moved]
      obtain ⟨pointer, indent, equal⟩ := (next.placed place).stepPast_eq
      rw [equal]
      exact goesOn.awake.waiting
    exact Activation.counted_of_unlimited stays.off awake stays.unlimited executed

/-- A command that is indented deeper than the run is stepped over. -/
theorem walk_skip (deeper : position.indent < command.indent) :
    Walk runCallee (actor.placed position) world 1 []
      (actor.landed { position with pointer := position.pointer + 1 }) world := by
  have found := command?_placed acts here
  have differs : command.indent ≠ (actor.placed position).indent := Nat.ne_of_gt deeper
  have skipped : (actor.placed position).event? world = none := by
    have found : (actor.placed position).script.command? (actor.placed position).pointer =
        some command := found
    have passes : (actor.placed position).runsNext world = false := by
      simp [Activation.runsNext, found, differs]
    simp [Activation.event?, found, passes]
  have walk := Walk.single (stepsTo_of_handle acts unlimited here acts unlimited
    ⟨[], @Thread.handle_skip runCallee _ world command found differs⟩)
  rwa [skipped] at walk

theorem runsNext_placed (current : command.indent = position.indent) :
    (actor.placed position).runsNext world = true := by
  have found := command?_placed acts here
  unfold Activation.runsNext
  show (match (actor.placed position).script.command? position.pointer with
    | none => false
    | some command => decide (command.indent = position.indent) && _) = true
  rw [found]
  simp [current, unlimited.off]

/-- A command at the indent of the run happens. -/
theorem event?_placed {commands : List Command}
    (compiled : Script.compile commands = .ok script)
    (current : command.indent = position.indent) :
    (actor.placed position).event? world =
      command.event? (Slots.read false position.conditions position.indent) world
        (Script.instructionOf command) := by
  have found : (actor.placed position).script.command? (actor.placed position).pointer =
      some command := command?_placed acts here
  have decodes : (actor.placed position).script.instruction? (actor.placed position).pointer =
      Script.instructionOf command := instruction?_placed acts here compiled
  have runs := runsNext_placed acts unlimited here current
  unfold Activation.event?
  rw [found, runs, decodes]
  rfl

end Commands

/-- A plain command is no test. -/
theorem PlainCommand.event? (command : PlainCommand) (indent : Nat) (taken : Bool)
    (world : World) :
    (command.line indent).event? taken world (Script.instructionOf (command.line indent)) =
      some (.ran command.id command.params world) := by
  cases decoded : Script.instructionOf (command.line indent) with
  | none => rfl
  | some instruction =>
      have still := command.isPlain.still decoded
      cases instruction with
      | conditionElseIf test =>
          cases test with
          | none => rfl
          | some test => cases still
      | condition test => cases still
      | conditionElse => cases still
      | _ => rfl

section Plain

variable {runCallee : CalleeRunner} {script : Script} {commands : List Command}
  (compiled : Script.compile commands = .ok script) {actor : Activation} {world : World}
  (acts : actor.IsActor script) (unlimited : world.IsUnlimited)

include acts unlimited

/-- A plain command holds nothing up. -/
theorem PlainCommand.isActor (command : PlainCommand) :
    (command.evaluate actor world).actor.IsActor script ∧
      (command.evaluate actor world).world.IsUnlimited := by
  unfold PlainCommand.evaluate
  dsimp only
  split
  · exact ⟨acts, unlimited⟩
  · rename_i instruction decoded
    have stands := command.isPlain instruction decoded actor world acts.awake
    exact ⟨acts.effect (actor.perform_effect world command.id instruction) stands.awake,
      unlimited.perform actor command.id instruction⟩

include compiled

/-- Executing a plain command is evaluating it, wherever the run stands. -/
theorem PlainCommand.handle (command : PlainCommand) {position : Position}
    {rest : List Command}
    (here : script.onwards position.pointer = command.line position.indent :: rest) :
    ∃ notices, Thread.handle { root := actor.placed position } world runCallee = some {
      thread := { root := (command.evaluate actor world).actor.placed position }
      world := (command.evaluate actor world).world
      notices } := by
  have found := command?_placed acts here
  have decodes := instruction?_placed acts here compiled
  have current : (command.line position.indent).indent = (actor.placed position).indent := rfl
  unfold PlainCommand.evaluate
  cases decoded : Script.instructionOf (command.line 0) with
  | none =>
      have unknown : (actor.placed position).script.instruction? position.pointer = none :=
        decodes.trans decoded
      exact ⟨[], Thread.handle_unknown found current unknown⟩
  | some instruction =>
      have known : (actor.placed position).script.instruction? position.pointer =
          some instruction := decodes.trans decoded
      have still := command.isPlain.still decoded
      have stands := command.isPlain instruction decoded (actor.placed position) world
        (acts.awake.congr rfl rfl rfl rfl)
      obtain ⟨run, after⟩ := actor.perform_placed position unlimited.off command.id still
      have alone := Activation.callee_of_awake stands.awake
      obtain ⟨notices, handles⟩ := Thread.handle_alone found current known alone
      refine ⟨notices, ?_⟩
      rw [handles]
      dsimp only [PlainCommand.line]
      rw [run, after]

/-- A plain command is followed by a step to the next command. -/
theorem PlainCommand.walk (command : PlainCommand) {position : Position}
    {rest : List Command}
    (here : script.onwards position.pointer = command.line position.indent :: rest) :
    Walk runCallee (actor.placed position) world 1 (command.evaluate actor world).events
      ((command.evaluate actor world).actor.landed { position with
        pointer := position.pointer + 1 }) (command.evaluate actor world).world := by
  obtain ⟨goesOn, stays⟩ := command.isActor acts unlimited
  have events : (command.evaluate actor world).events =
      ((actor.placed position).event? world).toList := by
    rw [event?_placed acts unlimited here compiled rfl, command.event?]
    unfold PlainCommand.evaluate
    dsimp only
    split <;> rfl
  rw [events]
  exact Walk.single (stepsTo_of_handle acts unlimited here goesOn stays
    (command.handle compiled acts unlimited here))

end Plain

end NovelEngine
