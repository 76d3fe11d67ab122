import NovelEngine.Proofs.Conditionals

/-!
Contract: loops as rounds of their bodies.

Owns:
- the rounds of a loop, which go on until one of them ends it;
- what the update of a run does that stands on a loop: the rounds it executes, where it goes
  on behind the loop, and that it does not come to rest if no round ends the loop.

Does not own: loops inside of the body.
-/

namespace NovelEngine

/-! ## Rounds -/

namespace LoopBody

/-- The loop is entered and its body evaluated once. -/
def round (body : LoopBody) (params : Document) (actor : Activation) (world : World) : Pass :=
  Pass.andThen { events := [.ran "Loop" params world], actor, world } body.evaluate

/-- A number of rounds, fewer if one of them ends the loop. -/
def rounds (body : LoopBody) (params : Document) : Nat → Activation → World → Pass
  | 0 => fun actor world => { actor, world }
  | count + 1 => fun actor world =>
      (body.round params actor world).andThen (body.rounds params count)

theorem rounds_sameRun (body : LoopBody) (params : Document) (count : Nat) (actor : Activation)
    (world : World) : actor.SameRun (body.rounds params count actor world).actor := by
  induction count generalizing actor world with
  | zero => exact .refl actor
  | succ count inductionHypothesis =>
      apply Pass.andThen_sameRun
      · exact Pass.andThen_sameRun (.refl actor) (body.evaluate_sameRun actor world)
      · exact inductionHypothesis _ _

end LoopBody

/-! ## One round -/

namespace Position

/-- The loop at the pointer is registered. -/
def opened (position : Position) : Position :=
  { position with
    loops := Slots.write none position.loops position.indent (some position.pointer) }

/-- A run at this position stands on a loop with this body. No loop is open inside of it, and
what follows the body is at the indent of the loop. -/
structure OnLoop (start : Position) (script : Script) (params : Document) (body : LoopBody)
    (tail : List Command) : Prop where
  here : script.onwards start.pointer =
    { id := "Loop", indent := start.indent, params } :: (body.flatten (start.indent + 1) ++ tail)
  behind : ∀ next ∈ tail.head?, next.indent = start.indent
  clear : ∀ level, start.indent < level → Slots.read none start.loops level = none

/-- The run is on the loop again. -/
structure Again (start last : Position) : Prop where
  pointer : last.pointer = start.pointer
  indent : last.indent = start.indent
  others : ∀ level, level ≠ start.indent →
    Slots.read none last.loops level = Slots.read none start.loops level

/-- The run is behind a body of this length, and the loop is closed. -/
structure Behind (start exit : Position) (length : Nat) : Prop where
  pointer : exit.pointer = start.pointer + (length + 1)
  indent : exit.indent = start.indent
  closed : Slots.read none exit.loops start.indent = none
  others : ∀ level, level ≠ start.indent →
    Slots.read none exit.loops level = Slots.read none start.loops level

variable {start : Position} {script : Script} {params : Document} {body : LoopBody}
  {tail : List Command}

theorem OnLoop.again (onLoop : start.OnLoop script params body tail) {last : Position}
    (again : start.Again last) : last.OnLoop script params body tail where
  here := by
    rw [again.pointer, again.indent]
    exact onLoop.here
  behind := by
    rw [again.indent]
    exact onLoop.behind
  clear := by
    rw [again.indent]
    intro level above
    rw [again.others level (Nat.ne_of_gt above)]
    exact onLoop.clear level above

theorem Again.trans {last final : Position} (first : start.Again last)
    (second : last.Again final) : start.Again final where
  pointer := second.pointer.trans first.pointer
  indent := second.indent.trans first.indent
  others := by
    intro level other
    have apart : level ≠ last.indent := first.indent ▸ other
    exact (second.others level apart).trans (first.others level other)

theorem Again.behind {last exit : Position} {length : Nat} (again : start.Again last)
    (behind : last.Behind exit length) : start.Behind exit length where
  pointer := again.pointer ▸ behind.pointer
  indent := behind.indent.trans again.indent
  closed := again.indent ▸ behind.closed
  others := by
    intro level other
    have apart : level ≠ last.indent := again.indent ▸ other
    exact (behind.others level apart).trans (again.others level other)

/-- Where the loops around it are closed, all loops are. -/
theorem Behind.closedWithin {exit : Position} {length : Nat} (behind : start.Behind exit length)
    {Within : Nat → Prop} (outer : ∀ level, Within level → level < start.indent →
      Slots.read none start.loops level = none) :
    ∀ level, Within level → level ≤ exit.indent → Slots.read none exit.loops level = none := by
  intro level within below
  rw [behind.indent] at below
  by_cases here : level = start.indent
  · rw [here]
    exact behind.closed
  · rw [behind.others level here]
    exact outer level within (Nat.lt_of_le_of_ne below here)

theorem OnLoop.inside (onLoop : start.OnLoop script params body tail) :
    start.pointer < script.size := by
  have length := script.length_onwards start.pointer
  rw [onLoop.here, List.length_cons] at length
  omega

theorem OnLoop.ahead (onLoop : start.OnLoop script params body tail) {exit : Position}
    (behind : start.Behind exit (body.flatten (start.indent + 1)).length) :
    script.onwards exit.pointer = tail := by
  rw [behind.pointer]
  exact @Script.onwards_append script start.pointer (_ :: body.flatten (start.indent + 1)) _
    onLoop.here

theorem opened_again (start : Position) (later : Array Bool) :
    start.Again { start.opened with conditions := later } where
  pointer := rfl
  indent := rfl
  others := fun _ other => Slots.read_write_other _ _ _ other

/-- Inside of the body the registered loop is the one that can be ended. -/
theorem OnLoop.breaksTo (onLoop : start.OnLoop script params body tail) :
    BreaksTo (start.indent + 1) start.indent start.opened.loops where
  clear := by
    intro level above
    have other : level ≠ start.indent := Nat.ne_of_gt above
    exact (Slots.read_write_other _ _ _ other).trans (onLoop.clear level above)
  outer := by
    intro level above activation loops
    have registered : activation.loopStart? start.indent = some start.pointer := by
      unfold Activation.loopStart?
      rw [loops]
      exact Slots.read_write_same _ _ _ _
    have reaches := activation.le_enclosingLoop registered (Nat.le_of_succ_le above)
    refine Nat.le_antisymm (Nat.le_of_not_lt (fun beyond => ?_)) reaches
    obtain ⟨first, found⟩ := Activation.loopStart?_enclosingLoop (Nat.zero_lt_of_lt beyond)
    have other := Nat.ne_of_gt beyond
    unfold Activation.loopStart? at found
    rw [loops] at found
    have missing := (Slots.read_write_other none start.loops (some start.pointer) other).trans
      (onLoop.clear _ beyond)
    cases missing.symm.trans found

/-- At the end of the body the loop starts again. -/
theorem OnLoop.landed_back (onLoop : start.OnLoop script params body tail) {actor : Activation}
    (same : actor.script = script) {position : Position}
    (there : position.pointer = start.pointer + ((body.flatten (start.indent + 1)).length + 1))
    (indent : position.indent = start.indent + 1) (loops : position.loops = start.opened.loops) :
    actor.landed position =
      actor.placed { start.opened with conditions := position.conditions } := by
  have next : (actor.placed position).nextIndent = start.indent := by
    have ahead : script.onwards position.pointer = tail := by
      rw [there]
      exact @Script.onwards_append script start.pointer
        (_ :: body.flatten (start.indent + 1)) _ onLoop.here
    rw [Activation.nextIndent_placed same, ahead]
    cases found : tail.head? with
    | some next => exact onLoop.behind next found
    | none =>
        rw [indent]
        exact onLoop.breaksTo.outer _ (Nat.le_refl _) _ loops
  have registered : (actor.placed position).loopStart? start.indent = some start.pointer := by
    show Slots.read none position.loops start.indent = some start.pointer
    rw [loops]
    exact Slots.read_write_same _ _ _ _
  have lower : start.indent < (actor.placed position).indent := by
    show start.indent < position.indent
    omega
  unfold Activation.landed Activation.settleIndent
  dsimp only
  rw [next, if_pos lower, registered]
  show actor.placed { position with pointer := start.pointer, indent := start.indent } = _
  rw [loops]
  rfl

end Position

theorem instructionOf_loop (indent : Nat) (params : Document) :
    Script.instructionOf { id := "Loop", indent, params } = some .loop := by
  have entry : Opcode.ofId? "Loop" = some .loop := by decide
  simp [Script.instructionOf, entry, Instruction.ofParams, Instruction.decode?]

/-- What a run does that stands on a loop with a body of this length: after some rounds it is
on the loop again, or behind it if it has been ended. -/
structure Rounds (script : Script) (length : Nat) (start : Position) (actor : Activation)
    (world : World) (count : Nat) (pass : Pass) : Prop where
  again : pass.leaves = false → ∃ last, start.Again last ∧ ∀ runCallee,
    Walk runCallee (actor.placed start) world (count * (length + 1)) pass.events
      (pass.actor.placed last) pass.world
  behind : pass.leaves = true → ∃ exit steps, start.Behind exit length ∧ ∀ runCallee,
    Walk runCallee (actor.placed start) world steps pass.events (pass.actor.landed exit)
      pass.world
  acts : pass.actor.IsActor script
  unlimited : pass.world.IsUnlimited

section Runs

variable {script : Script} {commands : List Command}
  (compiled : Script.compile commands = .ok script) {actor : Activation} {world : World}
  (acts : actor.IsActor script) (unlimited : world.IsUnlimited) {start : Position}
  {params : Document} {body : LoopBody} {tail : List Command}
  (onLoop : start.OnLoop script params body tail)

include compiled acts unlimited onLoop

/-- One round. -/
theorem LoopBody.round_runs :
    Rounds script (body.flatten (start.indent + 1)).length start actor world 1
      (body.round params actor world) := by
  have enters : (actor.placed start).enterLoop = actor.placed start.opened.deeper := rfl
  have first := fun runCallee => @walk_flow runCallee _ _ compiled _ _ acts unlimited start _ _
    onLoop.here rfl _ (instructionOf_loop _ _) _ (congrArg (Outcome.ofActivation world) enters)
  let inner : Position := (start.opened.past 1 start.conditions).deeper
  have leads : LeadsOut inner.indent tail := by
    intro next found
    rw [onLoop.behind next found]
    exact Nat.le_succ start.indent
  have whole : Contains start.indent inner.indent [] tail :=
    ⟨Nat.lt_succ_self start.indent, List.forall_mem_nil _, List.nil_prefix⟩
  obtain ⟨later, walk, _, goesOn, stays⟩ := body.passes compiled inner acts unlimited
    onLoop.breaksTo leads (Script.onwards_succ onLoop.here) (fun _ => whole)
  unfold LoopBody.round
  rw [Pass.andThen_of_stays rfl]
  refine ⟨?_, ?_, goesOn, stays⟩
  · intro (continues : (body.evaluate actor world).leaves = false)
    have back := onLoop.landed_back goesOn.script
      (show (inner.past (body.flatten inner.indent).length later).pointer = _ from
        (Nat.add_right_comm _ _ _).trans (Nat.add_assoc _ _ _)) rfl rfl
    rw [Pass.steps_of_stays continues, Pass.target_of_stays continues, back] at walk
    refine ⟨_, start.opened_again later, ?_⟩
    intro runCallee
    rw [Nat.one_mul, Nat.add_comm]
    exact (first runCallee).append (walk runCallee)
  · intro (leaves : (body.evaluate actor world).leaves = true)
    rw [Pass.steps_of_leaves leaves, Pass.target_of_leaves leaves] at walk
    refine ⟨_, _, ?_, fun runCallee => (first runCallee).append (walk runCallee)⟩
    exact {
      pointer := (Nat.add_right_comm _ _ _).trans (Nat.add_assoc _ _ _)
      indent := rfl
      closed := Slots.read_write_same _ _ _ _
      others := fun _ other => (Slots.read_write_other _ _ _ other).trans
        (Slots.read_write_other _ _ _ other) }

omit compiled acts unlimited onLoop in
/-- Rounds that follow each other, as long as the loop is not ended. -/
theorem Rounds.append {length first count : Nat} {pass : Pass}
    {next : Activation → World → Pass} (left : Rounds script length start actor world first pass)
    (right : pass.leaves = false → ∀ last, start.Again last →
      Rounds script length last pass.actor pass.world count (next pass.actor pass.world)) :
    Rounds script length start actor world (first + count) (pass.andThen next) := by
  cases leaves : pass.leaves with
  | true =>
      rw [Pass.andThen_of_leaves leaves]
      refine ⟨fun stays => ?_, left.behind, left.acts, left.unlimited⟩
      cases leaves.symm.trans stays
  | false =>
      obtain ⟨last, again, walk⟩ := left.again leaves
      have later := right leaves last again
      rw [Pass.andThen_of_stays leaves]
      refine ⟨?_, ?_, later.acts, later.unlimited⟩
      · intro stays
        obtain ⟨final, onceMore, behind⟩ := later.again stays
        refine ⟨final, again.trans onceMore, ?_⟩
        intro runCallee
        rw [Nat.add_mul]
        exact (walk runCallee).append (behind runCallee)
      · intro ends
        obtain ⟨exit, steps, beyond, behind⟩ := later.behind ends
        exact ⟨exit, _, again.behind beyond,
          fun runCallee => (walk runCallee).append (behind runCallee)⟩

/-- Any number of rounds. -/
theorem LoopBody.rounds_run (count : Nat) :
    Rounds script (body.flatten (start.indent + 1)).length start actor world count
      (body.rounds params count actor world) := by
  induction count generalizing actor world start with
  | zero =>
      refine ⟨fun _ => ⟨start, ⟨rfl, rfl, fun _ _ => rfl⟩, fun _ => ?_⟩, nofun, acts, unlimited⟩
      rw [Nat.zero_mul]
      exact .stay _ _
  | succ count inductionHypothesis =>
      have first := LoopBody.round_runs compiled acts unlimited onLoop
      have whole : Rounds script (body.flatten (start.indent + 1)).length start actor world
          (1 + count) ((body.round params actor world).andThen (body.rounds params count)) := by
        refine first.append (fun _ last again => ?_)
        have later := inductionHypothesis first.acts first.unlimited (onLoop.again again)
        rw [again.indent] at later
        exact later
      rw [Nat.add_comm 1 count] at whole
      exact whole

end Runs

/-! ## Behind the loop -/

section Exits

variable {actor : Activation} {script : Script} (same : actor.script = script)
  {position : Position}

include same

/-- Past the last command a run lands on the innermost loop that is still open. -/
theorem landed_of_end (past : script.onwards position.pointer = []) :
    actor.landed position =
      if (actor.placed position).enclosingLoop position.indent < position.indent then
        actor.placed { position with
          indent := (actor.placed position).enclosingLoop position.indent
          pointer := ((actor.placed position).loopStart?
            ((actor.placed position).enclosingLoop position.indent)).getD position.pointer }
      else actor.placed position := by
  have next : (actor.placed position).nextIndent =
      (actor.placed position).enclosingLoop position.indent := by
    rw [Activation.nextIndent_placed same, past]
    rfl
  unfold Activation.landed Activation.settleIndent
  rw [next]
  rfl

theorem landed_on_outer (past : script.onwards position.pointer = [])
    {level start : Nat} (outer : level < position.indent)
    (isOpen : Slots.read none position.loops level = some start)
    (innermost : ∀ between, level < between → between ≤ position.indent →
      Slots.read none position.loops between = none) :
    actor.landed position =
      actor.placed { position with pointer := start, indent := level } := by
  have found : (actor.placed position).enclosingLoop position.indent = level := by
    have registered : (actor.placed position).loopStart? level = some start := isOpen
    have reaches := (actor.placed position).le_enclosingLoop registered (Nat.le_of_lt outer)
    refine Nat.le_antisymm (Nat.le_of_not_lt (fun beyond => ?_)) reaches
    obtain ⟨other, nearer⟩ := Activation.loopStart?_enclosingLoop (Nat.zero_lt_of_lt beyond)
    have missing : (actor.placed position).loopStart?
        ((actor.placed position).enclosingLoop position.indent) = none :=
      innermost _ beyond (Activation.enclosingLoop_le _ _)
    cases missing.symm.trans nearer
  have registered : (actor.placed position).loopStart? level = some start := isOpen
  rw [landed_of_end same past, found, if_pos outer, registered]
  rfl

theorem landed_of_closed (past : script.onwards position.pointer = [])
    (closed : ∀ level, level ≤ position.indent → Slots.read none position.loops level = none) :
    ∃ indent, actor.landed position = actor.placed { position with indent } := by
  have missing : (actor.placed position).loopStart?
      ((actor.placed position).enclosingLoop position.indent) = none :=
    closed _ (Activation.enclosingLoop_le _ _)
  rw [landed_of_end same past, missing]
  split
  · exact ⟨_, rfl⟩
  · exact ⟨position.indent, rfl⟩

end Exits

/-! ## Updates -/

/-- In its update the run executes `count` commands, with these events, and then goes on as
`later`. -/
structure ComesTo (run : Activation) (world : World) (count : Nat) (events : List Event)
    (later : Activation) (after : World) : Prop where
  updates : ∀ fuel, ∃ heard, Thread.update { root := run } (fuel + count) world =
    (runCommands (Thread.calleeRunner { root := run } (fuel + count)) fuel count
      { root := later } after heard).map Run.conclude
  visits : ∀ fuel, eventsOf (Thread.visits { root := run } (fuel + count) world) =
    events ++ eventsOf (commandVisits (Thread.calleeRunner { root := run } (fuel + count)) fuel
      count { root := later } after)

section Updates

variable {run : Activation} {script : Script} (acts : run.IsActor script)
  (inside : run.pointer < script.size) (shallow : run.callers.length < maxCallDepth)

include acts inside shallow

/-- The update of a run that nothing holds up executes commands. -/
theorem update_of_acts (fuel : Nat) (world : World) :
    Thread.update { root := run } fuel world =
      (runCommands (Thread.calleeRunner { root := run } fuel) fuel 0 { root := run }
        (world.resetTemporaries run.context) []).map Run.conclude := by
  have room : 0 < run.callRoom := Nat.sub_pos_of_lt shallow
  rw [← acts.script] at inside
  exact (Thread.update_eq room fuel world).trans
    (updateFrame_of_awake acts.awake acts.running inside _ _ _)

theorem comesTo_of_walk {world after : World} {count : Nat} {events : List Event}
    {later : Activation} (walks : ∀ runCallee,
      Walk runCallee run (world.resetTemporaries run.context) count events later after) :
    ComesTo run world count events later after where
  updates := by
    intro fuel
    obtain ⟨heard, runs⟩ := (walks _).runs fuel 0 []
    refine ⟨heard, ?_⟩
    rw [update_of_acts acts inside shallow, runs, Nat.zero_add]
  visits := by
    intro fuel
    rw [← acts.script] at inside
    rw [Thread.visits_of_awake acts.awake acts.running inside, (walks _).visits fuel 0,
      Nat.zero_add]

end Updates

/-- How a run goes on that stands at `exit` behind the loop it was on: with the next command, or
at the end of the script with the innermost loop that is still open. If there is none the run is
finished, or starts over. -/
structure GoesOn (run : Activation) (world : World) (tail : List Command) (steps : Nat)
    (pass : Pass) (exit : Position) : Prop where
  next : tail ≠ [] → ComesTo run world steps pass.events (pass.actor.placed exit) pass.world
  outer : tail = [] → ∀ level start, level < run.indent → run.loopStart? level = some start →
    (∀ between, level < between → between < run.indent → run.loopStart? between = none) →
    ComesTo run world steps pass.events
      (pass.actor.placed { exit with pointer := start, indent := level }) pass.world
  ends : tail = [] → (∀ level, level < run.indent → run.loopStart? level = none) →
    ∀ fuel, steps ≤ fuel → ∃ update, Thread.update { root := run } fuel world = some update ∧
      eventsOf (Thread.visits { root := run } fuel world) = pass.events ∧
      (run.repeats = false → update.progress = .finished ∧
        update.thread.root.loops = exit.loops ∧
        update.world = pass.world.releaseBox run.context) ∧
      (run.repeats = true → update.progress = .running ∧
        update.thread = { root := (pass.actor.placed exit).start } ∧
        update.world = pass.world)

/-- The end of a run leaves the loops as they are. -/
theorem Run.conclude_loops {root : Activation} (atEnd : root.isAtEnd = true)
    (once : root.repeats = false) (world : World) (notices : List Notice) :
    (Run.conclude { thread := { root }, world, notices }).thread.root.loops = root.loops := by
  have ends : root.endsHere = true := by simp [Activation.endsHere, atEnd, once]
  simp [Run.conclude, ends, Thread.finish]

/-- A run that starts over at its end does so at once. -/
theorem Run.conclude_start {root : Activation} (atEnd : root.isAtEnd = true)
    (again : root.repeats = true) (world : World) (notices : List Notice) :
    (Run.conclude { thread := { root }, world, notices }).thread = { root := root.start } := by
  have goes : root.endsHere = false := by simp [Activation.endsHere, again]
  simp [Run.conclude, goes, Thread.restartAtEnd, atEnd, again, Thread.start]

section Rounds

variable {run : Activation} {script : Script} (acts : run.IsActor script)
  (shallow : run.callers.length < maxCallDepth) {world : World} {params : Document}
  {body : LoopBody} {tail : List Command}
  (onLoop : run.position.OnLoop script params body tail)

include acts shallow onLoop

theorem goesOn_of_walk {pass : Pass} (goesOn : pass.actor.IsActor script)
    (sameRun : run.SameRun pass.actor) {exit : Position} {steps : Nat}
    (behind : run.position.Behind exit (body.flatten (run.indent + 1)).length)
    (walks : ∀ runCallee, Walk runCallee run (world.resetTemporaries run.context) steps
      pass.events (pass.actor.landed exit) pass.world) :
    GoesOn run world tail steps pass exit := by
  have inside : run.pointer < script.size := onLoop.inside
  have ahead : script.onwards exit.pointer = tail := onLoop.ahead behind
  refine ⟨?_, ?_, ?_⟩
  · intro more
    obtain ⟨next, rest, split⟩ := List.exists_cons_of_ne_nil more
    have level : exit.indent = next.indent := by
      rw [behind.indent, onLoop.behind next (by rw [split]; rfl)]
    rw [pass.actor.landed_of_deep goesOn.script (ahead.trans split) (Nat.le_of_eq level)] at walks
    exact comesTo_of_walk acts inside shallow walks
  · intro done level start outer isOpen innermost
    rw [landed_on_outer goesOn.script (ahead.trans done) (behind.indent ▸ outer)
      ((behind.others level (Nat.ne_of_lt outer)).trans isOpen)
      (behind.closedWithin innermost)] at walks
    exact comesTo_of_walk acts inside shallow walks
  · intro done closed fuel enough
    obtain ⟨indent, lands⟩ := landed_of_closed goesOn.script (ahead.trans done)
      (fun level => @Position.Behind.closedWithin _ _ _ behind (fun _ => True)
        (fun level _ => closed level) level trivial)
    have past : script.size ≤ exit.pointer := by
      have length := script.length_onwards exit.pointer
      rw [ahead, done, List.length_nil] at length
      omega
    have atEnd := goesOn.isAtEnd_placed { exit with indent } past
    rw [lands] at walks
    obtain ⟨⟨notices, runs⟩, visits⟩ :=
      (walks (Thread.calleeRunner { root := run } fuel)).completes
        (Activation.canStep_of_isAtEnd atEnd) enough
    have updates := update_of_acts acts inside shallow fuel world
    rw [runs] at updates
    refine ⟨_, updates, ?_, ?_, ?_⟩
    · rw [← acts.script] at inside
      rw [Thread.visits_of_awake acts.awake acts.running inside]
      exact visits
    · intro once
      obtain ⟨finished, released⟩ :=
        Run.conclude_finished atEnd (sameRun.repeats.trans once) pass.world notices
      exact ⟨finished, Run.conclude_loops atEnd (sameRun.repeats.trans once) pass.world notices,
        released.trans (congrArg (World.releaseBox _) sameRun.context)⟩
    · intro again
      have repeats : (pass.actor.placed { exit with indent }).repeats = true :=
        sameRun.repeats.trans again
      obtain ⟨running, unchanged⟩ := Run.conclude_restarted repeats pass.world notices
      exact ⟨running, Run.conclude_start atEnd repeats pass.world notices, unchanged⟩

/-- A run that stands on a loop evaluates the body of the loop again and again in its update.
As long as no round ends the loop it comes back to it, and if none ever does, the update does
not come to rest. Once a round ends the loop, the loop is closed, all loops around it are open
as before, and the run goes on behind the body. -/
theorem LoopBody.update_rounds {commands : List Command}
    (compiled : Script.compile commands = .ok script) (unlimited : world.IsUnlimited) :
    (∀ count pass, body.rounds params count run (world.resetTemporaries run.context) = pass →
      (pass.leaves = false → ∃ last steps, count ≤ steps ∧ run.position.Again last ∧
        ComesTo run world steps pass.events (pass.actor.placed last) pass.world) ∧
      (pass.leaves = true → ∃ exit steps,
        run.position.Behind exit (body.flatten (run.indent + 1)).length ∧
        GoesOn run world tail steps pass exit)) ∧
    ((∀ count, (body.rounds params count run
        (world.resetTemporaries run.context)).leaves = false) →
      ∀ fuel, Thread.update { root := run } fuel world = none) := by
  have start : (world.resetTemporaries run.context).IsUnlimited :=
    ⟨unlimited.off, unlimited.unlimited⟩
  have rounds (count : Nat) := LoopBody.rounds_run compiled acts start onLoop count
  have inside : run.pointer < script.size := onLoop.inside
  constructor
  · rintro count pass rfl
    obtain ⟨again, behind, goesOn, _⟩ := rounds count
    constructor
    · intro stays
      obtain ⟨last, again, walks⟩ := again stays
      exact ⟨last, _, Nat.le_mul_of_pos_right count (Nat.succ_pos _), again,
        comesTo_of_walk acts inside shallow walks⟩
    · intro leaves
      obtain ⟨exit, steps, behind, walks⟩ := behind leaves
      exact ⟨exit, steps, behind, goesOn_of_walk acts shallow onLoop goesOn
        (body.rounds_sameRun params count run _) behind walks⟩
  · intro never fuel
    obtain ⟨last, _, walks⟩ := (rounds (fuel + 1)).again (never (fuel + 1))
    have longer := Nat.le_mul_of_pos_right (fuel + 1) (Nat.succ_pos
      (body.flatten (run.position.indent + 1)).length)
    rw [update_of_acts acts inside shallow]
    exact congrArg (Option.map Run.conclude)
      ((walks (Thread.calleeRunner { root := run } fuel)).exhausts longer 0 [])

end Rounds

/-- Between calls, a run that is running and not waiting is held up by nothing. -/
theorem Thread.Consistent.isActor {run : Activation} {thread : Thread}
    (consistent : thread.Consistent run) (running : thread.root.isRunning = true)
    (idle : thread.root.isWaiting = false) : thread.root.IsActor run.script where
  script := consistent.sameRun.script
  awake := consistent.waits.isAwake idle
  running := running
  free := consistent.inPlace.free
  unpaused := consistent.unpaused.2

/-- A knock on a door. Unless somebody waves, nobody knocks again. -/
def knocking : LoopBody :=
  .run (.sound "knock")
    (.chain .firstSet .done (.otherwise .null (.leave .null (.run (.sound "again") .done)))
      (.run (.sound "pause") .done))

private def played (name : String) : Option Instruction :=
  some (.playSound (.literal (.text name)))

/-- The loop around the knocking, and a label behind it. -/
def knockingThenLabel : Script where
  commands := ({ id := "Loop" } :: (knocking.flatten 1 ++ [{ id := "Label" }])).toArray
  instructions := #[some .loop, played "knock", some (.condition Test.firstSet.condition),
    some .conditionElse, some .breakLoop, played "again", played "pause", some .label]
  jumpTargets := Array.replicate 8 none

/-- Nobody waves, so the loop is ended in the first round, before the other two sounds. -/
theorem knocking_ended : ∃ exit steps pass,
    Reached (usher knockingThenLabel) none { root := (usher knockingThenLabel).start }
      (World.empty.withBudget none) ∧
    knocking.rounds .null 1 (usher knockingThenLabel).start
      ((World.empty.withBudget none).resetTemporaries { id := "hall" }) = pass ∧
    pass.events.length = 4 ∧ (usher knockingThenLabel).start.position.Behind exit 6 ∧
    ComesTo (usher knockingThenLabel).start (World.empty.withBudget none) steps pass.events
      (pass.actor.placed exit) pass.world := by
  have compiled : Script.compile knockingThenLabel.commands.toList = .ok knockingThenLabel := by
    rfl
  have reached : Reached (usher knockingThenLabel) none
      { root := (usher knockingThenLabel).start } (World.empty.withBudget none) :=
    .start (.anew _)
  have acts : (usher knockingThenLabel).start.IsActor knockingThenLabel :=
    reached.consistent.isActor rfl rfl
  have shallow : (usher knockingThenLabel).start.callers.length < maxCallDepth := by
    show 0 < maxCallDepth
    decide
  have onLoop : (usher knockingThenLabel).start.position.OnLoop knockingThenLabel .null knocking
      [{ id := "Label" }] :=
    ⟨rfl, by rintro next ⟨⟩; rfl, fun _ _ => rfl⟩
  have unlimited : (World.empty.withBudget none).IsUnlimited := ⟨rfl, rfl⟩
  obtain ⟨rounds, _⟩ := LoopBody.update_rounds acts shallow onLoop compiled unlimited
  have ended : (knocking.rounds .null 1 (usher knockingThenLabel).start
      ((World.empty.withBudget none).resetTemporaries { id := "hall" })).leaves = true ∧
    (knocking.rounds .null 1 (usher knockingThenLabel).start
      ((World.empty.withBudget none).resetTemporaries { id := "hall" })).events.length = 4 := by
    decide +kernel
  obtain ⟨exit, steps, behind, goesOn⟩ := (rounds 1 _ rfl).2 ended.1
  exact ⟨exit, steps, _, reached, rfl, ended.2, behind, goesOn.next nofun⟩

/-- A loop that is ended at once, at the end of the script. -/
def endedAtOnce : Script where
  commands := #[{ id := "Loop" }, { id := "BreakLoop", indent := 1 }]
  instructions := #[some .loop, some .breakLoop]
  jumpTargets := #[none, none]

/-- A run that starts over at its end is not finished behind its last loop. -/
theorem repeating_loop_not_finished :
    ¬ ∀ (body : LoopBody) (params : Document) (commands : List Command) (script : Script)
      (run : Activation) (world : World),
      Script.compile commands = .ok script → run.IsActor script → run.callers = [] →
      world.IsUnlimited → run.position.OnLoop script params body [] →
      (∀ level, level < run.indent → run.loopStart? level = none) →
      (body.rounds params 1 run (world.resetTemporaries run.context)).leaves = true →
      ∀ fuel update, Thread.update { root := run } fuel world = some update →
        update.progress = .finished := by
  intro always
  let run : Activation :=
    Activation.start { context := { id := "scene" }, script := endedAtOnce, repeats := true }
  have compiled : Script.compile endedAtOnce.commands.toList = .ok endedAtOnce := by
    rfl
  have acts : run.IsActor endedAtOnce := ⟨rfl, Activation.isAwake_start _, rfl, rfl, rfl⟩
  have onLoop : run.position.OnLoop endedAtOnce .null (.leave .null .done) [] :=
    ⟨rfl, nofun, fun _ _ => rfl⟩
  have ran : (Thread.update { root := run } 2 (World.empty.withBudget none)).any
      (fun update => decide (update.progress = .running)) = true := by
    decide +kernel
  obtain ⟨update, updated, running⟩ := (Option.any_eq_true _ _).mp ran
  have finished := always _ _ _ _ run (World.empty.withBudget none) compiled acts rfl ⟨rfl, rfl⟩
    onLoop nofun rfl 2 update updated
  cases (decide_eq_true_eq.mp running).symm.trans finished

end NovelEngine
