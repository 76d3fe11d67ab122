import NovelEngine.Proofs.LoopBodies
import NovelEngine.Proofs.Walks

/-!
Contract: the body of a loop does what its tree says, each time a run passes through it.

Owns:
- the commands of a chain and the end of a loop as walks;
- what a run does in a block, wherever the block stands and whatever loops are open around it.

Does not own: the command that opens a loop, and how often its body runs.

A run has one indent, remembers one truth value per level and one open loop per level. It
stands for a place in the tree because of three facts: what follows a block is not indented
deeper than the block, a block changes the truth values of its own level and of deeper ones
only, and no loop is open at the level of the block or deeper.
-/

namespace NovelEngine

/-- The same position in a block one level deeper. -/
def Position.deeper (position : Position) : Position :=
  { position with indent := position.indent + 1 }

/-! ## Open loops around a block -/

/-- No loop is open at `indent` or deeper, and the loop that can be ended there is at
`outer`. -/
structure BreaksTo (indent outer : Nat) (loops : Array (Option Nat)) : Prop where
  clear : ∀ level, indent ≤ level → Slots.read none loops level = none
  outer : ∀ level, indent ≤ level → ∀ activation : Activation, activation.loops = loops →
    activation.enclosingLoop level = outer

namespace BreaksTo

variable {indent outer : Nat} {loops : Array (Option Nat)}

theorem deeper (breaks : BreaksTo indent outer loops) : BreaksTo (indent + 1) outer loops where
  clear := fun level above => breaks.clear level (Nat.le_of_succ_le above)
  outer := fun level above => breaks.outer level (Nat.le_of_succ_le above)

theorem unlooped (indent : Nat) : BreaksTo indent 0 #[] where
  clear := fun _ _ => rfl
  outer := fun level _ _ unlooped => Activation.enclosingLoop_of_unlooped unlooped level

/-- A run that leaves a block lands where it would have landed without entering it. -/
theorem landed_succ {position : Position} (breaks : BreaksTo position.indent outer position.loops)
    {actor : Activation} {script : Script} (same : actor.script = script)
    (leads : LeadsOut position.indent (script.onwards position.pointer)) :
    actor.landed position.deeper = actor.landed position := by
  obtain ⟨next, below, fromInside, fromOutside⟩ : ∃ next ≤ position.indent,
      (actor.placed position.deeper).nextIndent = next ∧
        (actor.placed position).nextIndent = next := by
    have found (place : Position) (there : place.pointer = position.pointer) :
        (actor.placed place).script.command? (actor.placed place).pointer =
          (script.onwards position.pointer).head? := by
      show actor.script.command? place.pointer = _
      rw [same, there, Script.command?_eq_head?]
    unfold Activation.nextIndent
    rw [found position.deeper rfl, found position rfl]
    cases ahead : script.onwards position.pointer with
    | nil =>
        have search := breaks.outer position.indent (Nat.le_refl _) (actor.placed position) rfl
        refine ⟨outer, ?_, ?_, search⟩
        · rw [← search]
          exact Activation.enclosingLoop_le _ _
        · exact breaks.outer _ (Nat.le_succ _) (actor.placed position.deeper) rfl
    | cons next rest =>
        rw [ahead] at leads
        exact ⟨next.indent, leads next rfl, rfl, rfl⟩
  unfold Activation.landed Activation.settleIndent
  dsimp only
  rw [fromInside, fromOutside, if_pos (show next < (actor.placed position.deeper).indent from
    Nat.lt_succ_of_le below)]
  by_cases lower : next < (actor.placed position).indent
  · rw [if_pos lower]
    rfl
  · have level : next = position.indent := Nat.le_antisymm below (Nat.le_of_not_lt lower)
    have missing : (actor.placed position.deeper).loopStart? next = none := by
      rw [level]
      exact breaks.clear position.indent (Nat.le_refl _)
    rw [if_neg lower, missing, level]
    rfl

end BreaksTo

theorem LoopBody.leadsOut (body : LoopBody) {indent : Nat} {tail : List Command}
    (leads : LeadsOut indent tail) : LeadsOut indent (body.flatten indent ++ tail) := by
  cases body with
  | done => exact leads
  | _ =>
      rintro next ⟨⟩
      exact Nat.le_refl indent

theorem LoopBranches.leadsOut (branches : LoopBranches) {indent : Nat} {tail : List Command}
    (leads : LeadsOut indent tail) : LeadsOut indent (branches.flatten indent ++ tail) := by
  cases branches with
  | close => exact leads
  | _ =>
      rintro next ⟨⟩
      exact Nat.le_refl indent

/-! ## Single commands -/

/-- Where a run stands that has noted the result of a test, before it steps on. -/
def Position.branched (position : Position) (holds : Bool) : Position :=
  { position with
    indent := if holds then position.indent + 1 else position.indent
    conditions := Slots.write false position.conditions position.indent holds }

/-- The position behind `count` commands of a block. -/
def Position.past (position : Position) (count : Nat) (later : Array Bool) : Position :=
  { position with pointer := position.pointer + count, conditions := later }

/-- The position `count` commands further on, at the level of a loop that has been ended. -/
def Position.ended (position : Position) (outer count : Nat) (later : Array Bool) :
    Position where
  pointer := position.pointer + count
  indent := outer
  conditions := later
  loops := Slots.write none position.loops outer none

theorem Position.past_past (position : Position) (first second : Nat)
    (middle later : Array Bool) :
    (position.past first middle).past second later = position.past (first + second) later := by
  unfold Position.past
  rw [Nat.add_assoc]

theorem Position.ended_past (position : Position) (outer first second : Nat)
    (middle later : Array Bool) :
    (position.past first middle).ended outer second later =
      position.ended outer (first + second) later := by
  unfold Position.past Position.ended
  rw [Nat.add_assoc]

theorem Activation.branch_placed (actor : Activation) (position : Position) (holds : Bool) :
    (actor.placed position).branch holds = actor.placed (position.branched holds) := by
  cases holds <;> rfl

theorem Test.instructionOf_condition (test : Test) (indent : Nat) :
    Script.instructionOf { id := "Condition", indent, params := test.params } =
      some (.condition test.condition) := by
  have entry : Opcode.ofId? "Condition" = some .condition := by decide
  simp [Script.instructionOf, entry, Instruction.ofParams, Instruction.decode?, test.decodes]

theorem Test.instructionOf_elseIf (test : Test) (indent : Nat) :
    Script.instructionOf { id := "ConditionElseIf", indent, params := test.params } =
      some (.conditionElseIf (some test.condition)) := by
  have entry : Opcode.ofId? "ConditionElseIf" = some .conditionElseIf := by decide
  simp [Script.instructionOf, entry, Instruction.ofParams, Instruction.decode?, test.decodes]

theorem instructionOf_else (indent : Nat) (params : Document) :
    Script.instructionOf { id := "ConditionElse", indent, params } = some .conditionElse := by
  have entry : Opcode.ofId? "ConditionElse" = some .conditionElse := by decide
  simp [Script.instructionOf, entry, Instruction.ofParams, Instruction.decode?]

theorem instructionOf_break (indent : Nat) (params : Document) :
    Script.instructionOf { id := "BreakLoop", indent, params } = some .breakLoop := by
  have entry : Opcode.ofId? "BreakLoop" = some .breakLoop := by decide
  simp [Script.instructionOf, entry, Instruction.ofParams, Instruction.decode?]

section Commands

variable {runCallee : CalleeRunner} {script : Script} {commands : List Command}
  (compiled : Script.compile commands = .ok script) {actor : Activation} {world : World}
  (acts : actor.IsActor script) (unlimited : world.IsUnlimited) {position : Position}
  {command : Command} {rest : List Command}
  (here : script.onwards position.pointer = command :: rest)
  (current : command.indent = position.indent)

include compiled acts unlimited here current

/-- A command of a chain or a loop changes the place of the run only. -/
theorem walk_flow {instruction : Instruction}
    (decoded : Script.instructionOf command = some instruction) {place : Position}
    (performs : (actor.placed position).perform world command.id instruction =
      .ofActivation world (actor.placed place)) :
    Walk runCallee (actor.placed position) world 1
      (command.event? (Slots.read false position.conditions position.indent) world
        (some instruction)).toList
      (actor.landed { place with pointer := place.pointer + 1 }) world := by
  have found := command?_placed acts here
  have known := (instruction?_placed acts here compiled).trans decoded
  have alone : ((actor.placed position).perform world command.id instruction).callee = none := by
    rw [performs]
    rfl
  obtain ⟨notices, handles⟩ :=
    @Thread.handle_alone runCallee _ world command found _ current known alone
  rw [performs] at handles
  rw [← decoded, ← event?_placed acts unlimited here compiled current]
  exact Walk.single (stepsTo_of_handle acts unlimited here acts unlimited ⟨notices, handles⟩)

/-- A test that is evaluated is followed by a step into the body or to the body. -/
theorem walk_test {instruction : Instruction} {test : Condition}
    (decoded : Script.instructionOf command = some instruction)
    (asks : command.event? (Slots.read false position.conditions position.indent) world
      (some instruction) = some (.tested test world))
    (performs : (actor.placed position).perform world command.id instruction =
      (actor.placed position).testCondition world test) :
    Walk runCallee (actor.placed position) world 1 [.tested test world]
      (actor.landed { position.branched (test.holds world.store actor.context) with
        pointer := position.pointer + 1 }) world := by
  have branches : (actor.placed position).perform world command.id instruction =
      .ofActivation world
        (actor.placed (position.branched (test.holds world.store actor.context))) := by
    rw [performs, ← Activation.branch_placed]
    rfl
  have walk := @walk_flow runCallee _ _ compiled _ _ acts unlimited _ _ _ here current
    _ decoded _ branches
  rwa [asks] at walk

/-- A command of a chain that does nothing is followed by a step to its body. -/
theorem walk_past {instruction : Instruction}
    (decoded : Script.instructionOf command = some instruction)
    (silent : command.event? (Slots.read false position.conditions position.indent) world
      (some instruction) = none)
    (performs : (actor.placed position).perform world command.id instruction =
      .ofActivation world (actor.placed position)) :
    Walk runCallee (actor.placed position) world 1 []
      (actor.landed (position.past 1 position.conditions)) world := by
  have walk := @walk_flow runCallee _ _ compiled _ _ acts unlimited _ _ _ here current
    _ decoded _ performs
  rwa [silent] at walk

end Commands

section Skipping

variable {runCallee : CalleeRunner} {script : Script} {actor : Activation} {world : World}

/-- Deeper commands are stepped over. -/
theorem walk_skips (acts : actor.IsActor script) (unlimited : world.IsUnlimited)
    {position : Position} {skipped tail : List Command}
    (deeper : ∀ command ∈ skipped, position.indent < command.indent)
    (here : script.onwards position.pointer = skipped ++ tail) :
    Walk runCallee (actor.landed position) world skipped.length []
      (actor.landed (position.past skipped.length position.conditions)) world := by
  induction skipped generalizing position with
  | nil => exact .stay _ _
  | cons command rest inductionHypothesis =>
      obtain ⟨deep, others⟩ := List.forall_mem_cons.mp deeper
      have first := @walk_skip runCallee script actor world position command (rest ++ tail) acts
        unlimited here deep
      have later := @inductionHypothesis (position.past 1 position.conditions) others
        (Script.onwards_succ here)
      have whole := first.append later
      rw [Position.past_past] at whole
      rw [actor.landed_of_deep acts.script here (Nat.le_of_lt deep), List.length_cons,
        Nat.add_comm rest.length 1]
      exact whole

end Skipping

/-! ## Blocks -/

namespace Pass

/-- How many commands a pass steps through: those of its block, and those that are left of the
loop behind the block if the loop is ended. -/
def steps (pass : Pass) (own inside : Nat) : Nat :=
  if pass.leaves then own + inside else own

/-- Where a pass leads: behind its block, or behind the loop at `outer`. -/
def target (pass : Pass) (outer : Nat) (start : Position) (own inside : Nat)
    (later : Array Bool) : Position :=
  if pass.leaves then start.ended outer (own + inside) later else start.past own later

variable {pass : Pass} {outer own inside : Nat} {start : Position} {later : Array Bool}

theorem steps_of_leaves (leaves : pass.leaves = true) : pass.steps own inside = own + inside :=
  if_pos leaves

theorem steps_of_stays (stays : pass.leaves = false) : pass.steps own inside = own := by
  unfold steps
  rw [stays]
  rfl

theorem target_of_leaves (leaves : pass.leaves = true) :
    pass.target outer start own inside later = start.ended outer (own + inside) later :=
  if_pos leaves

theorem target_of_stays (stays : pass.leaves = false) :
    pass.target outer start own inside later = start.past own later := by
  unfold target
  rw [stays]
  rfl

/-- Commands in front of a block are steps of their own. -/
theorem add_steps (pass : Pass) (before own inside : Nat) :
    before + pass.steps own inside = pass.steps (before + own) inside := by
  unfold steps
  split
  · rw [Nat.add_assoc]
  · rfl

theorem target_past (pass : Pass) (outer : Nat) (start : Position) (before own inside : Nat)
    (middle later : Array Bool) :
    pass.target outer (start.past before middle) own inside later =
      pass.target outer start (before + own) inside later := by
  unfold target
  rw [Position.ended_past, Position.past_past, Nat.add_assoc]

/-- Where a pass leads does not depend on the block it was in. -/
theorem landed_deeper (breaks : BreaksTo start.indent outer start.loops) {script : Script}
    (same : pass.actor.script = script)
    (leads : LeadsOut start.indent (script.onwards (start.pointer + own))) :
    pass.actor.landed (pass.target outer start.deeper own inside later) =
      pass.actor.landed (pass.target outer start own inside later) := by
  cases leaves : pass.leaves with
  | true =>
      rw [target_of_leaves leaves, target_of_leaves leaves]
      rfl
  | false =>
      have behind : BreaksTo (start.past own later).indent outer (start.past own later).loops :=
        breaks
      rw [target_of_stays leaves, target_of_stays leaves]
      exact behind.landed_succ same leads

end Pass

/-- Executing the commands ahead of a run is this pass, and takes the run where the pass leads.
`inside` is what is left of the loop behind these commands. As long as the loop is not ended,
only the truth values from the level of the commands on may change. -/
structure Passes (script : Script) (outer : Nat)
    (commands inside : List Command) (start : Position) (later : Array Bool)
    (actor : Activation) (world : World) (pass : Pass) : Prop where
  walk : ∀ runCallee, Walk runCallee (actor.landed start) world
    (pass.steps commands.length inside.length) pass.events
    (pass.actor.landed (pass.target outer start commands.length inside.length later)) pass.world
  below : pass.leaves = false → ∀ level, level < start.indent →
    Slots.read false later level = Slots.read false start.conditions level
  acts : pass.actor.IsActor script
  unlimited : pass.world.IsUnlimited

namespace Passes

variable {script : Script} {outer : Nat}
  {first second inside : List Command} {start : Position} {middle : Array Bool}
  {actor : Activation} {world : World} {pass : Pass}

/-- Commands that are passed one after the other, as long as the loop is not ended. -/
theorem append {next : Activation → World → Pass}
    (left : Passes script outer first (second ++ inside) start middle actor world pass)
    (right : pass.leaves = false → ∃ later, Passes script outer second inside
      (start.past first.length middle) later pass.actor pass.world
      (next pass.actor pass.world)) :
    ∃ later, Passes script outer (first ++ second) inside start later actor world
      (pass.andThen next) := by
  obtain ⟨walk, below, acts, unlimited⟩ := left
  cases leaves : pass.leaves with
  | true =>
      refine ⟨middle, ?_⟩
      rw [Pass.andThen_of_leaves leaves]
      refine ⟨?_, below, acts, unlimited⟩
      rw [Pass.steps_of_leaves leaves, Pass.target_of_leaves leaves, List.length_append,
        ← Nat.add_assoc, ← List.length_append] at walk
      rwa [Pass.steps_of_leaves leaves, Pass.target_of_leaves leaves]
  | false =>
      obtain ⟨later, behind⟩ := right leaves
      rw [Pass.steps_of_stays leaves, Pass.target_of_stays leaves] at walk
      have whole := fun runCallee => (walk runCallee).append (behind.walk runCallee)
      rw [Pass.add_steps, Pass.target_past, ← List.length_append] at whole
      refine ⟨later, ?_⟩
      rw [Pass.andThen_of_stays leaves]
      refine ⟨whole, ?_, behind.acts, behind.unlimited⟩
      intro stays level lower
      exact (behind.below stays level lower).trans (below leaves level lower)

/-- Commands of which nothing comes may follow. -/
theorem append_idle
    (left : Passes script outer first (second ++ inside) start middle actor world pass)
    (right : pass.leaves = false → ∃ later, Passes script outer second inside
      (start.past first.length middle) later pass.actor pass.world
      { actor := pass.actor, world := pass.world }) :
    ∃ later, Passes script outer (first ++ second) inside start later actor world
      pass := by
  have same : pass.andThen (fun actor world => { actor, world }) = pass := by
    cases leaves : pass.leaves with
    | true => exact Pass.andThen_of_leaves leaves
    | false =>
        rw [Pass.andThen_of_stays leaves, ← leaves]
        simp
  have whole := @append script outer first second inside start middle actor world pass
    (fun actor world => { actor, world }) left right
  rwa [same] at whole

end Passes

/-- The loop at `outer` contains a block at `indent`, and `inside` is what is left of the loop
in the commands ahead of the block. -/
structure Contains (outer indent : Nat) (inside ahead : List Command) : Prop where
  block : outer < indent
  behind : ∀ command ∈ inside, outer < command.indent
  first : inside <+: ahead

namespace Contains

variable {outer indent : Nat} {inside ahead : List Command}

theorem deeper (contains : Contains outer indent inside ahead) :
    Contains outer (indent + 1) inside ahead :=
  { contains with block := Nat.lt_succ_of_lt contains.block }

/-- The loop also contains what stands between. -/
theorem before (contains : Contains outer indent inside ahead) {between : List Command}
    (deep : ∀ command ∈ between, indent ≤ command.indent) :
    Contains outer indent (between ++ inside) (between ++ ahead) where
  block := contains.block
  behind := List.forall_mem_append.mpr
    ⟨fun command member => Nat.lt_of_lt_of_le contains.block (deep command member),
      contains.behind⟩
  first := (List.prefix_append_right_inj between).mpr contains.first

end Contains

section Blocks

variable {script : Script} {commands : List Command}
  (compiled : Script.compile commands = .ok script) {actor : Activation} {world : World}
  (acts : actor.IsActor script) (unlimited : world.IsUnlimited) {outer : Nat}
  {start : Position} {command : Command} {body inside tail : List Command}
  {noted : Array Bool} {events : List Event} (current : command.indent = start.indent)
  (here : script.onwards start.pointer = command :: (body ++ tail))
  (keeps : ∀ level, level < start.indent →
    Slots.read false noted level = Slots.read false start.conditions level)

include acts current here keeps

/-- A branch whose body is not entered. -/
theorem passes_passed (unlimited : world.IsUnlimited)
    (deeper : ∀ inner ∈ body, start.indent < inner.indent)
    (first : ∀ runCallee, Walk runCallee (actor.placed start) world 1 events
      (actor.landed (start.past 1 noted)) world) :
    Passes script outer (command :: body) inside start noted actor world
      { events, actor, world } where
  walk := by
    intro runCallee
    have behind := @walk_skips runCallee _ _ _ acts unlimited (start.past 1 noted) _ _ deeper
      (Script.onwards_succ here)
    have whole := (first runCallee).append behind
    rw [Position.past_past, List.append_nil] at whole
    rw [actor.landed_of_deep acts.script here (Nat.le_of_eq current.symm),
      Pass.steps_of_stays rfl, Pass.target_of_stays rfl, List.length_cons,
      Nat.add_comm body.length 1]
    exact whole
  below := fun _ => keeps
  acts := acts
  unlimited := unlimited

/-- A branch whose body is entered. -/
theorem passes_entered (breaks : BreaksTo start.indent outer start.loops)
    (leads : LeadsOut start.indent tail)
    (first : ∀ runCallee, Walk runCallee (actor.placed start) world 1 events
      (actor.landed (start.past 1 noted).deeper) world)
    {later : Array Bool} {next : Activation → World → Pass}
    (entered : Passes script outer body inside (start.past 1 noted).deeper later actor
      world (next actor world)) :
    Passes script outer (command :: body) inside start later actor world
      (Pass.andThen { events, actor, world } next) := by
  have breaks : BreaksTo (start.past 1 noted).indent outer (start.past 1 noted).loops := breaks
  have out : LeadsOut (start.past 1 noted).indent
      (script.onwards ((start.past 1 noted).pointer + body.length)) := by
    have ahead : script.onwards (start.pointer + 1 + body.length) = tail :=
      Script.onwards_append (Script.onwards_succ here)
    exact ahead ▸ leads
  have whole := fun runCallee => (first runCallee).append (entered.walk runCallee)
  rw [Pass.landed_deeper breaks entered.acts.script out, Pass.target_past, Pass.add_steps,
    Nat.add_comm 1 body.length] at whole
  rw [Pass.andThen_of_stays rfl]
  refine ⟨?_, ?_, entered.acts, entered.unlimited⟩
  · rw [actor.landed_of_deep acts.script here (Nat.le_of_eq current.symm)]
    exact whole
  · intro stays level lower
    exact (entered.below stays level (Nat.lt_succ_of_lt lower)).trans (keeps level lower)

end Blocks

section Trees

variable {script : Script} {commands : List Command}
  (compiled : Script.compile commands = .ok script) {outer : Nat} {start : Position}
  {inside ahead : List Command}

include compiled

/-- A plain command at the indent of its block. -/
theorem PlainCommand.passes (plain : PlainCommand) {actor : Activation} {world : World}
    (acts : actor.IsActor script) (unlimited : world.IsUnlimited)
    (here : script.onwards start.pointer = plain.line start.indent :: ahead) :
    Passes script outer [plain.line start.indent] inside start start.conditions actor
      world { plain.evaluate actor world with } where
  walk := by
    intro runCallee
    rw [actor.landed_of_deep acts.script here (Nat.le_refl _)]
    exact plain.walk compiled acts unlimited here
  below := fun _ _ _ => rfl
  acts := (plain.isActor acts unlimited).1
  unlimited := (plain.isActor acts unlimited).2

/-- A command that ends the loop: whatever is left of the loop is stepped over. -/
theorem passes_left {actor : Activation} {world : World} (acts : actor.IsActor script)
    (unlimited : world.IsUnlimited) (breaks : BreaksTo start.indent outer start.loops)
    (params : Document) {rest : List Command}
    (contains : Contains outer start.indent (rest ++ inside) (rest ++ ahead))
    (here : script.onwards start.pointer =
      { id := "BreakLoop", indent := start.indent, params } :: (rest ++ ahead)) :
    Passes script outer
      ({ id := "BreakLoop", indent := start.indent, params } :: rest) inside start
      start.conditions actor world
      { events := [.ran "BreakLoop" params world], actor, world, leaves := true } where
  walk := by
    intro runCallee
    have level : (actor.placed start).enclosingLoop start.indent = outer :=
      breaks.outer _ (Nat.le_refl _) _ rfl
    have breaks : (actor.placed start).breakLoop =
        actor.placed { start with
          indent := outer
          loops := Slots.write none start.loops outer none } := by
      rw [← level]
      rfl
    have first := @walk_flow runCallee _ _ compiled _ _ acts unlimited start _ _ here rfl _
      (instructionOf_break _ _) _ (congrArg (Outcome.ofActivation world) breaks)
    obtain ⟨tail, split⟩ := contains.first
    rw [← split] at here
    have behind := @walk_skips runCallee _ _ _ acts unlimited
      (start.ended outer 1 start.conditions) _ _ contains.behind (Script.onwards_succ here)
    have whole := first.append behind
    have there : (start.ended outer 1 start.conditions).past (rest ++ inside).length
        start.conditions = start.ended outer (1 + (rest ++ inside).length) start.conditions := by
      unfold Position.ended Position.past
      rw [Nat.add_assoc]
    have total : 1 + (rest ++ inside).length =
        (({ id := "BreakLoop", indent := start.indent, params } : Command) :: rest).length +
          inside.length := by
      rw [List.length_append, List.length_cons]
      omega
    rw [actor.landed_of_deep acts.script here (Nat.le_refl _), Pass.steps_of_leaves rfl,
      Pass.target_of_leaves rfl, ← total, ← there]
    exact whole
  below := nofun
  acts := acts
  unlimited := unlimited

/-- Once a branch of a chain is taken, no other branch is, and nothing more is asked. -/
theorem LoopBranches.passed (branches : LoopBranches) (start : Position) {actor : Activation}
    {world : World} (acts : actor.IsActor script) (unlimited : world.IsUnlimited)
    (taken : Slots.read false start.conditions start.indent = true)
    (here : script.onwards start.pointer = branches.flatten start.indent ++ ahead) :
    ∃ later, Passes script outer (branches.flatten start.indent) inside start later
      actor world { actor, world } := by
  have closed : (actor.placed start).condition start.indent = true := taken
  cases branches with
  | close => exact ⟨start.conditions, fun _ => .stay _ _, fun _ _ _ => rfl, acts, unlimited⟩
  | elseIf test body others =>
      rw [LoopBranches.flatten, List.cons_append, List.append_assoc] at here
      have first := fun runCallee => @walk_past runCallee _ _ compiled _ _ acts unlimited start
        _ _ here rfl _ (test.instructionOf_elseIf _) (if_pos taken) (if_pos closed)
      have left := @passes_passed _ _ _ acts outer start _ _
        (others.flatten start.indent ++ inside) _ _ _ rfl here (fun _ _ => rfl) unlimited
        (body.indent_le (start.indent + 1)) first
      have behind :=
        @Script.onwards_append script start.pointer (_ :: body.flatten (start.indent + 1)) _ here
      exact left.append_idle (fun _ =>
        LoopBranches.passed others (start.past _ start.conditions) acts unlimited taken behind)
  | otherwise params body =>
      have first := fun runCallee => @walk_past runCallee _ _ compiled _ _ acts unlimited start
        _ _ here rfl _ (instructionOf_else _ _) rfl
        (congrArg (Outcome.ofActivation world) (if_pos closed))
      exact ⟨_, passes_passed acts rfl here (fun _ _ => rfl) unlimited
        (body.indent_le (start.indent + 1)) first⟩

/-- A test with the branches that follow it, where the body and these branches are passed if
the run comes to them. -/
theorem Test.passes (test : Test) {actor : Activation} {world : World}
    (acts : actor.IsActor script) (unlimited : world.IsUnlimited) {command : Command}
    {instruction : Instruction} {inner : LoopBody} {others : LoopBranches}
    (current : command.indent = start.indent)
    (decoded : Script.instructionOf command = some instruction)
    (asks : command.event? (Slots.read false start.conditions start.indent) world
      (some instruction) = some (.tested test.condition world))
    (opens : (actor.placed start).perform world command.id instruction =
      (actor.placed start).testCondition world test.condition)
    (here : script.onwards start.pointer =
      command :: (inner.flatten (start.indent + 1) ++ (others.flatten start.indent ++ ahead)))
    (breaks : BreaksTo start.indent outer start.loops) (leads : LeadsOut start.indent ahead)
    (body : test.condition.holds world.store actor.context = true → ∀ noted,
      ∃ later, Passes script outer (inner.flatten (start.indent + 1))
        (others.flatten start.indent ++ inside) (start.past 1 noted).deeper later actor world
        (inner.evaluate actor world))
    (rest : test.condition.holds world.store actor.context = false → ∀ noted,
      Slots.read false noted start.indent = false →
      ∃ later, Passes script outer (others.flatten start.indent) inside
        (start.past (command :: inner.flatten (start.indent + 1)).length noted) later actor world
        (others.evaluate actor world)) :
    ∃ later, Passes script outer
      (command :: (inner.flatten (start.indent + 1) ++ others.flatten start.indent)) inside start
      later actor world (test.pass inner.evaluate others.evaluate actor world) := by
  have first := fun runCallee => @walk_test runCallee _ _ compiled _ _ acts unlimited start _ _
    here current _ _ decoded asks opens
  have behind :=
    @Script.onwards_append script start.pointer (_ :: inner.flatten (start.indent + 1)) _ here
  have keeps (holds : Bool) (level : Nat) (lower : level < start.indent) :
      Slots.read false (Slots.write false start.conditions start.indent holds) level =
        Slots.read false start.conditions level :=
    Slots.read_write_other _ _ _ (Nat.ne_of_lt lower)
  unfold Test.pass
  cases holds : test.condition.holds world.store actor.context with
  | true =>
      rw [holds] at first
      obtain ⟨later, entered⟩ := body holds _
      have whole := passes_entered acts current here (keeps true) breaks (others.leadsOut leads)
        first entered
      refine whole.append_idle (fun stays => ?_)
      have taken : Slots.read false later start.indent = true := by
        rw [entered.below stays start.indent (Nat.lt_succ_self _)]
        exact Slots.read_write_same _ _ _ _
      exact others.passed compiled (start.past _ later) entered.acts entered.unlimited taken
        behind
  | false =>
      rw [holds] at first
      have skipped := @passes_passed _ _ _ acts outer start _ _
        (others.flatten start.indent ++ inside) _ _ _ current here (keeps false) unlimited
        (inner.indent_le (start.indent + 1)) first
      exact skipped.append (fun _ => rest holds _ (Slots.read_write_same _ _ _ _))

mutual

/-- A body does what its tree says, wherever it stands. -/
theorem LoopBody.passes (body : LoopBody) (start : Position) {actor : Activation}
    {world : World} (acts : actor.IsActor script) (unlimited : world.IsUnlimited)
    {inside ahead : List Command} (breaks : BreaksTo start.indent outer start.loops)
    (leads : LeadsOut start.indent ahead)
    (here : script.onwards start.pointer = body.flatten start.indent ++ ahead)
    (contains : (body.evaluate actor world).leaves = true →
      Contains outer start.indent inside ahead) :
    ∃ later, Passes script outer (body.flatten start.indent) inside start later actor
      world (body.evaluate actor world) := by
  cases body with
  | done => exact ⟨start.conditions, fun _ => .stay _ _, fun _ _ _ => rfl, acts, unlimited⟩
  | run plain rest =>
      have first := @PlainCommand.passes _ _ compiled outer start
        (rest.flatten start.indent ++ inside) _ plain _ _ acts unlimited here
      refine first.append (fun stays => LoopBody.passes rest (start.past 1 start.conditions)
        first.acts first.unlimited breaks leads (Script.onwards_succ here) ?_)
      intro leaves
      exact contains ((Pass.leaves_andThen stays).trans leaves)
  | leave params rest =>
      exact ⟨_, passes_left compiled acts unlimited breaks params
        ((contains rfl).before (rest.indent_le start.indent)) here⟩
  | chain test body others rest =>
      rw [LoopBody.flatten, List.cons_append, List.append_assoc, List.append_assoc] at here
      have behind :=
        @Script.onwards_append script start.pointer (_ :: body.flatten (start.indent + 1)) _ here
      have out := LoopBody.leadsOut rest leads
      have within (leaves : (test.pass body.evaluate others.evaluate actor world).leaves = true) :
          Contains outer start.indent (rest.flatten start.indent ++ inside)
            (rest.flatten start.indent ++ ahead) := by
        apply Contains.before _ (rest.indent_le start.indent)
        apply contains
        show ((test.pass body.evaluate others.evaluate actor world).andThen rest.evaluate).leaves
          = true
        rw [Pass.andThen_of_leaves leaves]
        exact leaves
      obtain ⟨middle, first⟩ := @Test.passes _ _ compiled outer start
        (rest.flatten start.indent ++ inside) _ test _ _ acts unlimited _ _ body others rfl
        (test.instructionOf_condition _) rfl rfl here breaks out
        (fun holds noted => LoopBody.passes body (start.past 1 noted).deeper acts unlimited
          breaks.deeper (others.leadsOut out).deeper (Script.onwards_succ here)
          (fun leaves => ((within ((test.leaves_of_holds holds).trans leaves)).before
            (others.indent_le start.indent)).deeper))
        (fun fails noted untaken => LoopBranches.passes others (start.past _ noted) acts
          unlimited breaks out untaken behind
          (fun leaves => within ((test.leaves_of_fails fails).trans leaves)))
      rw [← List.append_assoc, ← List.cons_append] at here
      have whole := first.append (fun stays => LoopBody.passes rest (start.past _ middle)
        first.acts first.unlimited breaks leads (Script.onwards_append here)
        (fun leaves => contains ((Pass.leaves_andThen stays).trans leaves)))
      rw [List.cons_append, List.append_assoc] at whole
      exact whole

/-- So do the branches of a chain of which none has been taken. -/
theorem LoopBranches.passes (branches : LoopBranches) (start : Position) {actor : Activation}
    {world : World} (acts : actor.IsActor script) (unlimited : world.IsUnlimited)
    {inside ahead : List Command} (breaks : BreaksTo start.indent outer start.loops)
    (leads : LeadsOut start.indent ahead)
    (untaken : Slots.read false start.conditions start.indent = false)
    (here : script.onwards start.pointer = branches.flatten start.indent ++ ahead)
    (contains : (branches.evaluate actor world).leaves = true →
      Contains outer start.indent inside ahead) :
    ∃ later, Passes script outer (branches.flatten start.indent) inside start later
      actor world (branches.evaluate actor world) := by
  have closed : ¬ (actor.placed start).condition start.indent = true := by
    show ¬ Slots.read false start.conditions start.indent = true
    rw [untaken]
    exact Bool.false_ne_true
  cases branches with
  | close => exact ⟨start.conditions, fun _ => .stay _ _, fun _ _ _ => rfl, acts, unlimited⟩
  | elseIf test body others =>
      rw [LoopBranches.flatten, List.cons_append, List.append_assoc] at here
      have behind :=
        @Script.onwards_append script start.pointer (_ :: body.flatten (start.indent + 1)) _ here
      exact @Test.passes _ _ compiled outer start inside _ test _ _ acts unlimited _ _
        body others rfl (test.instructionOf_elseIf _) (if_neg closed) (if_neg closed) here breaks
        leads
        (fun holds noted => LoopBody.passes body (start.past 1 noted).deeper acts unlimited
          breaks.deeper (others.leadsOut leads).deeper (Script.onwards_succ here)
          (fun leaves => ((contains ((test.leaves_of_holds holds).trans leaves)).before
            (others.indent_le start.indent)).deeper))
        (fun fails noted untaken => LoopBranches.passes others (start.past _ noted) acts
          unlimited breaks leads untaken behind
          (fun leaves => contains ((test.leaves_of_fails fails).trans leaves)))
  | otherwise params body =>
      have enters : (actor.placed start).branchElse = actor.placed start.deeper := if_neg closed
      have first := fun runCallee => @walk_flow runCallee _ _ compiled _ _ acts unlimited start
        _ _ here rfl _ (instructionOf_else _ _) _ (congrArg (Outcome.ofActivation world) enters)
      obtain ⟨later, entered⟩ := LoopBody.passes body (start.past 1 start.conditions).deeper
        acts unlimited breaks.deeper leads.deeper (Script.onwards_succ here)
        (fun leaves => (contains leaves).deeper)
      exact ⟨later, @passes_entered _ _ _ acts outer start _ _ inside _ _ _ rfl here
        (fun _ _ => rfl) breaks leads first _ body.evaluate entered⟩

end

end Trees

end NovelEngine
