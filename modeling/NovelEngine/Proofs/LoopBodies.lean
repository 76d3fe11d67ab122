import NovelEngine.Proofs.Programs

/-!
Contract: the bodies of loops as trees.

Owns:
- trees of plain commands, commands that end the loop and chains of conditions, and their
  evaluation, which stops where the loop is ended;
- their command lists;
- blocks as bodies that end no loop.

Does not own: how a run executes a command list, and how often.
-/

namespace NovelEngine

mutual

/-- Plain commands, commands that end the loop and chains of conditions, one after the other. -/
inductive LoopBody where
  | done
  | run (command : PlainCommand) (rest : LoopBody)
  | leave (params : Document) (rest : LoopBody)
  | chain (test : Test) (body : LoopBody) (others : LoopBranches) (rest : LoopBody)

/-- What follows the first branch of a chain. -/
inductive LoopBranches where
  | close
  | elseIf (test : Test) (body : LoopBody) (others : LoopBranches)
  | otherwise (params : Document) (body : LoopBody)

end

/-! ## Evaluation -/

/-- An evaluation that may have ended the loop around it. -/
structure Pass extends Evaluation where
  leaves : Bool := false

/-- Goes on where a pass has come to, unless it has ended the loop. -/
def Pass.andThen (pass : Pass) (next : Activation → World → Pass) : Pass :=
  if pass.leaves then pass
  else
    let later := next pass.actor pass.world
    { later with events := pass.events ++ later.events }

/-- The condition is evaluated, and one of two continuations follows. -/
def Test.pass (test : Test) (holding failing : Activation → World → Pass)
    (actor : Activation) (world : World) : Pass :=
  Pass.andThen { events := [.tested test.condition world], actor, world }
    (if test.condition.holds world.store actor.context then holding else failing)

mutual

/-- Runs the commands of a body in order, up to the first one that ends the loop, and of each
chain the body of the first condition that holds. -/
def LoopBody.evaluate : LoopBody → Activation → World → Pass
  | .done => fun actor world => { actor, world }
  | .run command rest => fun actor world =>
      Pass.andThen { command.evaluate actor world with } rest.evaluate
  | .leave params _ => fun actor world =>
      { events := [.ran "BreakLoop" params world], actor, world, leaves := true }
  | .chain test body others rest => fun actor world =>
      (test.pass body.evaluate others.evaluate actor world).andThen rest.evaluate

/-- Goes on with a chain of which no condition has held so far. -/
def LoopBranches.evaluate : LoopBranches → Activation → World → Pass
  | .close => fun actor world => { actor, world }
  | .elseIf test body others => test.pass body.evaluate others.evaluate
  | .otherwise _ body => body.evaluate

end

namespace Pass

variable {pass : Pass} {next : Activation → World → Pass}

theorem andThen_of_leaves (leaves : pass.leaves = true) : pass.andThen next = pass :=
  if_pos leaves

theorem andThen_of_stays (stays : pass.leaves = false) :
    pass.andThen next =
      { next pass.actor pass.world with
        events := pass.events ++ (next pass.actor pass.world).events } := by
  unfold andThen
  rw [stays]
  rfl

/-- What ends the loop later on ends it in the whole. -/
theorem leaves_andThen (stays : pass.leaves = false) :
    (pass.andThen next).leaves = (next pass.actor pass.world).leaves := by
  rw [andThen_of_stays stays]

theorem andThen_sameRun {actor : Activation} (first : actor.SameRun pass.actor)
    (second : pass.actor.SameRun (next pass.actor pass.world).actor) :
    actor.SameRun (pass.andThen next).actor := by
  cases left : pass.leaves with
  | true =>
      rw [andThen_of_leaves left]
      exact first
  | false =>
      rw [andThen_of_stays left]
      exact first.trans second

end Pass

theorem Test.pass_sameRun (test : Test) {holding failing : Activation → World → Pass}
    {actor : Activation} {world : World} (left : actor.SameRun (holding actor world).actor)
    (right : actor.SameRun (failing actor world).actor) :
    actor.SameRun (test.pass holding failing actor world).actor := by
  apply Pass.andThen_sameRun (.refl actor)
  split
  · exact left
  · exact right

section Tests

variable (test : Test) {holding failing : Activation → World → Pass} {actor : Activation}
  {world : World}

/-- A test ends the loop exactly if the branch does that it chooses. -/
theorem Test.leaves_of_holds (holds : test.condition.holds world.store actor.context = true) :
    (test.pass holding failing actor world).leaves = (holding actor world).leaves := by
  unfold Test.pass
  rw [Pass.leaves_andThen rfl, if_pos holds]

theorem Test.leaves_of_fails (fails : test.condition.holds world.store actor.context = false) :
    (test.pass holding failing actor world).leaves = (failing actor world).leaves := by
  unfold Test.pass
  rw [Pass.leaves_andThen rfl, fails]
  rfl

end Tests

mutual

theorem LoopBody.evaluate_sameRun (body : LoopBody) (actor : Activation) (world : World) :
    actor.SameRun (body.evaluate actor world).actor := by
  cases body with
  | done => exact .refl actor
  | run command rest =>
      exact Pass.andThen_sameRun (command.evaluate_sameRun actor world)
        (LoopBody.evaluate_sameRun rest _ _)
  | leave params rest => exact .refl actor
  | chain test body others rest =>
      have chosen := test.pass_sameRun (LoopBody.evaluate_sameRun body actor world)
        (LoopBranches.evaluate_sameRun others actor world)
      exact Pass.andThen_sameRun chosen (LoopBody.evaluate_sameRun rest _ _)

theorem LoopBranches.evaluate_sameRun (branches : LoopBranches) (actor : Activation)
    (world : World) : actor.SameRun (branches.evaluate actor world).actor := by
  cases branches with
  | close => exact .refl actor
  | elseIf test body others =>
      exact test.pass_sameRun (LoopBody.evaluate_sameRun body actor world)
        (LoopBranches.evaluate_sameRun others actor world)
  | otherwise params body => exact LoopBody.evaluate_sameRun body actor world

end

/-! ## Command lists -/

mutual

/-- The command list of a body. Every branch is indented by one more than its chain. -/
def LoopBody.flatten (indent : Nat) : LoopBody → List Command
  | .done => []
  | .run command rest => command.line indent :: rest.flatten indent
  | .leave params rest => { id := "BreakLoop", indent, params } :: rest.flatten indent
  | .chain test body others rest =>
      { id := "Condition", indent, params := test.params } ::
        (body.flatten (indent + 1) ++ (others.flatten indent ++ rest.flatten indent))

def LoopBranches.flatten (indent : Nat) : LoopBranches → List Command
  | .close => []
  | .elseIf test body others =>
      { id := "ConditionElseIf", indent, params := test.params } ::
        (body.flatten (indent + 1) ++ others.flatten indent)
  | .otherwise params body =>
      { id := "ConditionElse", indent, params } :: body.flatten (indent + 1)

end

mutual

theorem LoopBody.indent_le (body : LoopBody) (indent : Nat) :
    ∀ command ∈ body.flatten indent, indent ≤ command.indent := by
  cases body with
  | done => exact List.forall_mem_nil _
  | run command rest =>
      exact List.forall_mem_cons.mpr ⟨Nat.le_refl indent, LoopBody.indent_le rest indent⟩
  | leave params rest =>
      exact List.forall_mem_cons.mpr ⟨Nat.le_refl indent, LoopBody.indent_le rest indent⟩
  | chain test body others rest =>
      refine List.forall_mem_cons.mpr ⟨Nat.le_refl indent, List.forall_mem_append.mpr ⟨?_, ?_⟩⟩
      · intro command member
        exact Nat.le_of_succ_le (LoopBody.indent_le body (indent + 1) command member)
      · exact List.forall_mem_append.mpr
          ⟨LoopBranches.indent_le others indent, LoopBody.indent_le rest indent⟩

theorem LoopBranches.indent_le (branches : LoopBranches) (indent : Nat) :
    ∀ command ∈ branches.flatten indent, indent ≤ command.indent := by
  cases branches with
  | close => exact List.forall_mem_nil _
  | elseIf test body others =>
      refine List.forall_mem_cons.mpr ⟨Nat.le_refl indent, List.forall_mem_append.mpr ⟨?_, ?_⟩⟩
      · intro command member
        exact Nat.le_of_succ_le (LoopBody.indent_le body (indent + 1) command member)
      · exact LoopBranches.indent_le others indent
  | otherwise params body =>
      refine List.forall_mem_cons.mpr ⟨Nat.le_refl indent, ?_⟩
      intro command member
      exact Nat.le_of_succ_le (LoopBody.indent_le body (indent + 1) command member)

end

/-! ## Blocks -/

mutual

/-- A block is a body that ends no loop. -/
def Block.inLoop : Block → LoopBody
  | .done => .done
  | .run command rest => .run command rest.inLoop
  | .chain test body others rest => .chain test body.inLoop others.inLoop rest.inLoop

def Branches.inLoop : Branches → LoopBranches
  | .close => .close
  | .elseIf test body others => .elseIf test body.inLoop others.inLoop
  | .otherwise body => .otherwise .null body.inLoop

end

mutual

theorem Block.flatten_inLoop (block : Block) (indent : Nat) :
    block.inLoop.flatten indent = block.flatten indent := by
  cases block with
  | done => rfl
  | run command rest =>
      exact congrArg (command.line indent :: ·) (Block.flatten_inLoop rest indent)
  | chain test body others rest =>
      unfold Block.inLoop LoopBody.flatten Block.flatten
      rw [Block.flatten_inLoop body, Branches.flatten_inLoop others, Block.flatten_inLoop rest]

theorem Branches.flatten_inLoop (branches : Branches) (indent : Nat) :
    branches.inLoop.flatten indent = branches.flatten indent := by
  cases branches with
  | close => rfl
  | elseIf test body others =>
      unfold Branches.inLoop LoopBranches.flatten Branches.flatten
      rw [Block.flatten_inLoop body, Branches.flatten_inLoop others]
  | otherwise body =>
      unfold Branches.inLoop LoopBranches.flatten Branches.flatten
      rw [Block.flatten_inLoop body]

end

theorem Test.pass_inLoop (test : Test) {holding failing : Activation → World → Pass}
    {body others : Activation → World → Evaluation} {actor : Activation} {world : World}
    (left : holding actor world = { body actor world with })
    (right : failing actor world = { others actor world with }) :
    test.pass holding failing actor world = { test.evaluate body others actor world with } := by
  unfold Test.pass Test.evaluate Evaluation.andThen
  rw [Pass.andThen_of_stays rfl]
  dsimp only
  split
  · rw [left]
  · rw [right]

mutual

theorem Block.evaluate_inLoop (block : Block) (actor : Activation) (world : World) :
    block.inLoop.evaluate actor world = { block.evaluate actor world with } := by
  cases block with
  | done => rfl
  | run command rest =>
      unfold Block.inLoop LoopBody.evaluate Block.evaluate
      rw [Pass.andThen_of_stays rfl, Block.evaluate_inLoop rest]
      rfl
  | chain test body others rest =>
      unfold Block.inLoop LoopBody.evaluate Block.evaluate
      rw [test.pass_inLoop (Block.evaluate_inLoop body actor world)
        (Branches.evaluate_inLoop others actor world), Pass.andThen_of_stays rfl,
        Block.evaluate_inLoop rest]
      rfl

theorem Branches.evaluate_inLoop (branches : Branches) (actor : Activation) (world : World) :
    branches.inLoop.evaluate actor world = { branches.evaluate actor world with } := by
  cases branches with
  | close => rfl
  | elseIf test body others =>
      exact test.pass_inLoop (Block.evaluate_inLoop body actor world)
        (Branches.evaluate_inLoop others actor world)
  | otherwise body => exact Block.evaluate_inLoop body actor world

end

end NovelEngine
