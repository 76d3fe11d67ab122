import NovelEngine.Proofs.Decoding
import NovelEngine.Proofs.PlainCommands

/-!
Contract: programs as trees of plain commands and chains of conditions.

Owns:
- the trees and their evaluation, which takes of each chain the first branch whose
  condition holds;
- their command lists, in which every body is indented by one more than its chain, and
  that these compile.

Does not own: how a run executes a command list.
-/

namespace NovelEngine

/-! ## Programs -/

/-- A plain command. Its indent depends on where it stands. -/
structure PlainCommand where
  id : String
  params : Document := .null
  isPlain : Command.IsPlain { id, params }

/-- The parameters of a condition that can be read. -/
structure Test where
  params : Document
  condition : Condition
  decodes : Condition.decode? (if params.isNull then .record [] else params) = some condition

mutual

/-- Plain commands and chains of conditions, one after the other. -/
inductive Block where
  | done
  | run (command : PlainCommand) (rest : Block)
  | chain (test : Test) (body : Block) (others : Branches) (rest : Block)

/-- What follows the first branch of a chain. -/
inductive Branches where
  | close
  | elseIf (test : Test) (body : Block) (others : Branches)
  | otherwise (body : Block)

end

/-! ## Evaluation -/

/-- What a program does to a world, or asks of it. -/
inductive Event where
  | ran (id : String) (params : Document) (world : World)
  | tested (condition : Condition) (world : World)

/-- What has happened so far, and the run and the world in which it goes on. -/
structure Evaluation where
  events : List Event := []
  actor : Activation
  world : World

/-- Goes on where an evaluation has come to. -/
def Evaluation.andThen (evaluation : Evaluation) (next : Activation → World → Evaluation) :
    Evaluation :=
  let later := next evaluation.actor evaluation.world
  { later with events := evaluation.events ++ later.events }

namespace PlainCommand

/-- The line of a script with this command. -/
def line (command : PlainCommand) (indent : Nat) : Command where
  id := command.id
  indent
  params := command.params

/-- The run executes the command. -/
def evaluate (command : PlainCommand) (actor : Activation) (world : World) : Evaluation :=
  let events := [.ran command.id command.params world]
  match Script.instructionOf (command.line 0) with
  | none => { events, actor, world }
  | some instruction =>
      let outcome := actor.perform world command.id instruction
      { events, actor := outcome.activation, world := outcome.world }

end PlainCommand

/-- The condition is evaluated, and one of two continuations follows. -/
def Test.evaluate (test : Test) (holding failing : Activation → World → Evaluation)
    (actor : Activation) (world : World) : Evaluation :=
  Evaluation.andThen { events := [.tested test.condition world], actor, world }
    (if test.condition.holds world.store actor.context then holding else failing)

mutual

/-- Runs the commands of a block in order, and of each chain the body of the first condition
that holds. -/
def Block.evaluate : Block → Activation → World → Evaluation
  | .done => fun actor world => { actor, world }
  | .run command rest => fun actor world =>
      (command.evaluate actor world).andThen rest.evaluate
  | .chain test body others rest => fun actor world =>
      (test.evaluate body.evaluate others.evaluate actor world).andThen rest.evaluate

/-- Goes on with a chain of which no condition has held so far. -/
def Branches.evaluate : Branches → Activation → World → Evaluation
  | .close => fun actor world => { actor, world }
  | .elseIf test body others => test.evaluate body.evaluate others.evaluate
  | .otherwise body => body.evaluate

end

theorem PlainCommand.evaluate_sameRun (command : PlainCommand) (actor : Activation)
    (world : World) : actor.SameRun (command.evaluate actor world).actor := by
  unfold PlainCommand.evaluate
  dsimp only
  split
  · exact .refl actor
  · exact (actor.perform_effect world _ _).sameRun

theorem Test.evaluate_sameRun (test : Test) {holding failing : Activation → World → Evaluation}
    {actor : Activation} {world : World} (left : actor.SameRun (holding actor world).actor)
    (right : actor.SameRun (failing actor world).actor) :
    actor.SameRun (test.evaluate holding failing actor world).actor := by
  unfold Test.evaluate
  split
  · exact left
  · exact right

mutual

theorem Block.evaluate_sameRun (block : Block) (actor : Activation) (world : World) :
    actor.SameRun (block.evaluate actor world).actor := by
  cases block with
  | done => exact .refl actor
  | run command rest =>
      exact (command.evaluate_sameRun actor world).trans (Block.evaluate_sameRun rest _ _)
  | chain test body others rest =>
      have chosen := test.evaluate_sameRun (Block.evaluate_sameRun body actor world)
        (Branches.evaluate_sameRun others actor world)
      exact chosen.trans (Block.evaluate_sameRun rest _ _)

theorem Branches.evaluate_sameRun (branches : Branches) (actor : Activation) (world : World) :
    actor.SameRun (branches.evaluate actor world).actor := by
  cases branches with
  | close => exact .refl actor
  | elseIf test body others =>
      exact test.evaluate_sameRun (Block.evaluate_sameRun body actor world)
        (Branches.evaluate_sameRun others actor world)
  | otherwise body => exact Block.evaluate_sameRun body actor world

end

/-! ## Command lists -/

mutual

/-- The command list of a block. Every body is indented by one more than its chain. -/
def Block.flatten (indent : Nat) : Block → List Command
  | .done => []
  | .run command rest => command.line indent :: rest.flatten indent
  | .chain test body others rest =>
      { id := "Condition", indent, params := test.params } ::
        (body.flatten (indent + 1) ++ (others.flatten indent ++ rest.flatten indent))

def Branches.flatten (indent : Nat) : Branches → List Command
  | .close => []
  | .elseIf test body others =>
      { id := "ConditionElseIf", indent, params := test.params } ::
        (body.flatten (indent + 1) ++ others.flatten indent)
  | .otherwise body => { id := "ConditionElse", indent } :: body.flatten (indent + 1)

end

/-! ## Preparation -/

/-- The commands may follow a command at `indent` or deeper; at indent 0 they may also be the
whole script. -/
def Follows (indent : Nat) (commands : List Command) : Prop :=
  ∀ index previous, (index = 0 → indent = 0) → indent ≤ previous + 1 →
    Script.checkIndents index previous commands = .ok ()

namespace Follows

variable {indent : Nat} {commands : List Command}

theorem deeper (follows : Follows indent commands) : Follows (indent + 1) commands := by
  intro index previous first limit
  exact follows index previous (by omega) (by omega)

/-- A command may be followed by its body. -/
theorem cons {command : Command} (same : command.indent = indent)
    (follows : Follows (indent + 1) commands) : Follows indent (command :: commands) := by
  intro index previous first limit
  have fits : ¬ (if index = 0 then 0 else previous + 1) < command.indent := by
    by_cases top : index = 0
    · rw [if_pos top, same, first top]
      omega
    · rw [if_neg top, same]
      omega
  unfold Script.checkIndents
  dsimp only
  rw [if_neg fits]
  exact follows (index + 1) command.indent (by omega) (by omega)

end Follows

mutual

theorem Block.follows (block : Block) {indent : Nat} {tail : List Command}
    (follows : Follows indent tail) : Follows indent (block.flatten indent ++ tail) := by
  cases block with
  | done => exact follows
  | run command rest => exact (Block.follows rest follows).deeper.cons rfl
  | chain test body others rest =>
      have behind := Branches.follows others (Block.follows rest follows)
      have inside := Block.follows body behind.deeper
      rw [Block.flatten, List.cons_append, List.append_assoc, List.append_assoc]
      exact inside.cons rfl

theorem Branches.follows (branches : Branches) {indent : Nat} {tail : List Command}
    (follows : Follows indent tail) : Follows indent (branches.flatten indent ++ tail) := by
  cases branches with
  | close => exact follows
  | elseIf test body others =>
      have inside := Block.follows body (Branches.follows others follows).deeper
      rw [Branches.flatten, List.cons_append, List.append_assoc]
      exact inside.cons rfl
  | otherwise body => exact (Block.follows body follows.deeper).cons rfl

end

/-- The command list of a program is well indented. -/
theorem Block.compiles (block : Block) :
    ∃ script, Script.compile (block.flatten 0) = .ok script := by
  have follows : Follows 0 [] := fun _ _ _ _ => rfl
  have checked := Block.follows block follows 0 0 (fun _ => rfl) (Nat.zero_le _)
  rw [List.append_nil] at checked
  unfold Script.compile
  rw [checked]
  exact ⟨_, rfl⟩

end NovelEngine
