import NovelEngine.Proofs.CommandBudget
import NovelEngine.Proofs.Locals

/-!
Contract: the chain of calls and its limit.

Owns:
- what a run knows of the runs that wait for it, in every state of a game;
- the bound on the depth of calls;
- what becomes of a call at the limit.

Does not own: calls below the limit, which open one more level.

A run stores the contexts of its callers when it is created and never again, while the
chain above it grows and shrinks. The two agree, since a run goes away before its caller
goes on.
-/

namespace NovelEngine

/-! ## The callers of a run -/

/-- In a chain of calls every run lists the runs above it, behind the callers that the
outermost one has already. -/
theorem Thread.Linked.callers_eq {thread : Thread} (linked : thread.Linked)
    {above below : List Activation} {run : Activation}
    (chain : thread.chain = above ++ run :: below) :
    run.callers = thread.root.callers ++ above.map Activation.context := by
  induction linked generalizing above with
  | @single root consistent =>
      cases above with
      | nil =>
          obtain ⟨same, _⟩ := List.cons.inj chain
          rw [← same, List.map_nil, List.append_nil]
      | cons first rest =>
          obtain ⟨_, impossible⟩ := List.cons.inj chain
          simp at impossible
  | @calling root callee rest consistent callers linked inductionHypothesis =>
      cases above with
      | nil =>
          obtain ⟨same, _⟩ := List.cons.inj chain
          rw [← same, List.map_nil, List.append_nil]
      | cons first others =>
          obtain ⟨rfl, inner⟩ := List.cons.inj chain
          calc run.callers
              = callee.callers ++ others.map Activation.context := inductionHypothesis inner
            _ = root.callers ++ [root.context] ++ others.map Activation.context := by
                rw [callers]
            _ = root.callers ++ (root :: others).map Activation.context := by
                rw [List.append_assoc, List.map_cons, List.singleton_append]

/-! ## The depth of calls in a game -/

/-- Every run of the game may be advanced: the depth of calls is kept. -/
def Game.Shallow (game : Game) : Prop :=
  ∀ run ∈ game.live, run.callers.length < maxCallDepth

/-- A run that nobody waits for is as shallow as can be. -/
theorem Activation.shallow_of_callers {run : Activation} (alone : run.callers = []) :
    run.callers.length < maxCallDepth := by
  rw [alone]
  decide

theorem Thread.shallow_started (context : Context) (script : Script) (repeats : Bool) :
    Thread.Shallow { root := { context, script, repeats : Activation }.start } :=
  List.forall_mem_singleton.mpr (Activation.shallow_of_callers rfl)

/-- Runs that are what other runs are have the same depth. -/
theorem shallow_of_identities {runs others : List Activation}
    (same : others.map Activation.identity = runs.map Activation.identity)
    (shallow : ∀ run ∈ runs, run.callers.length < maxCallDepth) :
    ∀ run ∈ others, run.callers.length < maxCallDepth := by
  intro run member
  have listed : run.identity ∈ runs.map Activation.identity :=
    same ▸ List.mem_map_of_mem member
  obtain ⟨before, inside, identity⟩ := List.mem_map.mp listed
  have callers := (Activation.sameRun_iff.mpr identity).callers
  rw [← callers]
  exact shallow before inside

/-- The threads beside the scene keep the depth of calls. -/
theorem updateParallel_shallow {fuel : Nat} {threads kept : List Thread} {world next : World}
    {notices : List Notice} (shallow : ∀ thread ∈ threads, thread.Shallow)
    (updated : Game.updateParallel fuel threads world = some (kept, next, notices)) :
    ∀ thread ∈ kept, thread.Shallow := by
  induction threads generalizing world kept next notices with
  | nil =>
      cases updated
      exact shallow
  | cons thread rest inductionHypothesis =>
      obtain ⟨here, others⟩ := List.forall_mem_cons.mp shallow
      obtain ⟨update, later, told, ran, outcome⟩ := Game.updateParallel_cases updated
      rcases outcome with ⟨_, rfl, ranRest⟩ | ⟨_, rfl, ranRest⟩
      · exact List.forall_mem_cons.mpr ⟨here.update ran, inductionHypothesis others ranRest⟩
      · exact inductionHypothesis others ranRest

namespace Game

theorem shallow_iff {game : Game} :
    game.Shallow ↔ game.main.Shallow ∧ ∀ thread ∈ game.parallel, thread.Shallow := by
  unfold Game.Shallow live chains
  simp only [List.forall_mem_append, List.forall_mem_flatMap]
  rfl

theorem Shallow.runThreads {game : Game} (shallow : game.Shallow) (sound : game.Sound)
    {fuel : Nat} {frame : Tick} (ran : game.runThreads fuel = some frame) :
    frame.game.Shallow := by
  obtain ⟨update, parallel, world, _, updated, ranParallel, adopted⟩ := runThreads_cases ran
  obtain ⟨main, beside⟩ := shallow_iff.mp shallow
  obtain ⟨advances, _⟩ := sound.main.update sound.fresh updated
  obtain ⟨_, fresh, _⟩ := updateParallel_keeps sound.parallel advances.fresh ranParallel
  have others := updateParallel_shallow beside ranParallel
  rw [adopted, shallow_iff]
  refine ⟨main.update updated, ?_⟩
  intro thread member
  rcases List.mem_append.mp member with old | new
  · exact others thread old
  · obtain ⟨spawned, inside, rfl⟩ := List.mem_map.mp new
    obtain ⟨context, script, rfl⟩ := fresh spawned inside
    exact Thread.shallow_started context script false

theorem Shallow.notify {game next : Game} (shallow : game.Shallow) {event : HostEvent}
    {notices : List Notice} (accepted : game.notify? event = some (next, notices)) :
    next.Shallow :=
  shallow_of_identities (notify?_live accepted) shallow

theorem Shallow.followSceneRequest {game : Game} (shallow : game.Shallow) :
    game.followSceneRequest.1.Shallow := by
  have unrequested : game.withoutRequest.Shallow := shallow
  rcases game.followSceneRequest_cases with
    ⟨uid, scene, _, _, equal⟩ | ⟨_, same | idle | ⟨notices, accepted⟩⟩
  · rw [equal]
    refine List.forall_mem_append.mpr ⟨Thread.shallow_started _ _ false, ?_⟩
    have others : ∀ run ∈ chains game.parallel, run.callers.length < maxCallDepth :=
      (List.forall_mem_append.mp shallow).2
    exact shallow_of_identities (notifyAll_identities _ _ _) others
  · rw [same]
    exact shallow
  · rw [idle]
    exact unrequested
  · exact unrequested.notify accepted

theorem start_shallow {host : Host} {project : Project} {game : Game}
    {notices : List Notice} (started : host.start project = .ok (game, notices)) :
    game.Shallow := by
  obtain ⟨loading, uid, scene, _, _, rfl⟩ := Host.start_cases started
  refine shallow_iff.mpr ⟨Thread.shallow_started _ _ _, fun thread member => ?_⟩
  obtain ⟨event, _, rfl⟩ := List.mem_map.mp member
  exact Thread.shallow_started _ _ _

theorem Course.shallow {host : Host} {project : Project} {game : Game}
    {states frames : List Game} (course : Course host project game states frames) :
    game.Shallow := by
  induction course with
  | start started => exact start_shallow started
  | tick course ran ticked inductionHypothesis =>
      rw [tick_game ran ticked]
      exact (inductionHypothesis.runThreads course.sound ran).followSceneRequest
  | notify _ accepted inductionHypothesis => exact inductionHypothesis.notify accepted

end Game

/-! ## Calls at the limit -/

/-- Whether the instruction calls a script that the world knows and waits for its end. -/
def Instruction.callsKnown (world : World) : Instruction → Bool
  | .callEvent id _ waits => waits && (world.board.events.find? id).isSome
  | .callScene uid => (world.scenes.find? uid).isSome
  | _ => false

/-- Two states of a run that wait for the same thing, if for anything. -/
structure Activation.SameWait (before after : Activation) : Prop where
  waiting : after.isWaiting = before.isWaiting
  counter : after.waitCounter = before.waitCounter
  reason : after.waitingFor = before.waitingFor
  forBox : after.isWaitingForMessage = before.isWaitingForMessage

namespace Activation

variable {activation : Activation} {world : World}

theorem stepPast_sameWait (activation : Activation) :
    activation.SameWait activation.stepPast := by
  obtain ⟨pointer, indent, equal⟩ := activation.stepPast_eq
  rw [equal]
  exact ⟨rfl, rfl, rfl, rfl⟩

theorem mayCall_of_deepest (deepest : activation.callers.length + 1 = maxCallDepth) :
    activation.mayCall = false := by
  unfold mayCall
  rw [deepest]
  rfl

/-- At the limit a call fails before anything is prepared for the called script. -/
theorem perform_deepest (deepest : activation.callers.length + 1 = maxCallDepth)
    {instruction : Instruction} (known : instruction.callsKnown world = true) (id : String) :
    activation.perform world id instruction =
      .failed activation world (.callDepth maxCallDepth) := by
  have full := mayCall_of_deepest deepest
  cases instruction with
  | callEvent event parameters wait =>
      simp only [Instruction.callsKnown, Bool.and_eq_true] at known
      obtain ⟨waits, present⟩ := known
      obtain ⟨source, found⟩ := Option.isSome_iff_exists.mp present
      simp [perform, callEvent, found, waits, full]
  | callScene uid =>
      obtain ⟨scene, found⟩ := Option.isSome_iff_exists.mp known
      simp [perform, callScene, found, full]
  | _ => cases known

end Activation

/-- Executing such a call is reported as a failure, and all else is the step past it. -/
theorem Thread.execute_deepest {thread : Thread} {world : World} (runCallee : CalleeRunner)
    (deepest : thread.root.callers.length + 1 = maxCallDepth) {index : Nat} {command : Command}
    (found : thread.root.script.command? index = some command)
    (current : command.indent = thread.root.indent)
    (plays : world.config.preview = true → thread.root.preview.cursor ≠ some index)
    {instruction : Instruction}
    (decoded : thread.root.script.instruction? index = some instruction)
    (known : instruction.callsKnown world = true) :
    thread.execute world runCallee index = some {
      thread := { thread with root := thread.root.stepPast }
      world
      notices := [.commandFailed thread.root.context command.id index
        (.callDepth maxCallDepth)] } :=
  Thread.execute_failed runCallee found current plays decoded
    (Activation.perform_deepest deepest known command.id)

namespace Game

/-- In every state of a game each run lists the runs that wait for it, outermost first, and
there are fewer of them than calls may be nested. A call of a known script by a run that is
as deep as may be fails: the world stays as it is, the run steps past the call, and it
waits for nothing that it has not waited for. -/
theorem Course.calls_bounded {host : Host} {project : Project} {game : Game}
    {states frames : List Game} (course : Course host project game states frames) :
    (∀ thread ∈ game.main :: game.parallel, ∀ above run below,
        thread.chain = above ++ run :: below →
        run.callers = above.map Activation.context ∧ run.callers.length ≤ 63) ∧
      ∀ (thread : Thread) (world : World) (runCallee : CalleeRunner) (index : Nat)
        (command : Command) (instruction : Instruction),
        thread.root.callers.length = 63 →
        thread.root.script.command? index = some command →
        command.indent = thread.root.indent →
        (world.config.preview = true → thread.root.preview.cursor ≠ some index) →
        thread.root.script.instruction? index = some instruction →
        instruction.callsKnown world = true →
        thread.execute world runCallee index = some {
            thread := { thread with root := thread.root.stepPast }
            world
            notices := [.commandFailed thread.root.context command.id index (.callDepth 64)] } ∧
          thread.root.SameWait thread.root.stepPast := by
  constructor
  · intro thread member above run below chain
    have sound := course.sound
    obtain ⟨main, beside⟩ := shallow_iff.mp course.shallow
    have outermost : thread.Outermost :=
      List.forall_mem_cons.mpr ⟨sound.main, sound.parallel⟩ thread member
    have shallow : thread.Shallow := List.forall_mem_cons.mpr ⟨main, beside⟩ thread member
    have callers := outermost.linked.callers_eq chain
    rw [outermost.callers, List.nil_append] at callers
    have inside : run ∈ thread.chain := by
      rw [chain]
      exact List.mem_append_cons_self
    exact ⟨callers, Nat.le_of_lt_succ (shallow run inside)⟩
  · intro thread world runCallee index command instruction depth found current plays decoded known
    have deepest : thread.root.callers.length + 1 = maxCallDepth := by rw [depth]; rfl
    exact ⟨Thread.execute_deepest runCallee deepest found current plays decoded known,
      thread.root.stepPast_sameWait⟩

end Game

private def descend : Command :=
  { id := "CallCommonEvent", params := .record [("commonEventId", .text "echo")] }

private def askDepth : Command :=
  { id := "InputNumber"
    params := .record [("variable", .record
      [("scope", .text "local"), ("kind", .text "number"), ("index", .integer 0)])] }

/-- A scene calls an event that calls itself and then asks for a number. -/
def endlessDescent : Project where
  scenes := [{ uid := "hall", commands := [descend] }]
  events := [{ id := "echo", commands := [descend, askDepth] }]

/-- Whether the script of the run begins with a call of a known script at the indent of
the run. -/
private def callsFirst (run : Activation) (world : World) : Bool :=
  (run.script.command? 0).any (fun command =>
      decide (command.id = "CallCommonEvent") && decide (command.indent = run.indent)) &&
    (run.script.instruction? 0).any (Instruction.callsKnown world)

/-- The event is called as often as may be, and the innermost run could not call it again. -/
theorem endlessDescent_bounded :
    ∃ game states frames above run, Game.Course .plain endlessDescent game states frames ∧
      game.main.chain = above ++ [run] ∧ above.length = 63 ∧
      run.callers = above.map Activation.context ∧ run.callers.length ≤ 63 ∧
      ∀ runCallee, Thread.execute { root := run } game.world runCallee 0 = some {
          thread := { root := run.stepPast }
          world := game.world
          notices := [.commandFailed run.context "CallCommonEvent" 0 (.callDepth 64)] } ∧
        run.SameWait run.stepPast := by
  have ran : (firstFrame? .plain endlessDescent 2).any (fun (_, frame) =>
      let game := frame.followSceneRequest.1
      decide (game.main.chain.length = 64) && !game.world.config.preview &&
        (game.main.chain.getLast?).any (callsFirst · game.world)) = true := by
    decide +kernel
  obtain ⟨⟨start, frame⟩, ran, facts⟩ := (Option.any_eq_true _ _).mp ran
  simp only [Bool.and_eq_true, decide_eq_true_eq, Bool.not_eq_true', Option.any_eq_true] at facts
  obtain ⟨⟨deep, plays⟩, run, last, first⟩ := facts
  obtain ⟨above, chain⟩ := List.getLast?_eq_some_iff.mp last
  simp only [callsFirst, Bool.and_eq_true, decide_eq_true_eq, Option.any_eq_true] at first
  obtain ⟨⟨command, found, id, current⟩, instruction, decoded, known⟩ := first
  have course := Game.Course.first ran
  obtain ⟨listed, limit⟩ := Game.Course.calls_bounded course
  obtain ⟨callers, most⟩ := listed _ List.mem_cons_self above run [] chain
  have count : above.length = 63 := by
    rw [chain, List.length_append, List.length_singleton] at deep
    omega
  have depth : run.callers.length = 63 := by rw [callers, List.length_map, count]
  refine ⟨_, _, _, above, run, course, chain, count, callers, most, fun runCallee => ?_⟩
  rw [← id]
  refine limit { root := run } _ runCallee 0 command instruction depth found current ?_ decoded
    known
  intro previewing
  rw [plays] at previewing
  cases previewing

end NovelEngine
