import NovelEngine.Proofs.BoxLock
import NovelEngine.Proofs.Calling

/-!
Contract: what happens in a thread, and what it means for the scripts in one context.

Owns:
- what can happen: commands that run, at any depth of calls, events that are heard, and
  scenes that are replaced;
- everything that happens in the update of a thread;
- what a stretch leaves of the runs and the locals of a context in which no script is started.

Does not own: games, which update several threads.
-/

namespace NovelEngine

/-! ## What happens -/

/-- The scripts that an instruction starts, called or spawned. -/
def Outcome.started (outcome : Outcome) (world : World) : List Activation :=
  outcome.callee.toList ++ outcome.world.spawned.drop world.spawned.length

/-- A command that runs: who executes it, and the world that it finds. -/
structure Deed where
  run : Activation
  world : World
  command : Command
  instruction : Instruction

namespace Deed

/-- What the command leads to, before a script that it calls has run. -/
def outcome (deed : Deed) : Outcome :=
  deed.run.perform deed.world deed.command.id deed.instruction

def started (deed : Deed) : List Activation :=
  deed.outcome.started deed.world

end Deed

/-- The command at the pointer, if it runs when it is executed. -/
def Activation.deed? (run : Activation) (world : World) : Option Deed :=
  if run.runsNext world then do
    let command ← run.script.command? run.pointer
    let instruction ← run.script.instruction? run.pointer
    return { run, world, command, instruction }
  else none

theorem Activation.deed?_world {run : Activation} {world : World} {deed : Deed}
    (due : run.deed? world = some deed) : deed.world = world := by
  unfold deed? at due
  split at due
  · obtain ⟨command, _, rest⟩ := Option.bind_eq_some_iff.mp due
    obtain ⟨instruction, _, rest⟩ := Option.bind_eq_some_iff.mp rest
    cases rest
    rfl
  · cases due

inductive Happening where
  | did (deed : Deed)
  | heard (run : Activation)
  /-- The scene is replaced by another one. -/
  | replaced (scene next : Activation)

namespace Happening

/-- The run that executes a command or hears an event. -/
def actor : Happening → List Activation
  | did deed => [deed.run]
  | heard run => [run]
  | replaced _ _ => []

/-- The scripts that are started. -/
def started : Happening → List Activation
  | did deed => deed.started
  | heard _ => []
  | replaced _ next => [next]

/-- The scene that goes away. -/
def gone : Happening → List Activation
  | did _ => []
  | heard _ => []
  | replaced scene _ => [scene]

end Happening

/-- The command of a visited state, followed by what happens in the script that it calls. -/
def happeningsAt (inside : Activation → World → List Happening) (visit : Thread × World) :
    List Happening :=
  match visit.1.root.deed? visit.2 with
  | none => []
  | some deed =>
      .did deed :: deed.outcome.callee.toList.flatMap (inside · deed.outcome.world)

/-- What happens when a run under which `room` levels of calls may be opened is advanced. -/
def advanceHappenings (fuel : Nat) : (room : Nat) → Activation → World → List Happening
  | 0 => fun _ _ => []
  | room + 1 => fun activation world =>
      (frameVisits fuel (advance fuel room) activation world).flatMap
        (happeningsAt (advanceHappenings fuel room))

/-- What happens when a thread is updated. Only its innermost run can act. -/
def Thread.happenings (thread : Thread) (fuel : Nat) (world : World) : List Happening :=
  advanceHappenings fuel thread.innermost.callRoom thread.innermost world

theorem Thread.innermost_mem_chain (thread : Thread) : thread.innermost ∈ thread.chain := by
  unfold Thread.innermost Thread.chain
  cases last : thread.callees.getLast? with
  | none => exact List.mem_cons_self
  | some run => exact List.mem_cons_of_mem _ (List.mem_of_getLast? last)

/-! ## Runs in a context -/

/-- Every run in the context is the continuation of one of the given runs. -/
def Stems (context : Context) (origins runs : List Activation) : Prop :=
  ∀ run ∈ runs, run.context = context → ∃ origin ∈ origins, origin.SameRun run

namespace Stems

variable {context : Context} {origins runs others : List Activation}

theorem of_subset (inside : runs ⊆ origins) : Stems context origins runs :=
  fun run member _ => ⟨run, inside member, .refl run⟩

theorem trans (left : Stems context origins runs) (right : Stems context runs others) :
    Stems context origins others := by
  intro run member here
  obtain ⟨between, inside, later⟩ := right run member here
  obtain ⟨origin, first, sooner⟩ := left between inside (later.context.symm.trans here)
  exact ⟨origin, first, sooner.trans later⟩

theorem append (left : Stems context origins runs) (right : Stems context origins others) :
    Stems context origins (runs ++ others) := by
  intro run member
  rcases List.mem_append.mp member with here | there
  · exact left run here
  · exact right run there

/-- Runs in other contexts need no origin. -/
theorem of_apart (apart : ∀ run ∈ runs, run.context ≠ context) : Stems context origins runs :=
  fun run member here => absurd here (apart run member)

theorem of_identities (same : others.map Activation.identity = runs.map Activation.identity) :
    Stems context runs others := by
  intro run member _
  have listed : run.identity ∈ runs.map Activation.identity :=
    same ▸ List.mem_map_of_mem member
  obtain ⟨origin, inside, equal⟩ := List.mem_map.mp listed
  exact ⟨origin, inside, Activation.sameRun_iff.mpr equal.symm⟩

end Stems

section Counts

variable {context : Context} {runs others : List Activation}

@[simp] theorem contextCount_nil : contextCount [] context = 0 :=
  List.count_nil

theorem contextCount_eq_zero (apart : ∀ run ∈ runs, run.context ≠ context) :
    contextCount runs context = 0 := by
  apply Nat.eq_zero_of_not_pos
  rw [contextCount_pos]
  intro listed
  obtain ⟨run, member, here⟩ := List.mem_map.mp listed
  exact apart run member here

theorem contextCount_of_identities
    (same : others.map Activation.identity = runs.map Activation.identity) :
    contextCount others context = contextCount runs context := by
  have contexts := congrArg (List.map Prod.fst) same
  rw [List.map_map, List.map_map] at contexts
  exact congrArg (List.count context) contexts

theorem contextCount_perm (same : runs.Perm others) :
    contextCount runs context = contextCount others context :=
  (same.map _).count_eq _

end Counts

/-! ## The conduct of a stretch -/

/-- No script is started in the context. -/
def Unstarted (context : Context) (happenings : List Happening) : Prop :=
  ∀ happening ∈ happenings, ∀ run ∈ happening.started, run.context ≠ context

theorem unstarted_append {context : Context} {first second : List Happening} :
    Unstarted context (first ++ second) ↔
      Unstarted context first ∧ Unstarted context second :=
  List.forall_mem_append

/-- What a stretch in which no script is started in the context does to it. No run in the
context comes up, whoever acts in it was there before, and the locals stay the same unless
somebody acts in it or its scene goes away. -/
structure Conduct (context : Context) (happenings : List Happening) (runs : List Activation)
    (world : World) (next : List Activation) (after : World) : Prop where
  fewer : contextCount (next ++ after.spawned) context +
      contextCount (happenings.flatMap Happening.gone) context ≤
    contextCount (runs ++ world.spawned) context
  stems : Stems context (runs ++ world.spawned) (next ++ after.spawned)
  actors : Stems context (runs ++ world.spawned) (happenings.flatMap Happening.actor)
  locals : (∀ run ∈ happenings.flatMap Happening.actor, run.context ≠ context) →
    (∀ run ∈ happenings.flatMap Happening.gone, run.context ≠ context) →
    after.locals context = world.locals context

namespace Conduct

variable {context : Context} {happenings later : List Happening}
  {runs next others last : List Activation} {world after final : World}

theorem refl (runs : List Activation) (world : World) :
    Conduct context [] runs world runs world where
  fewer := by
    simp
  stems := .of_subset (List.Subset.refl _)
  actors := .of_subset (List.nil_subset _)
  locals := fun _ _ => rfl

theorem trans (left : Conduct context happenings runs world next after)
    (right : Conduct context later next after last final) :
    Conduct context (happenings ++ later) runs world last final where
  fewer := by
    have sooner := left.fewer
    have afterwards := right.fewer
    have gone : contextCount ((happenings ++ later).flatMap Happening.gone) context =
        contextCount (happenings.flatMap Happening.gone) context +
          contextCount (later.flatMap Happening.gone) context := by
      rw [List.flatMap_append, contextCount_append]
    omega
  stems := left.stems.trans right.stems
  actors := by
    rw [List.flatMap_append]
    exact left.actors.append (left.stems.trans right.actors)
  locals := by
    rw [List.flatMap_append, List.flatMap_append, List.forall_mem_append,
      List.forall_mem_append]
    rintro ⟨idleBefore, idleAfter⟩ ⟨stayBefore, stayAfter⟩
    exact (right.locals idleAfter stayAfter).trans (left.locals idleBefore stayBefore)

/-- Only the runs themselves matter, not their order. -/
theorem perm (conduct : Conduct context happenings runs world next after)
    (before : runs.Perm others) (behind : next.Perm last) :
    Conduct context happenings others world last after where
  fewer := by
    rw [← contextCount_perm (before.append_right _), ← contextCount_perm (behind.append_right _)]
    exact conduct.fewer
  stems := by
    have origins : Stems context (others ++ world.spawned) (runs ++ world.spawned) :=
      .of_subset (before.append_right _).subset
    have ends : Stems context (next ++ after.spawned) (last ++ after.spawned) :=
      .of_subset (behind.append_right _).symm.subset
    exact (origins.trans conduct.stems).trans ends
  actors := by
    have origins : Stems context (others ++ world.spawned) (runs ++ world.spawned) :=
      .of_subset (before.append_right _).subset
    exact origins.trans conduct.actors
  locals := conduct.locals

/-- Runs that stand aside stay as they are. -/
theorem aside (conduct : Conduct context happenings runs world next after)
    (others : List Activation) :
    Conduct context happenings (others ++ runs) world (others ++ next) after where
  fewer := by
    have fewer := conduct.fewer
    simp only [List.append_assoc, contextCount_append] at fewer ⊢
    omega
  stems := by
    have inside : Stems context (others ++ runs ++ world.spawned) (runs ++ world.spawned) :=
      .of_subset (by simp [List.append_assoc])
    have staying : Stems context (others ++ runs ++ world.spawned) others :=
      .of_subset (by simp [List.append_assoc])
    rw [List.append_assoc others next]
    exact staying.append (inside.trans conduct.stems)
  actors := by
    have inside : Stems context (others ++ runs ++ world.spawned) (runs ++ world.spawned) :=
      .of_subset (by simp [List.append_assoc])
    exact inside.trans conduct.actors
  locals := conduct.locals

/-- Runs may go away. -/
theorem drop (conduct : Conduct context happenings runs world next after)
    (fewer : last.Sublist next) : Conduct context happenings runs world last after where
  fewer := by
    have count : contextCount last context ≤ contextCount next context :=
      (fewer.map _).count_le _
    have before := conduct.fewer
    simp only [contextCount_append] at before ⊢
    omega
  stems := conduct.stems.trans (.of_subset (fewer.append_right _).subset)
  actors := conduct.actors
  locals := conduct.locals

theorem congr (conduct : Conduct context happenings runs world next after)
    (same : last.map Activation.identity = next.map Activation.identity)
    (spawned : final.spawned = after.spawned)
    (locals : final.locals context = after.locals context) :
    Conduct context happenings runs world last final := by
  have joined : (last ++ final.spawned).map Activation.identity =
      (next ++ after.spawned).map Activation.identity := by
    rw [spawned, List.map_append, List.map_append, same]
  refine ⟨?_, conduct.stems.trans (.of_identities joined), conduct.actors, ?_⟩
  · rw [contextCount_of_identities joined]
    exact conduct.fewer
  · intro idle stay
    rw [locals]
    exact conduct.locals idle stay

end Conduct

/-! ## One command -/

section Instructions

variable {run : Activation} {world : World} {instruction : Instruction} {outcome : Outcome}

/-- Spawned scripts queue up behind those that were spawned before. -/
theorem Calling.spawned_eq (calling : Calling run world instruction outcome) :
    outcome.world.spawned =
      world.spawned ++ outcome.world.spawned.drop world.spawned.length := by
  cases calling with
  | apart spares => simp [spares.spawned]
  | spawnEvent _ entered =>
      rw [entered]
      simp [World.spawn, World.enterEvent, World.activate]
  | callEvent _ entered =>
      rw [entered]
      simp [World.enterEvent, World.activate]
  | callScene _ entered =>
      rw [entered]
      simp

theorem World.enterEvent_locals (world : World) {context other : Context}
    (different : other ≠ context) (id : String) (parameters : List Value) :
    (world.enterEvent context id parameters).locals other = world.locals other := by
  have parameterised := Store.bank_setBank_other (world.store.clearLocals context) different
    .local (((world.store.clearLocals context).bank context .local).withParameters parameters)
  exact parameterised.trans (Store.bank_clearLocals_other world.store different)

/-- An instruction changes the locals of the context that it runs in, and of those in which
it starts a script. -/
theorem Calling.locals_eq (calling : Calling run world instruction outcome)
    {context : Context} (apart : run.context ≠ context)
    (unstarted : ∀ started ∈ outcome.started world, started.context ≠ context) :
    outcome.world.locals context = world.locals context := by
  unfold Outcome.started at unstarted
  cases calling with
  | apart spares => exact spares.locals apart.symm
  | @spawnEvent id parameters event _ _ entered =>
      have spawned : outcome.world.spawned.drop world.spawned.length =
          [{ context := run.contextUnder event.id
             script := event.script : Activation }.start] := by
        rw [entered]
        simp [World.spawn, World.enterEvent, World.activate]
      have other := unstarted _ (List.mem_append_right _ (spawned ▸ List.mem_singleton_self _))
      rw [entered]
      exact world.enterEvent_locals other.symm id parameters
  | @callEvent _ _ event _ _ entered callee =>
      have other := unstarted _ (List.mem_append_left _ (Option.mem_toList.mpr callee))
      rw [entered]
      exact world.enterEvent_locals other.symm _ _
  | callScene _ entered => rw [entered]

end Instructions

theorem Deed.conduct (deed : Deed) {context : Context}
    (unstarted : ∀ run ∈ deed.started, run.context ≠ context) :
    Conduct context [.did deed] [deed.run] deed.world
      (deed.outcome.callee.toList ++ [deed.run]) deed.outcome.world := by
  have calling : Calling deed.run deed.world deed.instruction deed.outcome :=
    deed.run.perform_calling deed.world deed.command.id deed.instruction
  obtain ⟨called, spawned⟩ := List.forall_mem_append.mp unstarted
  refine ⟨?_, ?_, ?_, ?_⟩
  · rw [calling.spawned_eq]
    simp only [contextCount_append, contextCount_eq_zero called, contextCount_eq_zero spawned]
    simp [Happening.gone]
  · rw [calling.spawned_eq]
    have present : Stems context ([deed.run] ++ deed.world.spawned)
        ([deed.run] ++ deed.world.spawned) := .of_subset (List.Subset.refl _)
    have joined := (Stems.of_apart called).append (present.append (.of_apart spawned))
    simpa only [List.append_assoc] using joined
  · exact .of_subset (by simp [Happening.actor])
  · intro apart _
    exact calling.locals_eq (apart deed.run (by simp [Happening.actor])) unstarted

/-- Called scripts conduct themselves as what happens inside them says. -/
def CalleesConduct (context : Context) (runCallee : CalleeRunner)
    (inside : Activation → World → List Happening) : Prop :=
  ∀ callee world update, runCallee callee world = some update →
    Unstarted context (inside callee world) →
    Conduct context (inside callee world) [callee] world update.thread.chain update.world

section Commands

variable {context : Context} {runCallee : CalleeRunner}
  {inside : Activation → World → List Happening}

/-- A command that runs is a deed. -/
theorem Activation.deed?_of_runs {root : Activation} {world : World} {command : Command}
    {instruction : Instruction} (found : root.script.command? root.pointer = some command)
    (current : command.indent = root.indent)
    (decoded : root.script.instruction? root.pointer = some instruction)
    (plays : ¬ (world.config.preview = true ∧ root.preview.cursor = some root.pointer)) :
    root.deed? world = some { run := root, world, command, instruction } := by
  have unpaused : (world.config.preview && root.preview.cursor = some root.pointer) = false := by
    simpa only [← Bool.not_eq_true, Bool.and_eq_true, decide_eq_true_eq] using plays
  simp [deed?, runsNext, found, current, decoded, unpaused]

/-- A command and the script that it calls. -/
private theorem called_conduct (inner : CalleesConduct context runCallee inside) {deed : Deed}
    {callee : Activation} {update : Update} (called : deed.outcome.callee = some callee)
    (ran : runCallee callee deed.outcome.world = some update)
    (unstarted : Unstarted context (.did deed :: inside callee deed.outcome.world)) :
    Conduct context (.did deed :: inside callee deed.outcome.world) [deed.run] deed.world
      (deed.run :: update.thread.chain) update.world := by
  obtain ⟨first, later⟩ := List.forall_mem_cons.mp unstarted
  have entered := deed.conduct first
  rw [called] at entered
  have ranInside := (inner callee _ update ran later).aside [deed.run]
  exact entered.trans (ranInside.perm (List.perm_append_comm) (.refl _))

theorem happeningsAt_of_idle {root : Activation} {world : World}
    (idle : root.deed? world = none) : happeningsAt inside ({ root }, world) = [] := by
  simp [happeningsAt, idle]

theorem happeningsAt_of_due {root : Activation} {world : World} {deed : Deed}
    (due : root.deed? world = some deed) :
    happeningsAt inside ({ root }, world) =
      .did deed :: deed.outcome.callee.toList.flatMap (inside · deed.outcome.world) := by
  simp [happeningsAt, due]

/-- The command at the pointer, together with the script that it calls. -/
theorem Handling.conduct (inner : CalleesConduct context runCallee inside)
    {root : Activation} {world : World} {next : Thread} {after : World}
    (handling : Handling runCallee { root } world next after)
    (plays : ¬ (world.config.preview = true ∧ root.preview.cursor = some root.pointer))
    (unstarted : Unstarted context (happeningsAt inside ({ root }, world))) :
    Conduct context (happeningsAt inside ({ root }, world)) [root] world
      (root :: next.callees) after := by
  cases handling with
  | skip found differs =>
      have idle : root.deed? world = none := by
        simp [Activation.deed?, Activation.runsNext, found, differs]
      rw [happeningsAt_of_idle idle]
      exact .refl _ _
  | ignore found _ unknown =>
      have idle : root.deed? world = none := by
        simp [Activation.deed?, found, unknown]
      rw [happeningsAt_of_idle idle]
      exact .refl _ _
  | @perform command instruction _ found current decoded performed alone =>
      subst performed
      let deed : Deed := { run := root, world, command, instruction }
      have alone : deed.outcome.callee = none := alone
      rw [happeningsAt_of_due (Activation.deed?_of_runs found current decoded plays), alone]
        at unstarted ⊢
      have entered := deed.conduct (unstarted _ List.mem_cons_self)
      rw [alone] at entered
      exact entered
  | @call command instruction _ callee _ found current decoded performed called ran =>
      subst performed
      let deed : Deed := { run := root, world, command, instruction }
      have called : deed.outcome.callee = some callee := called
      rw [happeningsAt_of_due (Activation.deed?_of_runs found current decoded plays), called]
        at unstarted ⊢
      rw [Option.toList_some, List.flatMap_singleton] at unstarted ⊢
      exact called_conduct inner called ran unstarted
  | @callThrough command instruction _ callee _ found current decoded performed called ran =>
      subst performed
      let deed : Deed := { run := root, world, command, instruction }
      have called : deed.outcome.callee = some callee := called
      rw [happeningsAt_of_due (Activation.deed?_of_runs found current decoded plays), called]
        at unstarted ⊢
      rw [Option.toList_some, List.flatMap_singleton] at unstarted ⊢
      have conduct := called_conduct inner called ran unstarted
      exact (conduct.drop (List.singleton_sublist.mpr List.mem_cons_self)).congr rfl rfl rfl

/-- Executing a command, whether it runs or not. -/
theorem Thread.execute_conduct (inner : CalleesConduct context runCallee inside)
    {root : Activation} {world : World} {run : Run} (able : root.canStep = true)
    (executes : Thread.execute { root } world runCallee root.pointer = some run)
    (unstarted : Unstarted context (happeningsAt inside ({ root }, world))) :
    Conduct context (happeningsAt inside ({ root }, world)) [root] world run.thread.chain
      run.world := by
  have sameRoot := Activation.sameRun_iff.mp (Thread.execute_step able executes).sameRun
  have chained : run.thread.chain.map Activation.identity =
      (root :: run.thread.callees).map Activation.identity :=
    congrArg (· :: _) sameRoot
  refine Conduct.congr ?_ chained rfl rfl
  rcases Thread.execute_cases able executes with
    ⟨previewing, reached, same, thread⟩ | ⟨plays, ⟨next, after, _⟩, handles, same, thread⟩
  · have idle : root.deed? world = none := by
      have reached : root.preview.cursor = some root.pointer := reached
      obtain ⟨command, found⟩ := Script.command?_of_lt (Activation.pointer_lt_of_canStep able)
      simp [Activation.deed?, Activation.runsNext, found, previewing, reached]
    rw [happeningsAt_of_idle idle, same, thread]
    exact .refl _ _
  · rw [same, thread]
    exact (Thread.handle_cases handles).conduct inner plays unstarted

/-- The commands of an update, with those of the scripts that they call. -/
theorem runCommands_conduct (inner : CalleesConduct context runCallee inside)
    {fuel executed : Nat} {thread : Thread} {world : World} {reported : List Notice} {run : Run}
    (suspended : thread.CalleesSuspend)
    (ran : runCommands runCallee fuel executed thread world reported = some run)
    (unstarted : Unstarted context
      ((commandVisits runCallee fuel executed thread world).flatMap (happeningsAt inside))) :
    Conduct context
      ((commandVisits runCallee fuel executed thread world).flatMap (happeningsAt inside))
      thread.chain world run.thread.chain run.world := by
  induction fuel generalizing executed thread world reported with
  | zero =>
      unfold runCommands at ran
      split at ran
      · cases ran
      · cases ran
        exact .refl _ _
  | succ fuel inductionHypothesis =>
      cases able : thread.root.canStep with
      | false =>
          rw [runCommands_of_unable able] at ran
          rw [commandVisits_of_unable able]
          cases ran
          exact .refl _ _
      | true =>
          -- A thread that can step has called nobody.
          have alone := Thread.callees_eq_nil suspended (Activation.isWaiting_of_canStep able)
          obtain ⟨root, callees⟩ := thread
          subst alone
          cases executes : Thread.execute { root } world runCallee root.pointer with
          | none =>
              simp only [runCommands, able, if_true, executes] at ran
              cases ran
          | some next =>
              rw [runCommands_step able executes] at ran
              rw [commandVisits_step able executes, List.flatMap_cons] at unstarted ⊢
              obtain ⟨first, later⟩ := unstarted_append.mp unstarted
              have step := Thread.execute_step able executes
              have counted : (next.thread.counted next.world.config (executed + 1)).chain.map
                  Activation.identity = next.thread.chain.map Activation.identity :=
                congrArg (· :: _) (Activation.sameRun_iff.mp
                  (next.thread.root.counted_sameRun next.world.config (executed + 1)))
              have handled := (Thread.execute_conduct inner able executes first).congr
                counted rfl rfl
              exact handled.trans (inductionHypothesis (step.calleesSuspend rfl) ran later)

end Commands

/-! ## Updates -/

section Updates

variable {context : Context} {happenings : List Happening} {runs : List Activation}
  {world : World}

/-- A run may change as long as it stays what it is. -/
theorem Conduct.congrRoot {root other : Activation} {rest : List Activation} {after : World}
    (conduct : Conduct context happenings runs world (root :: rest) after)
    (same : other.identity = root.identity) :
    Conduct context happenings runs world (other :: rest) after :=
  conduct.congr (congrArg (· :: _) same) rfl rfl

/-- A script at its end gives up its prompt or starts over. -/
theorem Conduct.conclude {run : Run}
    (conduct : Conduct context happenings runs world run.thread.chain run.world) :
    Conduct context happenings runs world run.conclude.thread.chain run.conclude.world := by
  unfold Run.conclude
  split
  · exact conduct.congr rfl rfl rfl
  · unfold Thread.restartAtEnd Thread.start
    dsimp only
    split
    · have alone := conduct.drop (List.singleton_sublist.mpr List.mem_cons_self)
      exact alone.congrRoot rfl
    · exact conduct

theorem Activation.restarted_identity (activation : Activation) :
    activation.restarted.identity = activation.identity := by
  unfold Activation.restarted
  split <;> rfl

theorem Activation.unparked_identity (activation : Activation) :
    activation.unparked.identity = activation.identity := by
  unfold Activation.unparked
  split <;> rfl

/-- A frame of a run, with the scripts that it calls. -/
theorem updateFrame_conduct {runCallee : CalleeRunner}
    {inside : Activation → World → List Happening}
    (inner : CalleesConduct context runCallee inside) {fuel : Nat} {activation : Activation}
    {update : Update} (updated : updateFrame fuel runCallee activation world = some update)
    (unstarted : Unstarted context
      ((frameVisits fuel runCallee activation world).flatMap (happeningsAt inside))) :
    Conduct context
      ((frameVisits fuel runCallee activation world).flatMap (happeningsAt inside))
      [activation] world update.thread.chain update.world := by
  have reset : Conduct context [] [activation] world [activation]
      (world.resetTemporaries activation.context) := (Conduct.refl _ _).congr rfl rfl rfl
  have begun := reset.congrRoot activation.restarted_identity
  unfold frameVisits at unstarted ⊢
  dsimp only at unstarted ⊢
  rcases updateFrame_cases updated with ⟨ends, rfl⟩ | ⟨goes, rest | ⟨moves, run, ran, rfl⟩⟩
  · simp only [ends, Bool.true_or, if_true]
    exact reset.congr rfl rfl rfl
  · obtain ⟨rests, _, same, thread⟩ := rest
    simp only [rests, Bool.or_true, if_true]
    rw [same]
    rcases thread with same | ⟨_, _, counted⟩
    · rw [same]
      exact begun
    · rw [counted]
      exact begun.congrRoot rfl
  · simp only [goes, moves, Bool.or_false, Bool.false_eq_true, if_false] at unstarted ⊢
    have entered := begun.congrRoot activation.restarted.unparked_identity
    exact (entered.trans (runCommands_conduct inner (.inl rfl) ran unstarted)).conclude

theorem calleesConduct (context : Context) (fuel room : Nat) :
    CalleesConduct context (advance fuel room) (advanceHappenings fuel room) := by
  induction room with
  | zero =>
      intro callee world update ran
      cases ran
  | succ room inductionHypothesis =>
      intro callee world update ran
      exact updateFrame_conduct inductionHypothesis ran

/-- An update of a thread, of which only the innermost run acts. -/
theorem Thread.update_conduct {thread : Thread} {fuel : Nat} {update : Update}
    (updated : thread.update fuel world = some update)
    (unstarted : Unstarted context (thread.happenings fuel world)) :
    Conduct context (thread.happenings fuel world) thread.chain world update.thread.chain
      update.world := by
  obtain ⟨root, callees⟩ := thread
  induction callees generalizing root update with
  | nil => exact calleesConduct context fuel root.callRoom root world update updated unstarted
  | cons callee rest inductionHypothesis =>
      obtain ⟨inner, ran, _, outcome⟩ := Thread.update_calling updated
      unfold Thread.happenings at unstarted ⊢
      rw [Thread.innermost_cons] at unstarted ⊢
      have conduct := (inductionHypothesis callee ran unstarted).aside [root]
      rcases outcome with ⟨_, thread, after⟩ | ⟨_, thread, after⟩
      · rw [thread, after]
        exact conduct
      · rw [thread, after]
        have alone := conduct.drop (List.singleton_sublist.mpr List.mem_cons_self)
        exact (alone.congrRoot rfl).congr rfl rfl rfl

end Updates

end NovelEngine
