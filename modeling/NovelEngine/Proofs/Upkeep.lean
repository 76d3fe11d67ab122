import NovelEngine.Proofs.Locals

/-!
Contract: facts about single runs and about the world, kept up over the course of a game.

Owns:
- the obligations under which such facts last as long as every command is an allowed one;
- their induction over the commands of an update, the calls in it, the threads of a game and
  the passage of a game.

Does not own: any such fact.

A command is given together with the run and the world that it finds, so that the facts also
hold wherever a command was executed, at any depth of calls.
-/

namespace NovelEngine

/-- The command is the one that its run executes next. -/
def Deed.IsDue (deed : Deed) : Prop :=
  deed.run.deed? deed.world = some deed

theorem Deed.IsDue.decoded {deed : Deed} (due : deed.IsDue) :
    deed.run.script.command? deed.run.pointer = some deed.command ∧
      deed.run.script.instruction? deed.run.pointer = some deed.instruction := by
  obtain ⟨run, world, command, instruction⟩ := deed
  unfold Deed.IsDue Activation.deed? at due
  split at due
  · obtain ⟨command, found, rest⟩ := Option.bind_eq_some_iff.mp due
    obtain ⟨instruction, decoded, rest⟩ := Option.bind_eq_some_iff.mp rest
    cases rest
    exact ⟨found, decoded⟩
  · cases due

/-- What keeps up a fact about single runs and a fact about the world, as long as every
command is an allowed one. Of a run the first fact reads the script, the noted labels and what
it waits for. -/
structure Upkeep (Allowed : Deed → Prop) (Fits : Activation → Prop) (Sound : World → Prop) :
    Prop where
  congr : ∀ {run other : Activation}, Fits run → other.script = run.script →
    other.labels = run.labels →
    (other.waitingFor = run.waitingFor ∨ other.waitingFor = none) → Fits other
  reset : ∀ {world : World} (context : Context), Sound world →
    Sound (world.resetTemporaries context)
  release : ∀ {world : World} (context : Context), Sound world →
    Sound (world.releaseBox context)
  deactivate : ∀ {world : World} (id : String), Sound world → Sound (world.deactivate id)
  deed : ∀ {deed : Deed}, deed.IsDue → Allowed deed → Fits deed.run → Sound deed.world →
    Fits deed.outcome.activation ∧ Sound deed.outcome.world ∧
      ∀ callee, deed.outcome.callee = some callee → Fits callee
  deliver : ∀ {run : Activation} {world : World} {event : HostEvent} {delivery : Delivery},
    Fits run → Sound world → run.deliver? world event = some delivery →
    Fits delivery.activation ∧ Sound delivery.world

/-- Every command that ran is an allowed one. -/
def Heeded (Allowed : Deed → Prop) (happenings : List Happening) : Prop :=
  ∀ deed, .did deed ∈ happenings → Allowed deed

theorem heeded_append {Allowed : Deed → Prop} {first second : List Happening} :
    Heeded Allowed (first ++ second) ↔ Heeded Allowed first ∧ Heeded Allowed second := by
  simp only [Heeded, List.mem_append, or_imp, forall_and]

/-- The facts hold after the happenings, and did so wherever a command ran. -/
structure Kept (Fits : Activation → Prop) (Sound : World → Prop) (happenings : List Happening)
    (runs : List Activation) (world : World) : Prop where
  fits : ∀ run ∈ runs, Fits run
  sound : Sound world
  founded : ∀ deed, .did deed ∈ happenings → deed.IsDue ∧ Fits deed.run ∧ Sound deed.world

namespace Kept

variable {Fits : Activation → Prop} {Sound : World → Prop} {happenings : List Happening}
  {runs : List Activation} {world : World}

theorem root {root : Activation} {rest : List Activation}
    (kept : Kept Fits Sound happenings (root :: rest) world) : Fits root :=
  kept.fits root List.mem_cons_self

theorem silent (fits : ∀ run ∈ runs, Fits run) (sound : Sound world) :
    Kept Fits Sound [] runs world :=
  ⟨fits, sound, fun _ member => absurd member List.not_mem_nil⟩

theorem replaceRoot {root other : Activation} {rest : List Activation}
    (kept : Kept Fits Sound happenings (root :: rest) world) (fits : Fits other) :
    Kept Fits Sound happenings (other :: rest) world :=
  ⟨List.forall_mem_cons.mpr ⟨fits, (List.forall_mem_cons.mp kept.fits).2⟩, kept.sound,
    kept.founded⟩

theorem under (kept : Kept Fits Sound happenings runs world) {root : Activation}
    (fits : Fits root) : Kept Fits Sound happenings (root :: runs) world :=
  ⟨List.forall_mem_cons.mpr ⟨fits, kept.fits⟩, kept.sound, kept.founded⟩

theorem withWorld (kept : Kept Fits Sound happenings runs world) {after : World}
    (sound : Sound after) : Kept Fits Sound happenings runs after :=
  ⟨kept.fits, sound, kept.founded⟩

/-- What happened first and what happened then. -/
theorem after {earlier : List Happening} {before : List Activation} {between : World}
    (first : Kept Fits Sound earlier before between)
    (second : Kept Fits Sound happenings runs world) :
    Kept Fits Sound (earlier ++ happenings) runs world := by
  refine ⟨second.fits, second.sound, fun deed member => ?_⟩
  rcases List.mem_append.mp member with old | new
  · exact first.founded deed old
  · exact second.founded deed new

end Kept

/-! ## Commands -/

/-- Called scripts keep the facts up. -/
def CalleesKeep (Allowed : Deed → Prop) (Fits : Activation → Prop) (Sound : World → Prop)
    (runCallee : CalleeRunner) (inside : Activation → World → List Happening) : Prop :=
  ∀ callee world update, Fits callee → Sound world → runCallee callee world = some update →
    Heeded Allowed (inside callee world) →
    Kept Fits Sound (inside callee world) update.thread.chain update.world

namespace Upkeep

variable {Allowed : Deed → Prop} {Fits : Activation → Prop} {Sound : World → Prop}
  (upkeep : Upkeep Allowed Fits Sound)

include upkeep

theorem stepPast {run : Activation} (fits : Fits run) : Fits run.stepPast := by
  obtain ⟨pointer, indent, moved⟩ := run.stepPast_eq
  rw [moved]
  exact upkeep.congr fits rfl rfl (.inl rfl)

theorem counted {run : Activation} (fits : Fits run) (config : Config) (executed : Nat) :
    Fits (run.counted config executed) := by
  obtain ⟨count, frames, waiting, counted⟩ := run.counted_eq config executed
  rw [counted]
  exact upkeep.congr fits rfl rfl (.inl rfl)

theorem clearWait {run : Activation} (fits : Fits run) : Fits run.clearWait :=
  upkeep.congr fits rfl rfl (.inr rfl)

theorem restarted {run : Activation} (fits : Fits run) : Fits run.restarted := by
  unfold Activation.restarted
  split
  · exact upkeep.congr fits rfl rfl (.inr rfl)
  · exact fits

theorem unparked {run : Activation} (fits : Fits run) : Fits run.unparked := by
  unfold Activation.unparked
  split
  · exact upkeep.congr fits rfl rfl (.inl rfl)
  · exact fits

section Commands

variable {runCallee : CalleeRunner} {inside : Activation → World → List Happening}
  (inner : CalleesKeep Allowed Fits Sound runCallee inside)

include inner

/-- A command, together with the script that it calls. -/
theorem called {deed : Deed} (due : deed.IsDue) (fits : Fits deed.run) (sound : Sound deed.world)
    {callee : Activation} {update : Update} (calls : deed.outcome.callee = some callee)
    (ran : runCallee callee deed.outcome.world = some update)
    (heeded : Heeded Allowed (.did deed :: inside callee deed.outcome.world)) :
    Kept Fits Sound (.did deed :: inside callee deed.outcome.world)
      (deed.outcome.activation :: update.thread.chain) update.world := by
  have allowed : Allowed deed := heeded deed List.mem_cons_self
  obtain ⟨acted, changed, called⟩ := upkeep.deed due allowed fits sound
  have later : Heeded Allowed (inside callee deed.outcome.world) :=
    fun other member => heeded other (List.mem_cons_of_mem _ member)
  have kept := inner callee _ update (called callee calls) changed ran later
  refine ⟨(kept.under acted).fits, kept.sound, fun other member => ?_⟩
  rcases List.mem_cons.mp member with here | there
  · cases here
    exact ⟨due, fits, sound⟩
  · exact kept.founded other there

/-- The command at the pointer, before the pointer moves. -/
theorem handling {root : Activation} {world after : World} {next : Thread}
    (handling : Handling runCallee { root } world next after)
    (plays : ¬ (world.config.preview = true ∧ root.preview.cursor = some root.pointer))
    (fits : Fits root) (sound : Sound world)
    (heeded : Heeded Allowed (happeningsAt inside ({ root }, world))) :
    Kept Fits Sound (happeningsAt inside ({ root }, world)) next.chain after := by
  have alone : ∀ run ∈ [root], Fits run := List.forall_mem_singleton.mpr fits
  cases handling with
  | skip found differs =>
      have idle : root.deed? world = none := by
        simp [Activation.deed?, Activation.runsNext, found, differs]
      rw [happeningsAt_of_idle idle]
      exact .silent alone sound
  | ignore found _ unknown =>
      have idle : root.deed? world = none := by
        simp [Activation.deed?, found, unknown]
      rw [happeningsAt_of_idle idle]
      exact .silent alone sound
  | @perform command instruction _ found current decoded performed single =>
      subst performed
      let deed : Deed := { run := root, world, command, instruction }
      have due : deed.IsDue := Activation.deed?_of_runs found current decoded plays
      have single : deed.outcome.callee = none := single
      rw [happeningsAt_of_due due, single, Option.toList_none, List.flatMap_nil] at heeded ⊢
      obtain ⟨acted, changed, _⟩ :=
        upkeep.deed due (heeded deed List.mem_cons_self) fits sound
      refine ⟨List.forall_mem_singleton.mpr acted, changed, fun other member => ?_⟩
      cases List.mem_singleton.mp member
      exact ⟨due, fits, sound⟩
  | @call command instruction _ callee _ found current decoded performed calls ran =>
      subst performed
      let deed : Deed := { run := root, world, command, instruction }
      have due : deed.IsDue := Activation.deed?_of_runs found current decoded plays
      have calls : deed.outcome.callee = some callee := calls
      rw [happeningsAt_of_due due, calls, Option.toList_some, List.flatMap_singleton] at heeded ⊢
      exact upkeep.called inner due fits sound calls ran heeded
  | @callThrough command instruction _ callee _ found current decoded performed calls ran =>
      subst performed
      let deed : Deed := { run := root, world, command, instruction }
      have due : deed.IsDue := Activation.deed?_of_runs found current decoded plays
      have calls : deed.outcome.callee = some callee := calls
      rw [happeningsAt_of_due due, calls, Option.toList_some, List.flatMap_singleton] at heeded ⊢
      have kept := upkeep.called inner due fits sound calls ran heeded
      exact ⟨List.forall_mem_singleton.mpr (upkeep.clearWait kept.root),
        upkeep.deactivate _ kept.sound, kept.founded⟩

/-- Executing a command, whether it runs or not. -/
theorem execute {root : Activation} {world : World} {run : Run} (able : root.canStep = true)
    (executes : Thread.execute { root } world runCallee root.pointer = some run)
    (fits : Fits root) (sound : Sound world)
    (heeded : Heeded Allowed (happeningsAt inside ({ root }, world))) :
    Kept Fits Sound (happeningsAt inside ({ root }, world)) run.thread.chain run.world := by
  rcases Thread.execute_cases able executes with
    ⟨previewing, reached, same, thread⟩ | ⟨plays, ⟨next, after, _⟩, handles, same, thread⟩
  · have idle : root.deed? world = none := by
      have reached : root.preview.cursor = some root.pointer := reached
      obtain ⟨command, found⟩ := Script.command?_of_lt (Activation.pointer_lt_of_canStep able)
      simp [Activation.deed?, Activation.runsNext, found, previewing, reached]
    rw [happeningsAt_of_idle idle, same, thread]
    exact .silent (List.forall_mem_singleton.mpr (upkeep.congr fits rfl rfl (.inl rfl))) sound
  · rw [same, thread]
    have kept := upkeep.handling inner (Thread.handle_cases handles) plays fits sound heeded
    exact kept.replaceRoot (upkeep.stepPast kept.root)

/-- The commands of an update, with those of the scripts that they call. -/
theorem runCommands {fuel executed : Nat} {thread : Thread} {world : World}
    {reported : List Notice} {run : Run} (suspended : thread.CalleesSuspend)
    (ran : NovelEngine.runCommands runCallee fuel executed thread world reported = some run)
    (fits : ∀ run ∈ thread.chain, Fits run) (sound : Sound world)
    (heeded : Heeded Allowed
      ((commandVisits runCallee fuel executed thread world).flatMap (happeningsAt inside))) :
    Kept Fits Sound
      ((commandVisits runCallee fuel executed thread world).flatMap (happeningsAt inside))
      run.thread.chain run.world := by
  induction fuel generalizing executed thread world reported with
  | zero =>
      unfold NovelEngine.runCommands at ran
      split at ran
      · cases ran
      · cases ran
        exact .silent fits sound
  | succ fuel inductionHypothesis =>
      cases able : thread.root.canStep with
      | false =>
          rw [runCommands_of_unable able] at ran
          rw [commandVisits_of_unable able]
          cases ran
          exact .silent fits sound
      | true =>
          -- A thread that can step has called nobody.
          have alone := Thread.callees_eq_nil suspended (Activation.isWaiting_of_canStep able)
          obtain ⟨root, callees⟩ := thread
          subst alone
          cases executes : Thread.execute { root } world runCallee root.pointer with
          | none =>
              simp only [NovelEngine.runCommands, able, if_true, executes] at ran
              cases ran
          | some next =>
              rw [runCommands_step able executes] at ran
              rw [commandVisits_step able executes, List.flatMap_cons] at heeded ⊢
              obtain ⟨first, later⟩ := heeded_append.mp heeded
              have root := List.forall_mem_singleton.mp fits
              have handled := upkeep.execute inner able executes root sound first
              have counted := handled.replaceRoot
                (upkeep.counted handled.root next.world.config (executed + 1))
              have step := Thread.execute_step able executes
              exact handled.after (inductionHypothesis (step.calleesSuspend rfl) ran counted.fits
                counted.sound later)

/-- A frame of a run, with the scripts that it calls. -/
theorem updateFrame {fuel : Nat} {activation : Activation} {world : World} {update : Update}
    (updated : NovelEngine.updateFrame fuel runCallee activation world = some update)
    (fits : Fits activation) (sound : Sound world)
    (heeded : Heeded Allowed
      ((frameVisits fuel runCallee activation world).flatMap (happeningsAt inside))) :
    Kept Fits Sound
      ((frameVisits fuel runCallee activation world).flatMap (happeningsAt inside))
      update.thread.chain update.world := by
  have begun := upkeep.reset activation.context sound
  have ready := upkeep.restarted fits
  unfold frameVisits at heeded ⊢
  dsimp only at heeded ⊢
  rcases updateFrame_cases updated with ⟨ends, rfl⟩ | ⟨goes, rest | ⟨moves, run, ran, rfl⟩⟩
  · simp only [ends, Bool.true_or, if_true]
    have ended : Fits activation.finished := upkeep.congr fits rfl rfl (.inl rfl)
    exact .silent (List.forall_mem_singleton.mpr ended) (upkeep.release _ begun)
  · obtain ⟨rests, _, same, thread⟩ := rest
    simp only [rests, Bool.or_true, if_true]
    rw [same]
    rcases thread with same | ⟨_, _, counted⟩
    · rw [same]
      exact .silent (List.forall_mem_singleton.mpr ready) begun
    · rw [counted]
      have less : Fits activation.restarted.countDown := upkeep.congr ready rfl rfl (.inl rfl)
      exact .silent (List.forall_mem_singleton.mpr less) begun
  · simp only [goes, moves, Bool.or_false, Bool.false_eq_true, if_false] at heeded ⊢
    have entry := List.forall_mem_singleton.mpr (upkeep.unparked ready)
    have kept := upkeep.runCommands inner (.inl rfl) ran entry begun heeded
    unfold Run.conclude
    split
    · have ended : Fits run.thread.root.finished := upkeep.congr kept.root rfl rfl (.inl rfl)
      exact (kept.replaceRoot ended).withWorld (upkeep.release _ kept.sound)
    · unfold Thread.restartAtEnd
      dsimp only
      split
      · have again : Fits run.thread.root.start := upkeep.congr kept.root rfl rfl (.inr rfl)
        exact ⟨List.forall_mem_singleton.mpr again, kept.sound, kept.founded⟩
      · exact kept

end Commands

/-! ## Threads -/

theorem callees (fuel room : Nat) :
    CalleesKeep Allowed Fits Sound (advance fuel room) (advanceHappenings fuel room) := by
  induction room with
  | zero =>
      intro callee world update _ _ ran
      cases ran
  | succ room inductionHypothesis =>
      intro callee world update fits sound ran heeded
      exact upkeep.updateFrame inductionHypothesis ran fits sound heeded

/-- An update of a thread, of which only the innermost run acts. -/
theorem update {thread : Thread} {fuel : Nat} {world : World} {update : Update}
    (updated : thread.update fuel world = some update) (fits : ∀ run ∈ thread.chain, Fits run)
    (sound : Sound world) (heeded : Heeded Allowed (thread.happenings fuel world)) :
    Kept Fits Sound (thread.happenings fuel world) update.thread.chain update.world := by
  obtain ⟨root, callees⟩ := thread
  induction callees generalizing root update with
  | nil =>
      exact upkeep.callees fuel root.callRoom root world update (fits root List.mem_cons_self)
        sound updated heeded
  | cons callee rest inductionHypothesis =>
      obtain ⟨here, behind⟩ := List.forall_mem_cons.mp fits
      obtain ⟨inner, ran, _, outcome⟩ := Thread.update_calling updated
      unfold Thread.happenings at heeded ⊢
      rw [Thread.innermost_cons] at heeded ⊢
      have kept := inductionHypothesis callee ran behind heeded
      rcases outcome with ⟨_, thread, after⟩ | ⟨_, thread, after⟩
      · rw [thread, after]
        exact kept.under here
      · rw [thread, after]
        exact ⟨List.forall_mem_singleton.mpr (upkeep.clearWait here),
          upkeep.deactivate _ kept.sound, kept.founded⟩

/-- An event reaches the innermost run of a thread only. -/
theorem notify {thread : Thread} {world : World} {event : HostEvent} {told : Run}
    (heard : thread.notify? world event = some told) (fits : ∀ run ∈ thread.chain, Fits run)
    (sound : Sound world) : (∀ run ∈ told.thread.chain, Fits run) ∧ Sound told.world := by
  obtain ⟨root, callees⟩ := thread
  induction callees generalizing root told with
  | nil =>
      obtain ⟨delivery, delivered, rfl⟩ := Option.map_eq_some_iff.mp heard
      obtain ⟨answered, changed⟩ := upkeep.deliver (fits root List.mem_cons_self) sound delivered
      exact ⟨List.forall_mem_singleton.mpr answered, changed⟩
  | cons callee rest inductionHypothesis =>
      obtain ⟨here, behind⟩ := List.forall_mem_cons.mp fits
      obtain ⟨inner, reached, rfl⟩ := Option.map_eq_some_iff.mp heard
      obtain ⟨answered, changed⟩ := inductionHypothesis callee reached behind
      exact ⟨List.forall_mem_cons.mpr ⟨here, answered⟩, changed⟩

end Upkeep

/-! ## Games -/

/-- What keeps up the facts in a game, where scripts are spawned and scenes are changed. -/
structure GameUpkeep (Allowed : Deed → Prop) (Fits : Activation → Prop) (Sound : World → Prop) :
    Prop extends Upkeep Allowed Fits Sound where
  spawned : ∀ {world : World}, Sound world → ∀ run ∈ world.spawned, Fits run
  adopt : ∀ {world : World}, Sound world → Sound { world with spawned := [] }
  unrequest : ∀ {world : World}, Sound world → Sound { world with sceneRequest := none }
  leave : ∀ {game : Game}, Sound game.world → Sound game.leaveScene
  scene : ∀ {world : World} {uid : String} {scene : Scene}, Sound world →
    world.scenes.find? uid = some scene →
    ∀ context, Fits { context, script := scene.script : Activation }.start

namespace GameUpkeep

variable {Allowed : Deed → Prop} {Fits : Activation → Prop} {Sound : World → Prop}
  (upkeep : GameUpkeep Allowed Fits Sound)

include upkeep

/-- The threads beside the scene, those that end included. -/
theorem updateParallel {fuel : Nat} {threads kept : List Thread} {world next : World}
    {notices : List Notice}
    (updated : Game.updateParallel fuel threads world = some (kept, next, notices))
    (fits : ∀ run ∈ chains threads, Fits run) (sound : Sound world)
    (heeded : Heeded Allowed (Game.parallelHappenings fuel threads world)) :
    Kept Fits Sound (Game.parallelHappenings fuel threads world) (chains kept) next := by
  induction threads generalizing world kept next notices with
  | nil =>
      cases updated
      exact .silent fits sound
  | cons thread others inductionHypothesis =>
      obtain ⟨update, later, _, ran, outcome⟩ := Game.updateParallel_cases updated
      unfold Game.parallelHappenings at heeded ⊢
      simp only [ran] at heeded ⊢
      obtain ⟨first, behind⟩ := heeded_append.mp heeded
      obtain ⟨here, beside⟩ := List.forall_mem_append.mp fits
      have kept := upkeep.update ran here sound first
      rcases outcome with ⟨running, rfl, ranOthers⟩ | ⟨finished, rfl, ranOthers⟩
      · rw [running] at behind ⊢
        have rest := inductionHypothesis ranOthers beside kept.sound behind
        exact kept.after ⟨List.forall_mem_append.mpr ⟨kept.fits, rest.fits⟩, rest.sound,
          rest.founded⟩
      · rw [finished] at behind ⊢
        exact kept.after (inductionHypothesis ranOthers beside (upkeep.deactivate _ kept.sound)
          behind)

/-- The threads of a game run for a frame. -/
theorem runThreads {game : Game} {fuel : Nat} {frame : Game.Tick}
    (ran : game.runThreads fuel = some frame) (fits : ∀ run ∈ game.live, Fits run)
    (sound : Sound game.world) (heeded : Heeded Allowed (game.frameHappenings fuel)) :
    Kept Fits Sound (game.frameHappenings fuel) frame.game.live frame.game.world := by
  obtain ⟨update, parallel, world, _, updated, ranParallel, adopted⟩ :=
    Game.runThreads_cases ran
  unfold Game.frameHappenings at heeded ⊢
  simp only [updated] at heeded ⊢
  obtain ⟨first, later⟩ := heeded_append.mp heeded
  obtain ⟨main, beside⟩ := List.forall_mem_append.mp fits
  have ranMain := upkeep.update updated main sound first
  have ranOthers := upkeep.updateParallel ranParallel beside ranMain.sound later
  rw [adopted]
  refine ranMain.after ⟨?_, upkeep.adopt ranOthers.sound, ranOthers.founded⟩
  unfold Game.live
  rw [Game.chains_adoptSpawned]
  have joined := List.forall_mem_append.mpr ⟨ranOthers.fits, upkeep.spawned ranOthers.sound⟩
  exact List.forall_mem_append.mpr ⟨ranMain.fits, joined⟩

/-- An event that one of several threads hears. -/
theorem notifyFirst {event : HostEvent} {world next : World} {threads told : List Thread}
    {notices : List Notice}
    (heard : Game.notifyFirst? event world threads = some (told, next, notices))
    (fits : ∀ run ∈ chains threads, Fits run) (sound : Sound world) :
    (∀ run ∈ chains told, Fits run) ∧ Sound next := by
  induction threads generalizing told next notices with
  | nil => cases heard
  | cons thread rest inductionHypothesis =>
      obtain ⟨here, beside⟩ := List.forall_mem_append.mp fits
      unfold Game.notifyFirst? at heard
      split at heard
      · rename_i run reached
        cases heard
        obtain ⟨answered, changed⟩ := upkeep.notify reached here sound
        exact ⟨List.forall_mem_append.mpr ⟨answered, beside⟩, changed⟩
      · obtain ⟨⟨later, last, _⟩, found, equal⟩ := Option.map_eq_some_iff.mp heard
        cases equal
        obtain ⟨answered, changed⟩ := inductionHypothesis found beside
        exact ⟨List.forall_mem_append.mpr ⟨here, answered⟩, changed⟩

/-- An event that every thread is offered. -/
theorem notifyAll (event : HostEvent) {world : World} {threads : List Thread}
    (fits : ∀ run ∈ chains threads, Fits run) (sound : Sound world) :
    ∀ run ∈ chains (Game.notifyAll event world threads).1, Fits run := by
  induction threads generalizing world with
  | nil => exact fits
  | cons thread rest inductionHypothesis =>
      obtain ⟨here, beside⟩ := List.forall_mem_append.mp fits
      unfold Game.notifyAll
      cases heard : thread.notify? world event with
      | none => exact List.forall_mem_append.mpr ⟨here, inductionHypothesis beside sound⟩
      | some run =>
          obtain ⟨answered, changed⟩ := upkeep.notify heard here sound
          exact List.forall_mem_append.mpr ⟨answered, inductionHypothesis beside changed⟩

theorem notifyGame {game next : Game} {event : HostEvent} {notices : List Notice}
    (accepted : game.notify? event = some (next, notices)) (fits : ∀ run ∈ game.live, Fits run)
    (sound : Sound game.world) : (∀ run ∈ next.live, Fits run) ∧ Sound next.world := by
  obtain ⟨main, beside⟩ := List.forall_mem_append.mp fits
  unfold Game.notify? at accepted
  split at accepted
  · rename_i run heard
    cases accepted
    obtain ⟨answered, changed⟩ := upkeep.notify heard main sound
    exact ⟨List.forall_mem_append.mpr ⟨answered, beside⟩, changed⟩
  · obtain ⟨⟨told, world, _⟩, found, equal⟩ := Option.map_eq_some_iff.mp accepted
    cases equal
    obtain ⟨answered, changed⟩ := upkeep.notifyFirst found beside sound
    exact ⟨List.forall_mem_append.mpr ⟨main, answered⟩, changed⟩

/-- A due scene change. -/
theorem followSceneRequest {game : Game} (fits : ∀ run ∈ game.live, Fits run)
    (sound : Sound game.world) :
    (∀ run ∈ game.followSceneRequest.1.live, Fits run) ∧
      Sound game.followSceneRequest.1.world := by
  have unrequested : Sound game.withoutRequest.world := upkeep.unrequest sound
  rcases game.followSceneRequest_cases with
    ⟨uid, scene, _, found, equal⟩ | ⟨_, same | idle | ⟨notices, accepted⟩⟩
  · rw [equal]
    have left := upkeep.leave unrequested
    obtain ⟨_, beside⟩ := List.forall_mem_append.mp fits
    have entered := List.forall_mem_singleton.mpr (upkeep.scene sound found { id := scene.uid })
    exact ⟨List.forall_mem_append.mpr ⟨entered, upkeep.notifyAll _ beside left⟩, left⟩
  · rw [same]
    exact ⟨fits, sound⟩
  · rw [idle]
    exact ⟨fits, unrequested⟩
  · exact upkeep.notifyGame accepted fits unrequested

/-- The facts are kept up over the passage of a game. -/
theorem passage {game later : Game} {happenings : List Happening}
    (passage : Game.Passage game happenings later) (fits : ∀ run ∈ game.live, Fits run)
    (sound : Sound game.world) (heeded : Heeded Allowed happenings) :
    Kept Fits Sound happenings later.live later.world := by
  induction passage with
  | stay => exact .silent fits sound
  | @tick _ present fuel frame _ _ ran ticked inductionHypothesis =>
      obtain ⟨before, here⟩ := heeded_append.mp heeded
      obtain ⟨first, _⟩ := heeded_append.mp here
      have earlier := inductionHypothesis before
      have frameKept := upkeep.runThreads ran earlier.fits earlier.sound first
      obtain ⟨changed, left⟩ := upkeep.followSceneRequest frameKept.fits frameKept.sound
      rw [Game.tick_game ran ticked]
      have change : Kept Fits Sound frame.game.sceneChange frame.game.followSceneRequest.1.live
          frame.game.followSceneRequest.1.world := by
        refine ⟨changed, left, fun deed member => ?_⟩
        unfold Game.sceneChange at member
        split at member <;> simp at member
      exact earlier.after (frameKept.after change)
  | @notify _ present _ event _ _ accepted inductionHypothesis =>
      obtain ⟨before, _⟩ := heeded_append.mp heeded
      have earlier := inductionHypothesis before
      obtain ⟨told, changed⟩ := upkeep.notifyGame accepted earlier.fits earlier.sound
      refine earlier.after ⟨told, changed, fun deed member => ?_⟩
      obtain ⟨_, _, hearing, _⟩ := Game.notify?_cases accepted
      rw [hearing] at member
      simp at member

end GameUpkeep

end NovelEngine
