import NovelEngine.Proofs.Calling
import NovelEngine.Proofs.GameLock

/-!
Contract: the board of active events against the runs that are alive.

Owns:
- how many runs of an event there are among the runs of a game;
- the exact count on the board over the whole course of a game.

Does not own: the events that are known, which never change.

The board counts up when an event is called, spawned or started beside the scene, and down
when its run comes to its end. A scene change drops the scripts that the scene called
without counting them down.
-/

namespace NovelEngine

/-! ## The board -/

namespace EventBoard

theorem activeCount_activate (board : EventBoard) (id other : String) :
    (board.activate id).activeCount other =
      board.activeCount other + if other = id then 1 else 0 := by
  by_cases same : other = id
  · subst same
    simp [activate, activeCount]
  · simp [activate, activeCount, same, Registry.find?_insert_other _ _ same]

theorem activeCount_deactivate (board : EventBoard) (id other : String) :
    (board.deactivate id).activeCount other =
      board.activeCount other - if other = id then 1 else 0 := by
  unfold deactivate
  by_cases same : other = id
  · subst same
    split
    · rename_i remaining found
      split
      · rename_i last
        simp [activeCount, found, last]
      · simp [activeCount, found]
    · rename_i missing
      cases found : board.active.find? other with
      | none => simp [activeCount, found]
      | some count =>
          cases count with
          | zero => simp [activeCount, found]
          | succ remaining => exact absurd found (missing remaining)
  · split
    · split
      · simp [activeCount, Registry.find?_erase_other _ same]
      · simp [activeCount, Registry.find?_insert_other _ _ same]
    · simp [same]

@[simp] theorem deactivate_events (board : EventBoard) (id : String) :
    (board.deactivate id).events = board.events := by
  unfold deactivate
  split
  · split <;> rfl
  · rfl

/-- No event is on the board with no run at all. -/
def Trimmed (board : EventBoard) : Prop :=
  ∀ id, board.active.find? id ≠ some 0

theorem Trimmed.isActive_iff {board : EventBoard} (trimmed : board.Trimmed) (id : String) :
    board.isActive id = true ↔ 0 < board.activeCount id := by
  have positive := trimmed id
  unfold isActive Registry.contains activeCount
  cases found : board.active.find? id with
  | none => simp
  | some count =>
      have nonzero : count ≠ 0 := by
        rintro rfl
        exact positive found
      simpa using Nat.pos_of_ne_zero nonzero

theorem Trimmed.activate {board : EventBoard} (trimmed : board.Trimmed) (id : String) :
    (board.activate id).Trimmed := by
  intro other
  by_cases same : other = id
  · subst same
    simp [EventBoard.activate]
  · simp only [EventBoard.activate, Registry.find?_insert_other _ _ same]
    exact trimmed other

theorem Trimmed.deactivate {board : EventBoard} (trimmed : board.Trimmed) (id : String) :
    (board.deactivate id).Trimmed := by
  intro other
  unfold EventBoard.deactivate
  split
  · rename_i remaining _
    split
    · by_cases same : other = id
      · subst same
        simp
      · simp only [Registry.find?_erase_other _ same]
        exact trimmed other
    · rename_i positive
      by_cases same : other = id
      · subst same
        simpa using positive
      · simp only [Registry.find?_insert_other _ _ same]
        exact trimmed other
  · exact trimmed other

end EventBoard

/-! ## Runs of an event -/

/-- How many of the runs are of the script called `id`. -/
def runsOf (runs : List Activation) (id : String) : Nat :=
  (runs.map (fun run => run.context.id)).count id

section Runs

variable {runs others : List Activation} {root : Activation} {id : String}

@[simp] theorem runsOf_nil : runsOf [] id = 0 := rfl

theorem runsOf_cons :
    runsOf (root :: runs) id = runsOf runs id + if root.context.id = id then 1 else 0 := by
  simp [runsOf, List.count_cons]

theorem runsOf_append : runsOf (runs ++ others) id = runsOf runs id + runsOf others id := by
  simp [runsOf]

theorem runsOf_congr (same : others.map Activation.identity = runs.map Activation.identity) :
    runsOf others id = runsOf runs id := by
  have ids := congrArg (List.map (fun identity => identity.1.id)) same
  rw [List.map_map, List.map_map] at ids
  exact congrArg (List.count id) ids

end Runs

/-! ## The balance -/

/-- There is an event called `id`. -/
def World.HasEvent (world : World) (id : String) : Prop :=
  ∃ event, world.board.events.find? id = some event

/-- Events are known by their own ids, and no scene has the id of an event. -/
structure World.IdsApart (world : World) : Prop where
  keyed : ∀ {id event}, world.board.events.find? id = some event → event.id = id
  apart : ∀ {uid scene}, world.scenes.find? uid = some scene → ¬ world.HasEvent scene.uid

/-- The board counts the given runs, the spawned scripts and, for each event, some `rest`
that is elsewhere. The events and scenes are those of `origin`. -/
structure Balanced (origin : World) (rest : String → Nat) (runs : List Activation)
    (world : World) : Prop where
  counts : ∀ {id}, origin.HasEvent id →
    world.board.activeCount id = rest id + runsOf runs id + runsOf world.spawned id
  trimmed : world.board.Trimmed
  ids : origin.IdsApart
  events : world.board.events = origin.board.events
  scenes : world.scenes = origin.scenes

namespace Balanced

variable {origin : World} {rest : String → Nat} {runs : List Activation} {world : World}

theorem keyed (balanced : Balanced origin rest runs world) {id : String} {event : CommonEvent}
    (found : world.board.events.find? id = some event) : event.id = id := by
  rw [balanced.events] at found
  exact balanced.ids.keyed found

theorem apart (balanced : Balanced origin rest runs world) {uid : String} {scene : Scene}
    (found : world.scenes.find? uid = some scene) : ¬ origin.HasEvent scene.uid := by
  rw [balanced.scenes] at found
  exact balanced.ids.apart found

/-- Runs may be counted among the rest, and the other way round. -/
theorem regroup (balanced : Balanced origin rest runs world) {other : String → Nat}
    {regrouped : List Activation}
    (same : ∀ id, other id + runsOf regrouped id = rest id + runsOf runs id) :
    Balanced origin other regrouped world :=
  { balanced with
    counts := by
      intro id known
      rw [balanced.counts known, same id] }

theorem congr (balanced : Balanced origin rest runs world) {next : World}
    (board : next.board = world.board) (scenes : next.scenes = world.scenes)
    (spawned : next.spawned = world.spawned) : Balanced origin rest runs next where
  counts := by
    rw [board, spawned]
    exact balanced.counts
  trimmed := board ▸ balanced.trimmed
  ids := balanced.ids
  events := board ▸ balanced.events
  scenes := scenes ▸ balanced.scenes

/-- One more run of an event. -/
theorem activate (balanced : Balanced origin rest runs world) {run : Activation} {id : String}
    (same : run.context.id = id) : Balanced origin rest (run :: runs) (world.activate id) where
  counts := by
    intro other known
    have before := balanced.counts known
    have counted : (world.activate id).board.activeCount other =
        world.board.activeCount other + if other = id then 1 else 0 :=
      EventBoard.activeCount_activate _ _ _
    rw [counted, before, runsOf_cons, same]
    show _ = rest other + (runsOf runs other + _) + runsOf world.spawned other
    by_cases here : other = id
    · subst here
      simp only [if_true]
      omega
    · simp only [here, Ne.symm here, if_false]
      omega
  trimmed := balanced.trimmed.activate id
  ids := balanced.ids
  events := balanced.events
  scenes := balanced.scenes

/-- An event is called or spawned. -/
theorem enterEvent (balanced : Balanced origin rest runs world) {run : Activation}
    {context : Context} {id : String} (same : run.context.id = id) (parameters : List Value) :
    Balanced origin rest (run :: runs) (world.enterEvent context id parameters) := by
  let store := (world.store.clearLocals context).setParameters context parameters
  have cleared : Balanced origin rest runs { world with store } := balanced.congr rfl rfl rfl
  exact cleared.activate same

/-- A script that has started beside the others waits for the end of the frame. -/
theorem spawn {run : Activation} (balanced : Balanced origin rest (run :: runs) world) :
    Balanced origin rest runs (world.spawn run) where
  counts := by
    intro id known
    have before := balanced.counts known
    have spawned : runsOf (world.spawn run).spawned id =
        runsOf world.spawned id + runsOf [run] id := runsOf_append
    rw [runsOf_cons, runsOf_nil] at spawned
    rw [runsOf_cons] at before
    rw [spawned]
    show world.board.activeCount id = _
    omega
  trimmed := balanced.trimmed
  ids := balanced.ids
  events := balanced.events
  scenes := balanced.scenes

/-- A run comes to its end. -/
theorem deactivate {root : Activation} (balanced : Balanced origin rest (root :: runs) world) :
    Balanced origin rest runs (world.deactivate root.context.id) where
  counts := by
    intro id known
    have before := balanced.counts known
    have counted : (world.deactivate root.context.id).board.activeCount id =
        world.board.activeCount id - if id = root.context.id then 1 else 0 :=
      EventBoard.activeCount_deactivate _ _ _
    rw [runsOf_cons] at before
    rw [counted, before]
    show _ = rest id + runsOf runs id + runsOf world.spawned id
    by_cases here : id = root.context.id
    · simp only [here, if_true]
      omega
    · simp only [here, Ne.symm here, if_false]
      omega
  trimmed := balanced.trimmed.deactivate _
  ids := balanced.ids
  events := (EventBoard.deactivate_events _ _).trans balanced.events
  scenes := balanced.scenes

/-- A run of a scene does not count. -/
theorem scene_iff {run : Activation} (unknown : ¬ origin.HasEvent run.context.id) :
    Balanced origin rest (run :: runs) world ↔ Balanced origin rest runs world := by
  have same {id : String} (known : origin.HasEvent id) :
      runsOf (run :: runs) id = runsOf runs id := by
    have other : run.context.id ≠ id := by
      rintro rfl
      exact unknown known
    rw [runsOf_cons, if_neg other, Nat.add_zero]
  constructor
  · intro balanced
    exact { balanced with counts := fun known => same known ▸ balanced.counts known }
  · intro balanced
    exact { balanced with counts := fun known => (same known).symm ▸ balanced.counts known }

/-- Only the context of a run matters. -/
theorem replaceRoot {root other : Activation} (balanced : Balanced origin rest (root :: runs) world)
    (same : other.context = root.context) : Balanced origin rest (other :: runs) world := by
  refine balanced.regroup (fun id => ?_)
  rw [runsOf_cons, runsOf_cons, same]

/-- The first runs may be counted among the rest. -/
theorem asideFirst {first : List Activation} :
    Balanced origin rest (first ++ runs) world ↔
      Balanced origin (fun id => rest id + runsOf first id) runs world := by
  have same (id : String) :
      rest id + runsOf first id + runsOf runs id = rest id + runsOf (first ++ runs) id := by
    rw [runsOf_append]
    omega
  constructor
  · intro balanced
    exact balanced.regroup same
  · intro balanced
    exact balanced.regroup (fun id => (same id).symm)

/-- The last runs may be counted among the rest. -/
theorem asideLast {last : List Activation} :
    Balanced origin rest (runs ++ last) world ↔
      Balanced origin (fun id => rest id + runsOf last id) runs world := by
  have swap {first second : List Activation}
      (balanced : Balanced origin rest (first ++ second) world) :
      Balanced origin rest (second ++ first) world := by
    refine balanced.regroup (fun id => ?_)
    rw [runsOf_append, runsOf_append]
    omega
  rw [← asideFirst]
  exact ⟨swap, swap⟩

end Balanced

/-! ## One command -/

/-- Called scripts keep the balance, and at their end they wait for no other. -/
def CalleesBalance (runCallee : CalleeRunner) : Prop :=
  ∀ origin rest callee world update, Balanced origin rest [callee] world →
    runCallee callee world = some update →
    Balanced origin rest update.thread.chain update.world ∧
      (update.progress = .finished → update.thread.callees = [])

section Commands

variable {origin : World} {rest : String → Nat} {activation : Activation} {world : World}

/-- An instruction that calls no script counts the scripts it spawns. -/
theorem Calling.balanced {instruction : Instruction} {outcome : Outcome}
    (calling : Calling activation world instruction outcome) (alone : outcome.callee = none)
    (balanced : Balanced origin rest [activation] world) :
    Balanced origin rest [activation] outcome.world := by
  cases calling with
  | apart spares => exact balanced.congr spares.board spares.scenes spares.spawned
  | spawnEvent found entered =>
      rw [entered]
      apply Balanced.spawn
      exact balanced.enterEvent (balanced.keyed found) _
  | callEvent _ _ callee => simp [callee] at alone
  | callScene _ _ callee => simp [callee] at alone

/-- An instruction that calls a script counts it if it is an event. -/
theorem Calling.entered {instruction : Instruction} {outcome : Outcome} {callee : Activation}
    (calling : Calling activation world instruction outcome)
    (called : outcome.callee = some callee) (balanced : Balanced origin rest [activation] world) :
    Balanced origin rest [callee, activation] outcome.world := by
  cases calling with
  | apart _ none => simp [called] at none
  | spawnEvent _ _ none => simp [called] at none
  | callEvent found entered calls =>
      cases called.symm.trans calls
      rw [entered]
      exact balanced.enterEvent (balanced.keyed found) _
  | callScene found entered calls =>
      cases called.symm.trans calls
      rw [entered]
      exact (Balanced.scene_iff (balanced.apart found)).mpr balanced

/-- The command at the pointer keeps the balance. -/
theorem Handling.balanced {runCallee : CalleeRunner} (balance : CalleesBalance runCallee)
    (balanced : Balanced origin rest [activation] world) {next : Thread} {after : World}
    (handling : Handling runCallee { root := activation } world next after) :
    Balanced origin rest next.chain after := by
  -- The caller stands aside while the script it called runs.
  have called {command : Command} {instruction : Instruction} {outcome : Outcome}
      {callee : Activation} {update : Update}
      (performed : activation.perform world command.id instruction = outcome)
      (calls : outcome.callee = some callee)
      (ran : runCallee callee outcome.world = some update) :
      Balanced origin (fun id => rest id + runsOf [activation] id) update.thread.chain
          update.world ∧
        (update.progress = .finished → update.thread.callees = []) := by
    subst performed
    have entered := (activation.perform_calling world command.id instruction).entered calls
      balanced
    refine balance _ _ callee _ update (entered.regroup (fun id => ?_)) ran
    simp only [runsOf_cons, runsOf_nil]
    omega
  have sameContext := handling.sameRun.context
  cases handling with
  | skip => exact balanced
  | ignore => exact balanced
  | @perform command instruction _ _ _ _ performed alone =>
      subst performed
      have calling := activation.perform_calling world command.id instruction
      exact (calling.balanced alone balanced).replaceRoot sameContext
  | call _ _ _ performed calls ran =>
      have inner := (called performed calls ran).1
      exact (Balanced.asideFirst.mpr inner).replaceRoot sameContext
  | callThrough _ _ _ performed calls ran finished =>
      obtain ⟨inner, alone⟩ := called performed calls ran
      unfold Thread.chain at inner
      rw [alone finished] at inner
      exact (Balanced.asideFirst.mpr inner.deactivate).replaceRoot sameContext

end Commands

/-! ## Updates -/

/-- A thread that is in balance with the board, and waits while it has called a script. -/
structure Thread.InBalance (origin : World) (rest : String → Nat) (thread : Thread)
    (world : World) : Prop where
  balanced : Balanced origin rest thread.chain world
  suspended : thread.CalleesSuspend

section Updates

variable {runCallee : CalleeRunner} {origin : World} {rest : String → Nat}

theorem Step.inBalance (balance : CalleesBalance runCallee) {activation : Activation}
    {world after : World} {next : Thread} (balanced : Balanced origin rest [activation] world)
    (step : Step runCallee { root := activation } world next after) (executed : Nat) :
    Thread.InBalance origin rest (next.counted after.config executed) after := by
  refine ⟨?_, step.calleesSuspend rfl⟩
  have counted := (next.root.counted_sameRun after.config executed).context
  have chained : Balanced origin rest next.chain after := by
    cases step with
    | pause => exact balanced.replaceRoot rfl
    | @move handled _ handling =>
        exact (handling.balanced balance balanced).replaceRoot
          handled.root.stepPast_sameRun.context
  exact chained.replaceRoot counted

theorem lastsFrame_inBalance (balance : CalleesBalance runCallee) :
    LastsFrame runCallee (fun _ thread world => Thread.InBalance origin rest thread world) where
  reset := fun holds => ⟨holds.balanced.congr rfl rfl rfl, holds.suspended⟩
  start := fun holds _ _ => ⟨holds.balanced.replaceRoot rfl, .inl rfl⟩
  count := fun holds _ _ => ⟨holds.balanced.replaceRoot rfl, .inl rfl⟩
  unpark := fun holds _ _ => ⟨holds.balanced.replaceRoot rfl, .inl rfl⟩
  pass := fun holds _ step => step.inBalance balance holds.balanced _
  finish := by
    intro _ activation world holds _
    have ended : Balanced origin rest [activation.finished] world := holds.balanced.replaceRoot rfl
    exact ⟨ended.congr rfl rfl rfl, .inl rfl⟩

/-- A script that comes to its end waits for nothing. -/
theorem updateFrame_finished_idle {fuel : Nat} {activation : Activation} {world : World}
    {update : Update} (updated : updateFrame fuel runCallee activation world = some update)
    (finished : update.progress = .finished) : update.thread.root.isWaiting = false := by
  obtain ⟨thread, _, _, ends, rfl⟩ := updateFrame_ended updated finished
  show thread.root.isWaiting = false
  exact Activation.isWaiting_of_isAtEnd (Activation.isAtEnd_of_endsHere ends)

end Updates

/-- Called scripts keep the balance at any depth. -/
theorem calleesBalance (fuel room : Nat) : CalleesBalance (advance fuel room) := by
  induction room with
  | zero =>
      intro origin rest callee world update _ ran
      cases ran
  | succ room inductionHypothesis =>
      intro origin rest callee world update balanced ran
      have entered : Thread.InBalance origin rest { root := callee } world := ⟨balanced, .inl rfl⟩
      have holds := updateFrame_fact (lastsFrame_inBalance inductionHypothesis) none entered ran
      refine ⟨holds.balanced, fun finished => ?_⟩
      exact Thread.callees_eq_nil holds.suspended (updateFrame_finished_idle ran finished)

/-- An update of a thread keeps the balance, and a thread at its end waits for no other. -/
theorem Thread.update_balanced {thread : Thread} {fuel : Nat} {origin : World}
    {rest : String → Nat} {world : World} {update : Update}
    (balanced : Balanced origin rest thread.chain world)
    (updated : thread.update fuel world = some update) :
    Balanced origin rest update.thread.chain update.world ∧
      (update.progress = .finished → update.thread.callees = []) := by
  obtain ⟨root, callees⟩ := thread
  induction callees generalizing root rest update with
  | nil => exact calleesBalance fuel root.callRoom origin rest root world update balanced updated
  | cons callee behind inductionHypothesis =>
      obtain ⟨inner, ran, running, outcome⟩ := Thread.update_calling updated
      have aside : Balanced origin (fun id => rest id + runsOf [root] id)
          (Thread.chain { root := callee, callees := behind }) world :=
        Balanced.asideFirst.mp balanced
      obtain ⟨kept, alone⟩ := inductionHypothesis callee aside ran
      refine ⟨?_, fun finished => by simp [running] at finished⟩
      rcases outcome with ⟨_, thread, world⟩ | ⟨finished, thread, world⟩
      · rw [thread, world]
        exact Balanced.asideFirst.mpr kept
      · rw [thread, world]
        unfold Thread.chain at kept
        rw [alone finished] at kept
        exact (Balanced.asideFirst.mpr kept.deactivate).replaceRoot rfl

/-! ## The threads of a game -/

theorem updateParallel_balanced {fuel : Nat} {threads kept : List Thread}
    {origin : World} {rest : String → Nat} {world next : World} {notices : List Notice}
    (balanced : Balanced origin rest (chains threads) world)
    (updated : Game.updateParallel fuel threads world = some (kept, next, notices)) :
    Balanced origin rest (chains kept) next := by
  induction threads generalizing rest world kept next notices with
  | nil =>
      cases updated
      exact balanced
  | cons thread others inductionHypothesis =>
      obtain ⟨update, later, _, ran, outcome⟩ := Game.updateParallel_cases updated
      -- The other threads stand aside while the first one is updated.
      have aside : Balanced origin (fun id => rest id + runsOf (chains others) id) thread.chain
          world := Balanced.asideLast.mp balanced
      obtain ⟨advanced, alone⟩ := Thread.update_balanced aside ran
      rcases outcome with ⟨_, rfl, ranOthers⟩ | ⟨finished, rfl, ranOthers⟩
      · have together := Balanced.asideLast.mpr advanced
        exact Balanced.asideFirst.mpr
          (inductionHypothesis (Balanced.asideFirst.mp together) ranOthers)
      · unfold Thread.chain at advanced
        rw [alone finished] at advanced
        exact inductionHypothesis (Balanced.asideLast.mpr advanced.deactivate) ranOthers

/-! ## Frames -/

namespace Game

/-- The runs that count as runs of an event: all but the scene itself. -/
def eventRuns (game : Game) : List Activation :=
  game.main.callees ++ chains game.parallel

/-- How many runs of `id` a due scene change drops: the scripts that the scene called. -/
def droppedRuns (game : Game) (id : String) : Nat :=
  match game.world.sceneRequest.bind game.world.scenes.find? with
  | some _ => runsOf game.main.callees id
  | none => 0

/-- The board counts the runs of a game and, for each event, those that are `lost`. -/
structure InBalance (origin : World) (lost : String → Nat) (game : Game) : Prop where
  balanced : Balanced origin lost game.eventRuns game.world
  unspawned : game.world.spawned = []
  scene : ¬ origin.HasEvent game.main.root.context.id

/-- Spawned scripts join the threads. -/
theorem adoptSpawned_balanced {origin : World} {lost : String → Nat} {game : Game}
    (balanced : Balanced origin lost game.eventRuns game.world) :
    Balanced origin lost game.adoptSpawned.eventRuns game.adoptSpawned.world where
  counts := by
    intro id known
    have before := balanced.counts known
    have joined : game.adoptSpawned.eventRuns = game.eventRuns ++ game.world.spawned := by
      unfold eventRuns
      rw [chains_adoptSpawned, ← List.append_assoc]
      rfl
    rw [joined, runsOf_append]
    show game.world.board.activeCount id = _ + runsOf [] id
    rw [runsOf_nil]
    omega
  trimmed := balanced.trimmed
  ids := balanced.ids
  events := balanced.events
  scenes := balanced.scenes

/-- When the threads have run, the board counts as before. -/
theorem InBalance.runThreads {origin : World} {lost : String → Nat} {game : Game}
    (inBalance : game.InBalance origin lost) (sound : game.Sound) {fuel : Nat} {frame : Tick}
    (ran : game.runThreads fuel = some frame) : frame.game.InBalance origin lost := by
  obtain ⟨update, parallel, world, _, updated, ranParallel, adopted⟩ := runThreads_cases ran
  rw [adopted]
  have sameContext := (sound.main.update sound.fresh updated).1.sameRun.context
  have scene : ¬ origin.HasEvent update.thread.root.context.id :=
    sameContext ▸ inBalance.scene
  have whole : Balanced origin lost (game.main.chain ++ chains game.parallel) game.world :=
    (Balanced.scene_iff inBalance.scene).mpr inBalance.balanced
  have advanced := (Thread.update_balanced (Balanced.asideLast.mp whole) updated).1
  have together := Balanced.asideFirst.mp (Balanced.asideLast.mpr advanced)
  have ended := Balanced.asideFirst.mpr (updateParallel_balanced together ranParallel)
  refine ⟨adoptSpawned_balanced ?_, rfl, scene⟩
  exact (Balanced.scene_iff scene).mp ended

/-- The balance depends on which runs there are and on what a script spares. -/
theorem InBalance.congr {origin : World} {lost : String → Nat} {game next : Game}
    (inBalance : game.InBalance origin lost) {context : Context}
    (spares : game.world.SparesOthers context next.world)
    (main : next.main.chain.map Activation.identity = game.main.chain.map Activation.identity)
    (parallel : (chains next.parallel).map Activation.identity =
      (chains game.parallel).map Activation.identity) : next.InBalance origin lost := by
  obtain ⟨root, callees⟩ := List.cons_eq_cons.mp main
  have sameContext := (Activation.sameRun_iff.mpr root).context
  refine ⟨?_, spares.spawned.trans inBalance.unspawned, sameContext ▸ inBalance.scene⟩
  have moved := inBalance.balanced.congr spares.board spares.scenes spares.spawned
  refine moved.regroup (fun id => ?_)
  unfold eventRuns
  rw [runsOf_append, runsOf_append, runsOf_congr callees, runsOf_congr parallel]

theorem InBalance.notify {origin : World} {lost : String → Nat} {game next : Game}
    (inBalance : game.InBalance origin lost) {event : HostEvent} {notices : List Notice}
    (accepted : game.notify? event = some (next, notices)) : next.InBalance origin lost := by
  unfold Game.notify? at accepted
  split at accepted
  · rename_i run heard
    cases accepted
    exact inBalance.congr (Thread.notify?_spares heard) (Thread.notify?_identities heard) rfl
  · obtain ⟨⟨told, world, _⟩, found, equal⟩ := Option.map_eq_some_iff.mp accepted
    cases equal
    obtain ⟨_, _, _, _, _, _, heard, _, rfl⟩ := notifyFirst?_cases found
    exact inBalance.congr (Thread.notify?_spares heard) rfl (notifyFirst?_identities found)

theorem droppedRuns_of_stays {game : Game} (stays : ¬ game.LeavesScene) (id : String) :
    game.droppedRuns id = 0 := by
  unfold droppedRuns
  split
  · rename_i scene found
    obtain ⟨uid, due, known⟩ := Option.bind_eq_some_iff.mp found
    exact absurd ⟨uid, scene, due, known⟩ stays
  · rfl

/-- A scene change loses the scripts that the scene called, and nothing else does. -/
theorem InBalance.followSceneRequest {origin : World} {lost : String → Nat} {game : Game}
    (inBalance : game.InBalance origin lost) :
    game.followSceneRequest.1.InBalance origin
      (fun id => lost id + game.droppedRuns id) := by
  have unrequested : game.withoutRequest.InBalance origin lost :=
    ⟨inBalance.balanced.congr rfl rfl rfl, inBalance.unspawned, inBalance.scene⟩
  rcases game.followSceneRequest_cases with
    ⟨uid, scene, due, found, equal⟩ | ⟨stays, goesOn⟩
  · rw [equal]
    have dropped (id : String) : game.droppedRuns id = runsOf game.main.callees id := by
      simp [droppedRuns, due, found]
    refine ⟨?_, inBalance.unspawned, inBalance.balanced.apart found⟩
    have aside := Balanced.asideFirst.mp inBalance.balanced
    have left : Balanced origin (fun id => lost id + runsOf game.main.callees id)
        (chains game.parallel) game.withoutRequest.leaveScene := aside.congr rfl rfl rfl
    refine left.regroup (fun id => ?_)
    rw [dropped]
    exact congrArg _ (runsOf_congr (notifyAll_identities _ _ _))
  · have nothing : (fun id => lost id + game.droppedRuns id) = lost := by
      funext id
      rw [droppedRuns_of_stays stays, Nat.add_zero]
    rw [nothing]
    rcases goesOn with same | idle | ⟨notices, accepted⟩
    · rw [same]
      exact inBalance
    · rw [idle]
      exact unrequested
    · exact unrequested.notify accepted

end Game

/-! ## The start of a game -/

/-- No scene of the project has the id of an event. -/
def Project.IdsApart (project : Project) : Prop :=
  ∀ scene ∈ project.scenes, ∀ event ∈ project.events, scene.uid ≠ event.id

instance (project : Project) : Decidable project.IdsApart :=
  inferInstanceAs (Decidable (∀ scene ∈ project.scenes, ∀ event ∈ project.events,
    scene.uid ≠ event.id))

/-- The scenes and events that are known are among the listed ones, and nothing runs yet. -/
structure World.Catalogues (world : World) (uids ids : List String) : Prop where
  scenes : ∀ {uid scene}, world.scenes.find? uid = some scene → scene.uid ∈ uids
  events : ∀ {id event}, world.board.events.find? id = some event → event.id = id ∧ id ∈ ids
  inactive : world.board.active = {}
  unspawned : world.spawned = []

namespace World.Catalogues

variable {world : World} {uids ids : List String}

theorem addScene (catalogues : world.Catalogues uids ids) {scene : Scene}
    (listed : scene.uid ∈ uids) : (world.addScene scene).Catalogues uids ids where
  scenes := by
    intro uid other found
    by_cases same : uid = scene.uid
    · subst same
      rw [World.addScene, Registry.find?_insert_same] at found
      cases found
      exact listed
    · rw [World.addScene, Registry.find?_insert_other _ _ same] at found
      exact catalogues.scenes found
  events := catalogues.events
  inactive := catalogues.inactive
  unspawned := catalogues.unspawned

theorem addEvent (catalogues : world.Catalogues uids ids) {event : CommonEvent}
    (listed : event.id ∈ ids) : (world.addEvent event).Catalogues uids ids where
  scenes := catalogues.scenes
  events := by
    intro id other found
    by_cases same : id = event.id
    · subst same
      rw [World.addEvent, Registry.find?_insert_same] at found
      cases found
      exact ⟨rfl, listed⟩
    · rw [World.addEvent, Registry.find?_insert_other _ _ same] at found
      exact catalogues.events found
  inactive := catalogues.inactive
  unspawned := catalogues.unspawned

end World.Catalogues

theorem addSources_catalogues {host : Host} {project : Project} {loading : Loading}
    (loaded : Loading.addSources { world := host.world project.config }
      project.scenes project.events = .ok loading) :
    loading.world.Catalogues (project.scenes.map SceneSource.uid)
      (project.events.map EventSource.id) := by
  refine Loading.addSources_keeps (World.Catalogues · (project.scenes.map SceneSource.uid)
    (project.events.map EventSource.id)) ?_ ?_ ?_ loaded
  · intro world source script listed _ catalogues
    exact catalogues.addScene (List.mem_map_of_mem (f := SceneSource.uid) listed)
  · intro world source script listed _ catalogues
    exact catalogues.addEvent (List.mem_map_of_mem (f := EventSource.id) listed)
  · exact ⟨nofun, nofun, rfl, rfl⟩

/-- The events that run from the start are counted one by one. -/
theorem Balanced.activateAll {origin : World} {rest : String → Nat} {world : World}
    (balanced : Balanced origin rest [] world) (events : List CommonEvent) :
    Balanced origin rest (chains (events.map CommonEvent.parallelThread))
      (world.activateAll events) := by
  induction events generalizing rest world with
  | nil => exact balanced
  | cons event others inductionHypothesis =>
      have first : Balanced origin rest ([event.parallelThread.root] ++ [])
          (world.activate event.id) := balanced.activate rfl
      exact asideFirst.mpr (inductionHypothesis (asideFirst.mp first))

theorem Game.start_inBalance {host : Host} {project : Project} (apart : project.IdsApart)
    {game : Game} {notices : List Notice} (started : host.start project = .ok (game, notices)) :
    ∃ origin, game.InBalance origin (fun _ => 0) := by
  obtain ⟨loading, uid, scene, loaded, found, rfl⟩ := Host.start_cases started
  have catalogues := addSources_catalogues loaded
  have ids : loading.world.IdsApart := by
    refine ⟨fun found => (catalogues.events found).1, ?_⟩
    rintro uid scene found ⟨event, known⟩
    obtain ⟨source, listed, sameUid⟩ := List.mem_map.mp (catalogues.scenes found)
    obtain ⟨other, listedToo, sameId⟩ := List.mem_map.mp (catalogues.events known).2
    exact apart source listed other listedToo (sameUid.trans sameId.symm)
  have nothing : Balanced loading.world (fun _ => 0) [] loading.world := by
    refine ⟨?_, ?_, ids, rfl, rfl⟩
    · intro id _
      rw [EventBoard.activeCount, catalogues.inactive, catalogues.unspawned]
      rfl
    · intro id
      rw [catalogues.inactive]
      exact nofun
  have running := nothing.activateAll (host.parallelEvents loading.world)
  obtain ⟨active, activated⟩ := loading.world.activateAll_eq (host.parallelEvents loading.world)
  refine ⟨loading.world, running, ?_, ids.apart found⟩
  rw [activated]
  exact catalogues.unspawned

/-! ## Courses -/

namespace Game

/-- How many runs of `id` the scene changes after the given frames have dropped. -/
def lostRuns (id : String) : List Game → Nat
  | [] => 0
  | frame :: frames => frame.droppedRuns id + lostRuns id frames

theorem lostRuns_eq_zero {id : String} {frames : List Game} :
    lostRuns id frames = 0 ↔ ∀ frame ∈ frames, frame.droppedRuns id = 0 := by
  induction frames with
  | nil => simp [lostRuns]
  | cons frame frames inductionHypothesis =>
      rw [lostRuns, Nat.add_eq_zero_iff, List.forall_mem_cons, inductionHypothesis]

theorem lostRuns_pos {id : String} {frames : List Game} :
    0 < lostRuns id frames ↔ ∃ frame ∈ frames, 0 < frame.droppedRuns id := by
  induction frames with
  | nil => simp [lostRuns]
  | cons frame frames inductionHypothesis =>
      have split : 0 < lostRuns id (frame :: frames) ↔
          0 < frame.droppedRuns id ∨ 0 < lostRuns id frames := by
        rw [lostRuns]
        omega
      rw [split, inductionHypothesis]
      simp

theorem Course.inBalance {host : Host} {project : Project} (apart : project.IdsApart) {game : Game}
    {states frames : List Game} (course : Course host project game states frames) :
    ∃ origin, game.InBalance origin (fun id => lostRuns id frames) := by
  induction course with
  | start started => exact start_inBalance apart started
  | tick course ran ticked inductionHypothesis =>
      obtain ⟨origin, inBalance⟩ := inductionHypothesis
      have followed := (inBalance.runThreads course.sound ran).followSceneRequest
      rw [← tick_game ran ticked] at followed
      refine ⟨origin, followed.balanced.regroup (fun id => ?_), followed.unspawned,
        followed.scene⟩
      rw [lostRuns]
      omega
  | notify _ accepted inductionHypothesis =>
      obtain ⟨origin, inBalance⟩ := inductionHypothesis
      exact ⟨origin, inBalance.notify accepted⟩

/-- Over the whole course of a game in which no scene has the id of an event, the board
counts the runs of an event that are alive and those that scene changes have dropped. It is
right exactly as long as no scene change drops one. -/
theorem activeCount_eq_runs {host : Host} {project : Project} {game : Game}
    {states frames : List Game} (apart : project.IdsApart)
    (course : Course host project game states frames) {id : String}
    (known : game.world.HasEvent id) :
    game.world.board.activeCount id = runsOf game.eventRuns id + lostRuns id frames ∧
      (game.world.board.activeCount id = runsOf game.eventRuns id ↔
        ∀ frame ∈ frames, frame.droppedRuns id = 0) ∧
      (game.world.board.isActive id = true ↔
        0 < runsOf game.eventRuns id ∨ ∃ frame ∈ frames, 0 < frame.droppedRuns id) := by
  obtain ⟨origin, inBalance⟩ := course.inBalance apart
  have known : origin.HasEvent id := by
    unfold World.HasEvent at known ⊢
    rwa [inBalance.balanced.events] at known
  have count : game.world.board.activeCount id =
      runsOf game.eventRuns id + lostRuns id frames := by
    rw [inBalance.balanced.counts known, inBalance.unspawned, runsOf_nil]
    omega
  refine ⟨count, ?_, ?_⟩
  · rw [← lostRuns_eq_zero]
    omega
  · rw [inBalance.balanced.trimmed.isActive_iff, ← lostRuns_pos, count]
    omega

end Game

/-! ## Dropped and uncounted runs -/

instance (world : World) (id : String) : Decidable (world.HasEvent id) :=
  decidable_of_iff ((world.board.events.find? id).isSome = true) Option.isSome_iff_exists

private def waitAWhile : Command :=
  { id := "WaitCommand", params := .record [("time", .integer 9)] }

/-- The scene goes away while it waits for the event `guard`. -/
def waitUnderScene : Project where
  scenes := [
    { uid := "hall"
      commands := [{
        id := "CallCommonEvent"
        params := .record [("commonEventId", .text "guard")] }] },
    { uid := "yard" }]
  events := [
    { id := "guard", commands := [waitAWhile] },
    { id := "gate"
      parallel := true
      commands := [{ id := "ChangeScene", params := .record [("uid", .text "yard")] }] }]

/-- The scene calls the scene `guard`, beside an event that is called `guard` too and waits. -/
def sceneNamedLikeEvent : Project where
  scenes := [
    { uid := "hall"
      commands := [{ id := "CallScene", params := .record [("uid", .text "guard")] }] },
    { uid := "guard" }]
  events := [{ id := "guard", parallel := true, commands := [waitAWhile] }]

/-- The event under the scene is counted on, with no run of it left. -/
theorem waitUnderScene_activeCount :
    ∃ game states frames, Game.Course .plain waitUnderScene game states frames ∧
      runsOf game.eventRuns "guard" = 0 ∧ game.world.board.activeCount "guard" = 1 := by
  have ran : (firstFrame? .plain waitUnderScene 1).any (fun (_, frame) =>
      decide (frame.droppedRuns "guard" = 1) &&
      decide (runsOf frame.followSceneRequest.1.eventRuns "guard" = 0) &&
      decide (frame.followSceneRequest.1.world.HasEvent "guard")) = true := by
    decide +kernel
  obtain ⟨⟨game, frame⟩, ran, facts⟩ := (Option.any_eq_true _ _).mp ran
  simp only [Bool.and_eq_true, decide_eq_true_eq] at facts
  obtain ⟨⟨dropped, gone⟩, known⟩ := facts
  have course := Game.Course.first ran
  have count := (Game.activeCount_eq_runs (by decide) course known).1
  refine ⟨_, _, _, course, gone, ?_⟩
  rw [count, gone, Game.lostRuns, Game.lostRuns, dropped]

/-- A scene change leaves an event counted that no longer runs, and the end of a called scene
takes one off the count of an event with its id. -/
theorem not_always_activeCount :
    (¬ ∀ (host : Host) (project : Project) (game : Game) (states frames : List Game)
        (id : String),
      project.IdsApart → Game.Course host project game states frames → game.world.HasEvent id →
        game.world.board.activeCount id = runsOf game.eventRuns id) ∧
    (¬ ∀ (host : Host) (project : Project) (game : Game) (states frames : List Game)
        (id : String),
      Game.Course host project game states frames → game.world.HasEvent id →
        (∀ frame ∈ frames, frame.droppedRuns id = 0) →
        game.world.board.activeCount id = runsOf game.eventRuns id) := by
  constructor
  · intro always
    have ran : (firstFrame? .plain waitUnderScene 1).any (fun (_, frame) =>
        let game := frame.followSceneRequest.1
        decide (game.world.HasEvent "guard") &&
        decide (game.world.board.activeCount "guard" ≠ runsOf game.eventRuns "guard")) =
          true := by
      decide +kernel
    obtain ⟨⟨_, frame⟩, ran, facts⟩ := (Option.any_eq_true _ _).mp ran
    simp only [Bool.and_eq_true, decide_eq_true_eq] at facts
    exact facts.2 (always _ _ _ _ _ _ (by decide) (Game.Course.first ran) facts.1)
  · intro always
    have ran : (firstFrame? .plain sceneNamedLikeEvent 1).any (fun (_, frame) =>
        let game := frame.followSceneRequest.1
        decide (game.world.HasEvent "guard") && decide (frame.droppedRuns "guard" = 0) &&
        decide (game.world.board.activeCount "guard" ≠ runsOf game.eventRuns "guard")) =
          true := by
      decide +kernel
    obtain ⟨⟨_, frame⟩, ran, facts⟩ := (Option.any_eq_true _ _).mp ran
    simp only [Bool.and_eq_true, decide_eq_true_eq] at facts
    refine facts.2 (always _ _ _ _ _ _ (Game.Course.first ran) facts.1.1 ?_)
    intro _ member
    rw [List.mem_singleton.mp member]
    exact facts.1.2

end NovelEngine
