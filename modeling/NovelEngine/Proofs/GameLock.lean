import NovelEngine.Proofs.BoxLock
import NovelEngine.Proofs.Starting

/-!
Contract: the lock of the message box in a running game.

Owns:
- the courses that a game can take from its start by frames and events;
- the condition under which every lock has a holder, and the one under which the prompt
  stays on screen meanwhile.

Does not own: what a single thread does to the lock.

A scene change drops the scene together with the scripts it called, but gives up the lock
of the scene alone. This is the one way to lose the holder of a lock.
-/

namespace NovelEngine

/-! ## The lock among all runs -/

/-- Whoever owns the box is blocked on an input. -/
def LockHeld (runs : List Activation) (world : World) : Prop :=
  ∀ context, world.box.owner = some context → HoldsLock runs context

/-- Under a lock an input prompt is shown, or several runs share the context of the lock. -/
def PromptShown (runs : List Activation) (world : World) : Prop :=
  ∀ context, world.box.owner = some context →
    world.box.asks = true ∨ 1 < contextCount runs context

/-- Some runs change together with the world, and whatever runs there are besides, the
lock does not lose its holder and the prompt under it is not replaced. -/
def KeepsLock (before : List Activation) (world : World) (after : List Activation)
    (next : World) : Prop :=
  ∀ left right, LockHeld (left ++ before ++ right) world →
    LockHeld (left ++ after ++ right) next ∧
      (PromptShown (left ++ before ++ right) world →
        PromptShown (left ++ after ++ right) next)

namespace KeepsLock

variable {first second third : List Activation} {world between next : World}

theorem refl (runs : List Activation) (world : World) : KeepsLock runs world runs world :=
  fun _ _ held => ⟨held, id⟩

theorem trans (left : KeepsLock first world second between)
    (right : KeepsLock second between third next) : KeepsLock first world third next := by
  intro before behind held
  obtain ⟨heldBetween, shown⟩ := left before behind held
  obtain ⟨heldAfter, shownAfter⟩ := right before behind heldBetween
  exact ⟨heldAfter, fun prompt => shownAfter (shown prompt)⟩

/-- There may be no other runs. -/
theorem alone (keeps : KeepsLock first world second next) (held : LockHeld first world) :
    LockHeld second next ∧ (PromptShown first world → PromptShown second next) := by
  have whole := keeps [] []
  simp only [List.nil_append, List.append_nil] at whole
  exact whole held

/-- Two groups of runs that change one after the other. -/
theorem append {others changed : List Activation} (left : KeepsLock first world second between)
    (right : KeepsLock others between changed next) :
    KeepsLock (first ++ others) world (second ++ changed) next := by
  intro before behind
  have opening := left before (others ++ behind)
  have closing := right (before ++ second) behind
  simp only [List.append_assoc] at opening closing ⊢
  intro held
  obtain ⟨heldBetween, shown⟩ := opening held
  obtain ⟨heldAfter, shownAfter⟩ := closing heldBetween
  exact ⟨heldAfter, fun prompt => shownAfter (shown prompt)⟩

theorem congrBox (keeps : KeepsLock first world second between)
    (same : next.box = between.box) : KeepsLock first world second next := by
  unfold KeepsLock LockHeld PromptShown at keeps ⊢
  rw [same]
  exact keeps

/-- New runs may join. -/
theorem join (more : List Activation) (same : next.box = world.box) :
    KeepsLock [] world more next := by
  intro before behind
  unfold LockHeld PromptShown
  rw [same]
  simp only [holdsLock_append, contextCount_append]
  intro held
  refine ⟨fun context locked => ?_, fun shown context locked => ?_⟩
  · rcases held context locked with (inside | none) | behind
    · exact .inl (.inl inside)
    · exact absurd none not_holdsLock_nil
    · exact .inr behind
  · refine (shown context locked).imp id (fun shared => ?_)
    simp only [contextCount, List.map_nil, List.count_nil] at shared ⊢
    omega

/-- A run that awaits nothing and does not own the box may go. -/
theorem leave {run : Activation} (done : run.awaitsInput = false)
    (released : world.box.owner ≠ some run.context) : KeepsLock [run] world [] world := by
  intro before behind
  unfold LockHeld PromptShown
  simp only [holdsLock_append, contextCount_append, holdsLock_cons_of_quiet done]
  intro held
  refine ⟨held, fun shown context locked => ?_⟩
  have gone : run.context ≠ context := by
    rintro rfl
    exact released locked
  simpa [contextCount_cons, gone] using shown context locked

end KeepsLock

/-- Runs that handle the lock as a thread does keep it, whatever other runs there are. -/
theorem HandlesLock.keeps {before after : List Activation} {world next : World}
    (lock : HandlesLock [] before world after next) : KeepsLock before world after next := by
  intro left right held
  unfold LockHeld PromptShown at *
  simp only [holdsLock_append, contextCount_append] at *
  refine ⟨fun context locked => ?_, fun shown context locked => ?_⟩
  · rcases lock.held locked with inside | ⟨owner, unheld⟩
    · exact .inl (.inr inside)
    · rcases held context owner with (ahead | inside) | behind
      · exact .inl (.inl ahead)
      · exact absurd inside unheld
      · exact .inr behind
  · rcases lock.shown locked with asks | ⟨owner, ⟨content, more⟩ | ⟨unheld, shared⟩⟩
    · exact .inl asks
    · rcases shown context owner with asks | shared
      · exact .inl ((MessageBox.asks_congr content).trans asks)
      · exact .inr (by omega)
    · -- The holder is in another thread, hence two runs are in the context.
      have inside := contextCount_pos.mpr shared
      rcases held context owner with (ahead | held) | behind
      · have outside := ahead.contextCount_pos
        exact .inr (by omega)
      · exact absurd held unheld
      · have outside := behind.contextCount_pos
        exact .inr (by omega)

/-! ## Threads side by side -/

/-- The runs of several threads. -/
def chains (threads : List Thread) : List Activation :=
  threads.flatMap Thread.chain

/-- A thread of a game: nobody waits for its outermost run. -/
structure Thread.Outermost (thread : Thread) : Prop where
  linked : thread.Linked
  callers : thread.root.callers = []

theorem Thread.outermost_started (context : Context) (script : Script) (repeats : Bool) :
    Thread.Outermost { root := { context, script, repeats : Activation }.start } where
  linked := .single (consistent_started context script [] repeats)
  callers := rfl

theorem Thread.Outermost.update {thread : Thread} (outermost : thread.Outermost) {fuel : Nat}
    {world : World} (fresh : world.SpawnsFresh) {update : Update}
    (updated : thread.update fuel world = some update) :
    Advances thread world update ∧ update.thread.Outermost ∧
      KeepsLock thread.chain world update.thread.chain update.world := by
  have advances := outermost.linked.update fresh updated
  have lock := advances.lock
  rw [outermost.callers] at lock
  exact ⟨advances, ⟨advances.linked, advances.sameRun.callers.trans outermost.callers⟩,
    lock.keeps⟩

theorem Thread.Outermost.notify {thread : Thread} (outermost : thread.Outermost)
    {world : World} {event : HostEvent} {run : Run}
    (accepted : thread.notify? world event = some run) :
    Heeds thread world run ∧ run.thread.Outermost := by
  have heeds := outermost.linked.notify accepted
  exact ⟨heeds, heeds.linked, heeds.sameRun.callers.trans outermost.callers⟩

/-- The first of several threads is updated before the others and goes on or goes away. -/
theorem Game.updateParallel_cases {fuel : Nat} {thread : Thread} {rest kept : List Thread}
    {world next : World} {notices : List Notice}
    (updated : updateParallel fuel (thread :: rest) world = some (kept, next, notices)) :
    ∃ update later told, thread.update fuel world = some update ∧
      (update.progress = .running ∧ kept = update.thread :: later ∧
          updateParallel fuel rest update.world = some (later, next, told) ∨
        update.progress = .finished ∧ kept = later ∧
          updateParallel fuel rest (update.world.deactivate update.thread.root.context.id) =
            some (later, next, told)) := by
  unfold updateParallel at updated
  split at updated
  · cases updated
  · rename_i update ran
    dsimp only at updated
    cases progress : update.progress with
    | running =>
        rw [progress] at updated
        obtain ⟨⟨later, last, told⟩, ranRest, equal⟩ := Option.map_eq_some_iff.mp updated
        cases equal
        exact ⟨update, later, told, ran, .inl ⟨progress, rfl, ranRest⟩⟩
    | finished =>
        rw [progress] at updated
        obtain ⟨⟨later, last, told⟩, ranRest, equal⟩ := Option.map_eq_some_iff.mp updated
        cases equal
        exact ⟨update, later, told, ran, .inr ⟨progress, rfl, ranRest⟩⟩

/-- The scene runs first, then the threads beside it, and spawned scripts are adopted. -/
theorem Game.runThreads_cases {game : Game} {fuel : Nat} {frame : Tick}
    (ran : game.runThreads fuel = some frame) :
    ∃ update parallel world notices, game.main.update fuel game.world = some update ∧
      updateParallel fuel game.parallel update.world = some (parallel, world, notices) ∧
      frame.game = adoptSpawned { world, main := update.thread, parallel } := by
  unfold Game.runThreads at ran
  split at ran
  · cases ran
  · rename_i update updated
    split at ran
    · cases ran
    · rename_i parallel world notices ranParallel
      cases ran
      exact ⟨update, parallel, world, notices, updated, ranParallel, rfl⟩

/-- The threads beside the scene keep the lock, those that end included. -/
theorem updateParallel_keeps {fuel : Nat} {threads kept : List Thread} {world next : World}
    {notices : List Notice} (outermost : ∀ thread ∈ threads, thread.Outermost)
    (fresh : world.SpawnsFresh)
    (updated : Game.updateParallel fuel threads world = some (kept, next, notices)) :
    (∀ thread ∈ kept, thread.Outermost) ∧ next.SpawnsFresh ∧
      KeepsLock (chains threads) world (chains kept) next := by
  induction threads generalizing world kept next notices with
  | nil =>
      cases updated
      exact ⟨outermost, fresh, .refl _ _⟩
  | cons thread rest inductionHypothesis =>
      obtain ⟨here, others⟩ := List.forall_mem_cons.mp outermost
      obtain ⟨update, later, told, ran, outcome⟩ := Game.updateParallel_cases updated
      obtain ⟨advances, still, keeps⟩ := here.update fresh ran
      rcases outcome with ⟨_, rfl, ranRest⟩ | ⟨progress, rfl, ranRest⟩
      · obtain ⟨keptOthers, freshLast, keepsRest⟩ :=
          inductionHypothesis others advances.fresh ranRest
        exact ⟨List.forall_mem_cons.mpr ⟨still, keptOthers⟩, freshLast, keeps.append keepsRest⟩
      · obtain ⟨alone, done⟩ := advances.alone progress
        have gone : KeepsLock thread.chain world []
            (update.world.deactivate update.thread.root.context.id) := by
          rw [alone] at keeps
          exact (keeps.trans (.leave done (advances.finished progress).2)).congrBox rfl
        have freshWorld :
            (update.world.deactivate update.thread.root.context.id).SpawnsFresh :=
          advances.fresh
        obtain ⟨keptOthers, freshLast, keepsRest⟩ :=
          inductionHypothesis others freshWorld ranRest
        exact ⟨keptOthers, freshLast, gone.append keepsRest⟩

/-- What an event does to the lock of several threads: nobody loses or gains it except by
giving it up. -/
structure HeedAll (threads : List Thread) (world : World) (told : List Thread)
    (next : World) : Prop where
  outermost : ∀ thread ∈ told, thread.Outermost
  lock : LeavesLock (chains threads) world (chains told) next
  holders : ∀ context, HoldsLock (chains told) context → HoldsLock (chains threads) context
  spawned : next.spawned = world.spawned

theorem LeavesLock.append {first second others changed : List Activation}
    {world between next : World} (left : LeavesLock first world second between)
    (right : LeavesLock others between changed next) :
    LeavesLock (first ++ others) world (second ++ changed) next := by
  intro context locked
  obtain ⟨ownerBetween, contentBetween, holdersRight⟩ := right context locked
  obtain ⟨owner, content, holdersLeft⟩ := left context ownerBetween
  refine ⟨owner, contentBetween.trans content, ?_⟩
  simp only [holdsLock_append]
  exact Or.imp holdersLeft holdersRight

namespace HeedAll

theorem refl {threads : List Thread} (outermost : ∀ thread ∈ threads, thread.Outermost)
    (world : World) : HeedAll threads world threads world :=
  ⟨outermost, .refl _ _, fun _ => id, rfl⟩

/-- One thread is told of the event before the others. -/
theorem cons {thread : Thread} {rest told : List Thread} {world next : World} {run : Run}
    (heeds : Heeds thread world run) (outermost : run.thread.Outermost)
    (later : HeedAll rest run.world told next) :
    HeedAll (thread :: rest) world (run.thread :: told) next where
  outermost := List.forall_mem_cons.mpr ⟨outermost, later.outermost⟩
  lock := heeds.lock.append later.lock
  holders := by
    intro context held
    rcases holdsLock_append.mp held with here | there
    · exact holdsLock_append.mpr (.inl (heeds.holders context here))
    · exact holdsLock_append.mpr (.inr (later.holders context there))
  spawned := later.spawned.trans heeds.spawned

end HeedAll

/-- The first thread that waits for an event hears it, and no other. -/
theorem notifyFirst?_cases {event : HostEvent} {world next : World}
    {threads told : List Thread} {notices : List Notice}
    (accepted : Game.notifyFirst? event world threads = some (told, next, notices)) :
    ∃ before thread behind run, threads = before ++ thread :: behind ∧
      (∀ other ∈ before, other.notify? world event = none) ∧
      thread.notify? world event = some run ∧ told = before ++ run.thread :: behind ∧
      next = run.world := by
  induction threads generalizing told next notices with
  | nil => cases accepted
  | cons thread rest inductionHypothesis =>
      unfold Game.notifyFirst? at accepted
      split at accepted
      · rename_i run heard
        cases accepted
        exact ⟨[], thread, rest, run, rfl, by simp, heard, rfl, rfl⟩
      · rename_i refused
        obtain ⟨⟨later, last, _⟩, found, equal⟩ := Option.map_eq_some_iff.mp accepted
        cases equal
        obtain ⟨before, hearer, behind, run, threads, others, heard, told, world⟩ :=
          inductionHypothesis found
        exact ⟨thread :: before, hearer, behind, run, congrArg (thread :: ·) threads,
          List.forall_mem_cons.mpr ⟨refused, others⟩, heard, congrArg (thread :: ·) told, world⟩

/-- An event leaves the runs of a thread what they are. -/
theorem Thread.notify?_identities {thread : Thread} {world : World} {event : HostEvent}
    {run : Run} (accepted : thread.notify? world event = some run) :
    run.thread.chain.map Activation.identity = thread.chain.map Activation.identity := by
  obtain ⟨root, callees⟩ := thread
  induction callees generalizing root run with
  | nil =>
      obtain ⟨delivery, delivered, rfl⟩ := Option.map_eq_some_iff.mp accepted
      have same := Activation.sameRun_iff.mp (Activation.deliver?_sameRun delivered)
      exact congrArg (fun identity => [identity]) same
  | cons callee rest inductionHypothesis =>
      obtain ⟨inner, reached, rfl⟩ := Option.map_eq_some_iff.mp accepted
      exact congrArg (root.identity :: ·) (inductionHypothesis callee reached)

theorem notifyFirst?_identities {event : HostEvent} {world next : World}
    {threads told : List Thread} {notices : List Notice}
    (accepted : Game.notifyFirst? event world threads = some (told, next, notices)) :
    (chains told).map Activation.identity = (chains threads).map Activation.identity := by
  obtain ⟨before, thread, behind, run, rfl, _, heard, rfl, _⟩ := notifyFirst?_cases accepted
  simp only [chains, List.flatMap_append, List.flatMap_cons, List.map_append,
    Thread.notify?_identities heard]

theorem notifyAll_identities (event : HostEvent) (world : World) (threads : List Thread) :
    (chains (Game.notifyAll event world threads).1).map Activation.identity =
      (chains threads).map Activation.identity := by
  induction threads generalizing world with
  | nil => rfl
  | cons thread rest inductionHypothesis =>
      unfold Game.notifyAll
      cases heard : thread.notify? world event with
      | none =>
          simp only [chains, List.flatMap_cons, List.map_append]
          exact congrArg _ (inductionHypothesis world)
      | some run =>
          simp only [chains, List.flatMap_cons, List.map_append,
            Thread.notify?_identities heard]
          exact congrArg _ (inductionHypothesis run.world)

/-- The spawned scripts run beside the others from now on. -/
theorem Game.chains_adoptSpawned (game : Game) :
    chains game.adoptSpawned.parallel = chains game.parallel ++ game.world.spawned := by
  have single (runs : List Activation) :
      (runs.map (fun root => { root : Thread })).flatMap Thread.chain = runs := by
    induction runs with
    | nil => rfl
    | cons run rest inductionHypothesis => exact congrArg (run :: ·) inductionHypothesis
  simp only [chains, Game.adoptSpawned, World.takeSpawned, List.flatMap_append, single]

theorem notifyFirst?_heeds {event : HostEvent} {world next : World}
    {threads told : List Thread} {notices : List Notice}
    (outermost : ∀ thread ∈ threads, thread.Outermost)
    (accepted : Game.notifyFirst? event world threads = some (told, next, notices)) :
    HeedAll threads world told next := by
  induction threads generalizing told next notices with
  | nil => cases accepted
  | cons thread rest inductionHypothesis =>
      obtain ⟨here, others⟩ := List.forall_mem_cons.mp outermost
      unfold Game.notifyFirst? at accepted
      split at accepted
      · rename_i run heard
        cases accepted
        obtain ⟨heeds, still⟩ := here.notify heard
        exact .cons heeds still (.refl others _)
      · obtain ⟨⟨later, last, _⟩, found, equal⟩ := Option.map_eq_some_iff.mp accepted
        cases equal
        exact .cons (.refl here.linked world) here (inductionHypothesis others found)

theorem notifyAll_heeds (event : HostEvent) (world : World) {threads : List Thread}
    (outermost : ∀ thread ∈ threads, thread.Outermost) :
    HeedAll threads world (Game.notifyAll event world threads).1
      (Game.notifyAll event world threads).2.1 := by
  induction threads generalizing world with
  | nil => exact .refl outermost world
  | cons thread rest inductionHypothesis =>
      obtain ⟨here, others⟩ := List.forall_mem_cons.mp outermost
      unfold Game.notifyAll
      cases heard : thread.notify? world event with
      | none =>
          exact .cons (.refl here.linked world) here (inductionHypothesis world others)
      | some run =>
          obtain ⟨heeds, still⟩ := here.notify heard
          exact .cons heeds still (inductionHypothesis run.world others)

/-! ## The states of a game -/

namespace Game

/-- Every run of the game: the scene, the threads beside it and the scripts they wait for. -/
def live (game : Game) : List Activation :=
  game.main.chain ++ chains game.parallel

/-- Whoever owns the box is a run that is blocked on an input. -/
def HoldsItsLock (game : Game) : Prop :=
  LockHeld game.live game.world

/-- The lock has a holder, and the box shows an input prompt. -/
def PromptOpen (game : Game) : Prop :=
  ∀ context, game.world.box.owner = some context →
    HoldsLock game.live context ∧ game.world.box.asks = true

/-- A scene change is due and will go through. -/
def LeavesScene (game : Game) : Prop :=
  ∃ uid scene, game.world.sceneRequest = some uid ∧ game.world.scenes.find? uid = some scene

/-- The box is locked and stays so: its owner is not the scene, or the scene stays. -/
def StaysLocked (game : Game) (context : Context) : Prop :=
  game.world.box.owner = some context ∧
    (game.LeavesScene → context ≠ game.main.root.context)

/-- The scene is about to go while a script that it called holds the lock, and nothing
beside the scene holds it as well. -/
def AbandonsLock (game : Game) : Prop :=
  game.LeavesScene ∧ ∃ context, game.StaysLocked context ∧
    ¬ HoldsLock (chains game.parallel) context

/-- Several runs are in the context that owns the box, and something else than an input
prompt is shown. -/
def ReplacesPrompt (game : Game) : Prop :=
  ∃ context, game.StaysLocked context ∧ 1 < contextCount game.live context ∧
    game.world.box.asks = false

/-- What holds in every state of a game, whoever owns the box. -/
structure Sound (game : Game) : Prop where
  main : game.main.Outermost
  parallel : ∀ thread ∈ game.parallel, thread.Outermost
  fresh : game.world.SpawnsFresh

/-- When the threads have run, the lock is held as before. -/
theorem Sound.runThreads {game : Game} (sound : game.Sound) {fuel : Nat} {frame : Tick}
    (ran : game.runThreads fuel = some frame) :
    frame.game.Sound ∧
      KeepsLock game.live game.world frame.game.live frame.game.world := by
  obtain ⟨update, parallel, world, _, updated, ranParallel, adopted⟩ := runThreads_cases ran
  rw [adopted]
  obtain ⟨advances, main, keepsMain⟩ := sound.main.update sound.fresh updated
  obtain ⟨outermost, fresh, keepsParallel⟩ :=
    updateParallel_keeps sound.parallel advances.fresh ranParallel
  have joined : KeepsLock [] world (chains (world.spawned.map (fun root => { root })))
      { world with spawned := [] } := .join _ rfl
  refine ⟨⟨main, ?_, fun _ member => absurd member List.not_mem_nil⟩, ?_⟩
  · intro thread member
    rcases List.mem_append.mp member with old | new
    · exact outermost thread old
    · obtain ⟨spawned, inside, rfl⟩ := List.mem_map.mp new
      obtain ⟨context, script, rfl⟩ := fresh spawned inside
      exact Thread.outermost_started context script false
  · have keeps := (keepsMain.append keepsParallel).append joined
    simpa only [live, adoptSpawned, World.takeSpawned, chains, List.flatMap_append,
      List.append_assoc, List.append_nil] using keeps

theorem Sound.notify {game next : Game} (sound : game.Sound) {event : HostEvent}
    {notices : List Notice} (accepted : game.notify? event = some (next, notices)) :
    next.Sound ∧ LeavesLock game.live game.world next.live next.world := by
  unfold Game.notify? at accepted
  split at accepted
  · rename_i run heard
    cases accepted
    obtain ⟨heeds, main⟩ := sound.main.notify heard
    exact ⟨⟨main, sound.parallel, sound.fresh.congr heeds.spawned⟩,
      heeds.lock.append (.refl _ _)⟩
  · obtain ⟨⟨told, world, _⟩, found, equal⟩ := Option.map_eq_some_iff.mp accepted
    cases equal
    have heeds := notifyFirst?_heeds sound.parallel found
    exact ⟨⟨sound.main, heeds.outermost, sound.fresh.congr heeds.spawned⟩,
      (LeavesLock.refl _ _).append heeds.lock⟩

end Game

/-! ## Scene changes -/

/-- The end of a transition changes nothing but the run that waited for it. -/
theorem Thread.notify?_transition {thread : Thread} {world : World} {run : Run}
    (accepted : thread.notify? world .transitionFinished = some run) : run.world = world := by
  obtain ⟨root, callees⟩ := thread
  induction callees generalizing root run with
  | nil =>
      obtain ⟨delivery, delivered, rfl⟩ := Option.map_eq_some_iff.mp accepted
      unfold Activation.deliver? at delivered
      split at delivered
      · rename_i event
        cases event
      · rename_i event
        cases event
      · rename_i event
        cases event
      · cases delivered
        rfl
      · cases delivered
  | cons callee rest inductionHypothesis =>
      obtain ⟨inner, reached, rfl⟩ := Option.map_eq_some_iff.mp accepted
      have same : inner.world = world := inductionHypothesis callee reached
      exact same

theorem notifyAll_transition (world : World) (threads : List Thread) :
    (Game.notifyAll .transitionFinished world threads).2.1 = world := by
  induction threads with
  | nil => rfl
  | cons thread rest inductionHypothesis =>
      unfold Game.notifyAll
      cases heard : thread.notify? world .transitionFinished with
      | none => exact inductionHypothesis
      | some run =>
          dsimp only
          rw [Thread.notify?_transition heard]
          exact inductionHypothesis

theorem notifyFirst?_transition {world next : World} {threads told : List Thread}
    {notices : List Notice}
    (accepted : Game.notifyFirst? .transitionFinished world threads =
      some (told, next, notices)) : next = world := by
  obtain ⟨_, _, _, run, _, _, heard, _, same⟩ := notifyFirst?_cases accepted
  exact same.trans (Thread.notify?_transition heard)

namespace Game

/-- What a due scene change leaves of the lock. -/
structure Settles (game next : Game) : Prop where
  sound : next.Sound
  owner : ∀ context, next.world.box.owner = some context ↔ game.StaysLocked context
  content : ∀ context, next.world.box.owner = some context →
    next.world.box.content = game.world.box.content
  held : game.HoldsItsLock → (next.HoldsItsLock ↔ ¬ game.AbandonsLock)

/-- Without a scene to change to, the lock is left alone. -/
private theorem settles_of_stays {game next : Game} (stays : ¬ game.LeavesScene)
    (sound : next.Sound) (box : next.world.box = game.world.box)
    (leaves : LeavesLock game.live game.world next.live next.world) :
    game.Settles next where
  sound := sound
  owner := by
    intro context
    rw [box]
    exact ⟨fun locked => ⟨locked, fun goes => absurd goes stays⟩, And.left⟩
  content := fun _ _ => congrArg MessageBox.content box
  held := by
    intro held
    refine ⟨fun _ abandons => stays abandons.1, fun _ context locked => ?_⟩
    obtain ⟨owner, _, holders⟩ := leaves context locked
    exact holders (held context owner)

/-- The new scene has no prompt yet; the threads beside it keep theirs. -/
private theorem settles_of_leaves {game : Game} (sound : game.Sound)
    (leaves : game.LeavesScene) (context : Context) (script : Script) {left : World}
    (box : left.box = (game.world.box.release game.main.root.context).erase)
    (spawned : left.spawned = game.world.spawned) :
    game.Settles {
      world := left
      main := { root := { context, script : Activation }.start }
      parallel := (notifyAll .transitionFinished left game.parallel).1 } := by
  have heeds := notifyAll_heeds .transitionFinished left sound.parallel
  rw [notifyAll_transition] at heeds
  have owner (context : Context) :
      left.box.owner = some context ↔ game.StaysLocked context := by
    rw [box, MessageBox.erase_owner]
    constructor
    · intro locked
      obtain ⟨same, other⟩ := MessageBox.release_of_owner locked
      rw [same] at locked
      exact ⟨locked, fun _ => other⟩
    · rintro ⟨locked, other⟩
      simp [MessageBox.release, locked, other leaves]
  have unheld (other : Context) :
      ¬ HoldsLock [{ context, script : Activation }.start] other := by
    simp [holdsLock_cons_of_quiet (Activation.isAwake_start _).awaitsInput]
  refine ⟨⟨Thread.outermost_started _ _ _, heeds.outermost, sound.fresh.congr spawned⟩, owner,
    ?_, ?_⟩
  · intro context locked
    have locked : left.box.owner = some context := locked
    have owned := ((owner context).mp locked).1
    rw [box, MessageBox.erase_owner] at locked
    obtain ⟨same, _⟩ := MessageBox.release_of_owner locked
    dsimp only
    rw [box, same, MessageBox.erase_of_owner owned]
  · intro _
    constructor
    · rintro held ⟨_, context, locked, gone⟩
      rcases holdsLock_append.mp (held context ((owner context).mpr locked)) with here | there
      · exact unheld context here
      · exact gone (heeds.holders context there)
    · intro stays context locked
      have inside : HoldsLock (chains game.parallel) context := by
        refine Decidable.byContradiction (fun gone => stays ?_)
        exact ⟨leaves, context, (owner context).mp locked, gone⟩
      exact holdsLock_append.mpr (.inr ((heeds.lock context locked).2.2 inside))

theorem notify?_transition {game next : Game} {notices : List Notice}
    (accepted : game.notify? .transitionFinished = some (next, notices)) :
    next.world = game.world := by
  unfold Game.notify? at accepted
  split at accepted
  · rename_i run heard
    cases accepted
    exact Thread.notify?_transition heard
  · obtain ⟨⟨told, world, _⟩, found, equal⟩ := Option.map_eq_some_iff.mp accepted
    cases equal
    exact notifyFirst?_transition found

/-- The state after a scene change: the scene is new, and whoever waited for the transition
goes on. -/
def enterScene (game : Game) (scene : Scene) : Game where
  world := game.leaveScene
  main := { root :=
    ({ context := { id := scene.uid }, script := scene.script } : Activation).start }
  parallel := (notifyAll .transitionFinished game.leaveScene game.parallel).1

/-- The game without the scene change that was due. -/
def withoutRequest (game : Game) : Game :=
  { game with world := { game.world with sceneRequest := none } }

/-- What a frame does when its threads have run: a scene change goes through, or nothing
happens but the end of a transition. -/
theorem followSceneRequest_cases (game : Game) :
    (∃ uid scene, game.world.sceneRequest = some uid ∧
        game.world.scenes.find? uid = some scene ∧
        game.followSceneRequest.1 = game.withoutRequest.enterScene scene) ∨
      ¬ game.LeavesScene ∧ (game.followSceneRequest.1 = game ∨
        game.followSceneRequest.1 = game.withoutRequest ∨
        ∃ notices, game.withoutRequest.notify? .transitionFinished =
          some (game.followSceneRequest.1, notices)) := by
  unfold Game.followSceneRequest World.takeSceneRequest
  dsimp only
  cases due : game.world.sceneRequest with
  | none =>
      refine .inr ⟨?_, .inl rfl⟩
      rintro ⟨_, _, other, _⟩
      rw [due] at other
      cases other
  | some uid =>
      dsimp only
      unfold Game.changeScene World.sceneThread
      cases found : game.world.scenes.find? uid with
      | some scene =>
          refine .inl ⟨uid, scene, rfl, found, ?_⟩
          dsimp only
          rw [notifyAll_transition]
          rfl
      | none =>
          refine .inr ⟨?_, ?_⟩
          · rintro ⟨_, _, other, present⟩
            rw [due] at other
            cases other
            rw [found] at present
            cases present
          · right
            dsimp only
            split
            · rename_i next notices accepted
              exact .inr ⟨notices, accepted⟩
            · exact .inl rfl

/-- Between the frame and the next call a due scene change is carried out. The lock keeps
its holder unless the change abandons it. -/
theorem Sound.followSceneRequest {game : Game} (sound : game.Sound) :
    game.Settles game.followSceneRequest.1 := by
  have unrequested : game.withoutRequest.Sound := ⟨sound.main, sound.parallel, sound.fresh⟩
  rcases game.followSceneRequest_cases with
    ⟨uid, scene, due, found, equal⟩ | ⟨stays, same | idle | ⟨notices, accepted⟩⟩
  · rw [equal]
    exact @settles_of_leaves game sound ⟨uid, scene, due, found⟩ _ scene.script
      game.withoutRequest.leaveScene rfl rfl
  · rw [same]
    exact settles_of_stays stays sound rfl (.refl _ _)
  · rw [idle]
    exact settles_of_stays stays unrequested rfl (.refl _ _)
  · obtain ⟨told, leaves⟩ := unrequested.notify accepted
    have box : game.followSceneRequest.1.world.box = game.world.box := by
      rw [notify?_transition accepted]
      rfl
    exact settles_of_stays stays told box leaves

end Game

/-! ## The start of a game -/

/-- Nobody owns the box and nothing has been spawned. -/
structure World.IsIdle (world : World) : Prop where
  unlocked : world.box.owner = none
  unspawned : world.spawned = []

theorem Game.start_sound {host : Host} {project : Project} {game : Game}
    {notices : List Notice} (started : host.start project = .ok (game, notices)) :
    game.Sound ∧ game.world.box.owner = none := by
  obtain ⟨loading, uid, scene, loaded, _, rfl⟩ := Host.start_cases started
  have idle : loading.world.IsIdle :=
    Loading.addSources_keeps World.IsIdle
      (fun _ _ idle => ⟨idle.unlocked, idle.unspawned⟩)
      (fun _ _ idle => ⟨idle.unlocked, idle.unspawned⟩) ⟨rfl, rfl⟩ loaded
  obtain ⟨active, activated⟩ := loading.world.activateAll_eq (host.parallelEvents loading.world)
  rw [activated]
  refine ⟨⟨Thread.outermost_started _ _ _, ?_, ?_⟩, idle.unlocked⟩
  · intro thread member
    obtain ⟨event, _, rfl⟩ := List.mem_map.mp member
    exact Thread.outermost_started _ _ _
  · intro spawned member
    dsimp only at member
    rw [idle.unspawned] at member
    cases member

/-! ## Courses -/

/-- The course so far of a game that was started on a host: its present state, all states
between calls, and for every frame the state in which its threads had run and a scene change
was still due. -/
inductive Game.Course (host : Host) (project : Project) : Game → List Game → List Game → Prop where
  | start {game : Game} {notices : List Notice}
      (started : host.start project = .ok (game, notices)) :
      Game.Course host project game [game] []
  | tick {game : Game} {states frames : List Game} {fuel : Nat} {frame tick : Game.Tick}
      (course : Game.Course host project game states frames)
      (ran : game.runThreads fuel = some frame) (ticked : game.tick fuel = some tick) :
      Game.Course host project tick.game (tick.game :: states) (frame.game :: frames)
  | notify {game next : Game} {states frames : List Game} {event : HostEvent}
      {notices : List Notice} (course : Game.Course host project game states frames)
      (accepted : game.notify? event = some (next, notices)) :
      Game.Course host project next (next :: states) frames

namespace Game

theorem tick_eq {game : Game} {fuel : Nat} {frame : Tick}
    (ran : game.runThreads fuel = some frame) :
    game.tick fuel = some { frame with
      game := frame.game.followSceneRequest.1
      notices := frame.notices ++ frame.game.followSceneRequest.2 } := by
  simp [Game.tick, ran]

theorem tick_game {game : Game} {fuel : Nat} {frame tick : Tick}
    (ran : game.runThreads fuel = some frame) (ticked : game.tick fuel = some tick) :
    tick.game = frame.game.followSceneRequest.1 := by
  rw [tick_eq ran] at ticked
  cases ticked
  rfl

theorem Course.present_mem {host : Host} {project : Project} {game : Game}
    {states frames : List Game} (course : Course host project game states frames) :
    game ∈ states := by
  cases course <;> simp

theorem Course.sound {host : Host} {project : Project} {game : Game}
    {states frames : List Game} (course : Course host project game states frames) :
    game.Sound := by
  induction course with
  | start started => exact (start_sound started).1
  | tick _ ran ticked sound =>
      rw [tick_game ran ticked]
      exact (sound.runThreads ran).1.followSceneRequest.sound
  | notify _ accepted sound => exact (sound.notify accepted).1

/-- A frame keeps the holder of the lock exactly if its scene change does not abandon it. -/
theorem Sound.frame_held {game : Game} (sound : game.Sound) (held : game.HoldsItsLock)
    {fuel : Nat} {frame : Tick} (ran : game.runThreads fuel = some frame) :
    frame.game.followSceneRequest.1.HoldsItsLock ↔ ¬ frame.game.AbandonsLock := by
  obtain ⟨soundFrame, keeps⟩ := sound.runThreads ran
  exact soundFrame.followSceneRequest.held (keeps.alone held).1

/-- A frame keeps the prompt open exactly if it neither abandons the lock nor lets a run in
the same context replace the prompt. -/
theorem Sound.frame_open {game : Game} (sound : game.Sound) (shows : game.PromptOpen)
    {fuel : Nat} {frame : Tick} (ran : game.runThreads fuel = some frame) :
    frame.game.followSceneRequest.1.PromptOpen ↔
      ¬ frame.game.AbandonsLock ∧ ¬ frame.game.ReplacesPrompt := by
  obtain ⟨soundFrame, keeps⟩ := sound.runThreads ran
  have held : game.HoldsItsLock := fun context locked => (shows context locked).1
  have shown : PromptShown game.live game.world :=
    fun context locked => .inl (shows context locked).2
  have shownFrame := (keeps.alone held).2 shown
  have heldFrame := sound.frame_held held ran
  have settles := soundFrame.followSceneRequest
  constructor
  · intro openAfter
    refine ⟨heldFrame.mp (fun context locked => (openAfter context locked).1), ?_⟩
    rintro ⟨context, stays, _, replaced⟩
    have locked := (settles.owner context).mpr stays
    have asks := (openAfter context locked).2
    rw [MessageBox.asks_congr (settles.content context locked), replaced] at asks
    cases asks
  · rintro ⟨stays, keepsPrompt⟩ context locked
    refine ⟨heldFrame.mpr stays context locked, ?_⟩
    have lasting := (settles.owner context).mp locked
    rw [MessageBox.asks_congr (settles.content context locked)]
    rcases shownFrame context lasting.1 with asks | shared
    · exact asks
    · cases asks : frame.game.world.box.asks with
      | true => rfl
      | false => exact absurd ⟨context, lasting, shared, asks⟩ keepsPrompt

/-- In every state the lock has a holder, exactly if no frame has abandoned it. -/
theorem Course.held_iff {host : Host} {project : Project} {game : Game}
    {states frames : List Game} (course : Course host project game states frames) :
    (∀ state ∈ states, state.HoldsItsLock) ↔ ∀ frame ∈ frames, ¬ frame.AbandonsLock := by
  induction course with
  | start started =>
      have unlocked := (start_sound started).2
      simp only [List.mem_singleton, forall_eq, List.not_mem_nil, false_implies, implies_true,
        iff_true]
      intro context locked
      exact absurd (unlocked.symm.trans locked) (by simp)
  | tick course ran ticked inductionHypothesis =>
      rw [List.forall_mem_cons, List.forall_mem_cons, ← inductionHypothesis,
        tick_game ran ticked]
      refine and_congr_left (fun held => ?_)
      exact course.sound.frame_held (held _ course.present_mem) ran
  | notify course accepted inductionHypothesis =>
      rw [List.forall_mem_cons, ← inductionHypothesis]
      refine and_iff_right_of_imp (fun held context locked => ?_)
      obtain ⟨owner, _, holders⟩ := (course.sound.notify accepted).2 context locked
      exact holders (held _ course.present_mem context owner)

/-- In every state the prompt is open, exactly if no frame has abandoned the lock or let
another run replace the prompt. -/
theorem Course.promptOpen_iff {host : Host} {project : Project} {game : Game}
    {states frames : List Game} (course : Course host project game states frames) :
    (∀ state ∈ states, state.PromptOpen) ↔
      ∀ frame ∈ frames, ¬ frame.AbandonsLock ∧ ¬ frame.ReplacesPrompt := by
  induction course with
  | start started =>
      have unlocked := (start_sound started).2
      simp only [List.mem_singleton, forall_eq, List.not_mem_nil, false_implies, implies_true,
        iff_true]
      intro context locked
      exact absurd (unlocked.symm.trans locked) (by simp)
  | tick course ran ticked inductionHypothesis =>
      rw [List.forall_mem_cons, List.forall_mem_cons, ← inductionHypothesis,
        tick_game ran ticked]
      refine and_congr_left (fun shows => ?_)
      exact course.sound.frame_open (shows _ course.present_mem) ran
  | notify course accepted inductionHypothesis =>
      rw [List.forall_mem_cons, ← inductionHypothesis]
      refine and_iff_right_of_imp (fun shows context locked => ?_)
      obtain ⟨owner, content, holders⟩ := (course.sound.notify accepted).2 context locked
      obtain ⟨held, asks⟩ := shows _ course.present_mem context owner
      exact ⟨holders held, (MessageBox.asks_congr content).trans asks⟩

/-- Over the whole course of a game the lock of the box is never without a holder, exactly
if no scene change drops the script that holds it. Moreover its prompt is on screen all the
time, exactly if no other run in the context of the holder replaces it. -/
theorem lock_held_iff {host : Host} {project : Project} {game : Game}
    {states frames : List Game} (course : Course host project game states frames) :
    ((∀ state ∈ states, state.HoldsItsLock) ↔ ∀ frame ∈ frames, ¬ frame.AbandonsLock) ∧
      ((∀ state ∈ states, state.PromptOpen) ↔
        ∀ frame ∈ frames, ¬ frame.AbandonsLock ∧ ¬ frame.ReplacesPrompt) :=
  ⟨course.held_iff, course.promptOpen_iff⟩

end Game

/-! ## Scene changes while a prompt is open -/

/-- A project right after its start, and when its threads have run for the first time. -/
def firstFrame? (host : Host) (project : Project) (fuel : Nat) : Option (Game × Game) :=
  match host.start project with
  | .error _ => none
  | .ok (game, _) => (game.runThreads fuel).map (fun frame => (game, frame.game))

theorem Game.Course.first {host : Host} {project : Project} {fuel : Nat} {game frame : Game}
    (ran : firstFrame? host project fuel = some (game, frame)) :
    Game.Course host project frame.followSceneRequest.1 [frame.followSceneRequest.1, game]
      [frame] := by
  unfold firstFrame? at ran
  split at ran
  · cases ran
  · rename_i game notices started
    obtain ⟨frame, advanced, equal⟩ := Option.map_eq_some_iff.mp ran
    cases equal
    exact .tick (.start started) advanced (tick_eq advanced)

private def askNumber : Command :=
  { id := "InputNumber"
    params := .record [("variable", .record
      [("scope", .text "local"), ("kind", .text "number"), ("index", .integer 0)])] }

private def goToYard : Command :=
  { id := "ChangeScene", params := .record [("uid", .text "yard")] }

/-- The scene goes away while an event beside it asks for a number. -/
def promptBesideScene : Project where
  scenes := [{ uid := "hall", commands := [goToYard] }, { uid := "yard" }]
  events := [{ id := "guard", parallel := true, commands := [askNumber] }]

/-- The scene goes away while it waits for an event that asks for a number. -/
def promptUnderScene : Project where
  scenes := [
    { uid := "hall"
      commands := [{
        id := "CallCommonEvent"
        params := .record [("commonEventId", .text "guard")] }] },
    { uid := "yard" }]
  events := [
    { id := "guard", commands := [askNumber] },
    { id := "gate", parallel := true, commands := [goToYard] }]

/-- A prompt beside the scene stays open when the scene changes. -/
theorem promptBesideScene_stays_open :
    ∃ states frames game, Game.Course .plain promptBesideScene game states frames ∧
      game.main.root.context = { id := "yard" } ∧
      game.world.box.owner = some { id := "guard" } ∧ game.PromptOpen := by
  have ran : (firstFrame? .plain promptBesideScene 1).any (fun (_, frame) =>
      decide (frame.world.box.owner = some { id := "guard" }) &&
      decide (HoldsLock (chains frame.parallel) { id := "guard" }) &&
      decide (contextCount frame.live { id := "guard" } = 1) &&
      decide (frame.followSceneRequest.1.main.root.context = { id := "yard" }) &&
      decide (frame.followSceneRequest.1.world.box.owner = some { id := "guard" })) = true := by
    decide +kernel
  obtain ⟨⟨game, frame⟩, ran, facts⟩ := (Option.any_eq_true _ _).mp ran
  simp only [Bool.and_eq_true, decide_eq_true_eq] at facts
  obtain ⟨⟨⟨⟨owner, beside⟩, count⟩, scene⟩, lasts⟩ := facts
  have course := Game.Course.first ran
  have clear : ∀ state ∈ [frame], ¬ state.AbandonsLock ∧ ¬ state.ReplacesPrompt := by
    intro state member
    rw [List.mem_singleton.mp member]
    constructor
    · rintro ⟨_, context, locked, gone⟩
      cases owner.symm.trans locked.1
      exact gone beside
    · rintro ⟨context, locked, shared, _⟩
      cases owner.symm.trans locked.1
      omega
  exact ⟨_, _, _, course, scene, lasts,
    (Game.lock_held_iff course).2.mpr clear _ List.mem_cons_self⟩

/-- The lock of a script that the scene called outlasts the script. -/
theorem not_always_promptOpen :
    ¬ ∀ (host : Host) (project : Project) (game : Game) (states frames : List Game),
      Game.Course host project game states frames → game.PromptOpen := by
  intro always
  have ran : (firstFrame? .plain promptUnderScene 1).any (fun (_, frame) =>
      decide (frame.followSceneRequest.1.world.box.owner =
        some { id := "guard", owner := some "hall" }) &&
      decide (¬ HoldsLock frame.followSceneRequest.1.live
        { id := "guard", owner := some "hall" })) = true := by
    decide +kernel
  obtain ⟨⟨game, frame⟩, ran, facts⟩ := (Option.any_eq_true _ _).mp ran
  simp only [Bool.and_eq_true, decide_eq_true_eq] at facts
  have shows := always _ _ _ _ _ (Game.Course.first ran)
  exact facts.2 (shows _ facts.1).1

end NovelEngine
