import NovelEngine.Proofs.GameLock

/-!
Contract: runs that are blocked until a scene change is over.

Owns:
- the number of such runs in a game;
- the request for a scene change, which stands as long as a frame has blocked any of them;
- the condition under which no state of a game has any.

Does not own: what a scene change does to the message box.

A scene change that goes through ends the transition for everyone. If the requested scene is
missing, the transition ends only for the first thread that waits for it.
-/

namespace NovelEngine

/-! ## Blocked runs -/

/-- Whether the run is blocked until a scene change is over. -/
def Activation.awaitsTransition (activation : Activation) : Bool :=
  decide (activation.waitingFor = some .transition)

theorem Activation.awaitsTransition_congr {left right : Activation}
    (reason : left.waitingFor = right.waitingFor) :
    left.awaitsTransition = right.awaitsTransition := by
  unfold awaitsTransition
  rw [reason]

theorem Activation.awaitsTransition_of_none {activation : Activation}
    (idle : activation.waitingFor = none) : activation.awaitsTransition = false := by
  simp [awaitsTransition, idle]

/-- How many of the runs are blocked until a scene change is over. -/
def transitionWaiters (runs : List Activation) : Nat :=
  runs.countP Activation.awaitsTransition

section Runs

variable {root : Activation} {runs others : List Activation}

@[simp] theorem transitionWaiters_nil : transitionWaiters [] = 0 := rfl

theorem transitionWaiters_cons_of_idle (idle : root.awaitsTransition = false) :
    transitionWaiters (root :: runs) = transitionWaiters runs :=
  List.countP_cons_of_neg (by simp [idle])

@[simp] theorem transitionWaiters_append :
    transitionWaiters (runs ++ others) = transitionWaiters runs + transitionWaiters others :=
  List.countP_append

theorem transitionWaiters_eq_zero :
    transitionWaiters runs = 0 ↔ ∀ run ∈ runs, run.waitingFor ≠ some .transition := by
  simp [transitionWaiters, List.countP_eq_zero, Activation.awaitsTransition]

end Runs

/-! ## Requests -/

/-- If one of the runs is blocked, a scene change is due. -/
def Announced (runs : List Activation) (world : World) : Prop :=
  ∀ run ∈ runs, run.awaitsTransition = true → world.sceneRequest.isSome = true

namespace Announced

variable {root other : Activation} {runs others : List Activation} {world next : World}

/-- Requests are not taken back while the threads run. -/
theorem mono (announced : Announced runs world)
    (request : world.sceneRequest.isSome = true → next.sceneRequest.isSome = true) :
    Announced runs next :=
  fun run member blocked => request (announced run member blocked)

theorem append (left : Announced runs world) (right : Announced others world) :
    Announced (runs ++ others) world :=
  List.forall_mem_append.mpr ⟨left, right⟩

theorem of_idle (idle : ∀ run ∈ runs, run.awaitsTransition = false) : Announced runs world := by
  intro run member blocked
  exact absurd (blocked.symm.trans (idle run member)) (by decide)

theorem single (idle : root.awaitsTransition = false) : Announced [root] world :=
  .of_idle (List.forall_mem_singleton.mpr idle)

/-- Only the wait of a run matters. -/
theorem replaceRoot (announced : Announced (root :: runs) world)
    (reason : other.waitingFor = root.waitingFor) : Announced (other :: runs) world := by
  obtain ⟨first, rest⟩ := List.forall_mem_cons.mp announced
  refine List.forall_mem_cons.mpr ⟨?_, rest⟩
  rw [Activation.awaitsTransition_congr reason]
  exact first

end Announced

/-- What a stretch leaves of requests: a request stays, and blocked runs have made one. -/
structure Requests (origin : World) (runs : List Activation) (world : World) : Prop where
  lasts : origin.sceneRequest.isSome = true → world.sceneRequest.isSome = true
  announced : Announced runs world

/-- Called scripts announce the transitions that they wait for. -/
def CalleesAnnounce (runCallee : CalleeRunner) : Prop :=
  ∀ callee world update, Announced [callee] world → runCallee callee world = some update →
    Requests world update.thread.chain update.world

/-- An instruction that calls no script. -/
theorem Use.announced {activation : Activation} {world : World} {outcome : Outcome}
    (use : Use activation world outcome) (keeps : world.KeepsRequest outcome.world)
    (alone : outcome.callee = none) (announced : Announced [activation] world) :
    Announced [outcome.activation] outcome.world := by
  have stays (same : outcome.activation.waitingFor = activation.waitingFor) :
      Announced [outcome.activation] outcome.world :=
    (announced.replaceRoot same).mono keeps.request
  cases use with
  | apart _ _ _ quiet =>
      rcases quiet with same | none | ⟨_, due⟩
      · exact stays same
      · exact .single (Activation.awaitsTransition_of_none none)
      · exact fun _ _ _ => due
  | speak _ _ _ _ _ heard =>
      rcases heard with same | message | ⟨labels, target, choice⟩
      · exact stays same
      · exact .single (by simp [Activation.awaitsTransition, message])
      · exact .single (by simp [Activation.awaitsTransition, choice])
  | ask _ _ _ _ _ waits =>
      exact .single (by simp [Activation.awaitsTransition, waits, Activation.waitUntil])
  | giveUp _ _ _ same => exact stays (congrArg Activation.waitingFor same)
  | spawn _ _ _ _ _ same => exact stays (congrArg Activation.waitingFor same)
  | call _ _ _ _ _ called => simp [called] at alone

section Commands

variable {runCallee : CalleeRunner} {activation : Activation} {world : World}

/-- The command at the pointer, together with the script that it calls. -/
theorem Handling.requests (inner : CalleesAnnounce runCallee)
    (announced : Announced [activation] world) {next : Thread} {after : World}
    (handling : Handling runCallee { root := activation } world next after) :
    Requests world next.chain after := by
  cases handling with
  | skip => exact ⟨id, announced⟩
  | ignore => exact ⟨id, announced⟩
  | @perform command instruction _ _ _ _ performed alone =>
      subst performed
      have keeps := activation.perform_keepsRequest world command.id instruction
      exact ⟨keeps.request, (activation.perform_use world _ _).announced keeps alone announced⟩
  | @call command instruction _ callee update _ _ _ performed called ran =>
      subst performed
      have keeps := activation.perform_keepsRequest world command.id instruction
      obtain ⟨⟨context, script, rfl⟩, waits⟩ := Activation.perform_call called
      have requests := inner _ _ update (.single rfl) ran
      refine ⟨fun due => requests.lasts (keeps.request due), ?_⟩
      rw [waits]
      exact Announced.append (.single rfl) requests.announced
  | @callThrough command instruction _ callee update _ _ _ performed called ran =>
      subst performed
      have keeps := activation.perform_keepsRequest world command.id instruction
      obtain ⟨⟨context, script, rfl⟩, _⟩ := Activation.perform_call called
      have requests := inner _ _ update (.single rfl) ran
      exact ⟨fun due => requests.lasts (keeps.request due), .single rfl⟩

theorem Step.requests (inner : CalleesAnnounce runCallee)
    (announced : Announced [activation] world) {next : Thread} {after : World}
    (step : Step runCallee { root := activation } world next after) :
    Requests world next.chain after := by
  cases step with
  | pause => exact ⟨id, announced.replaceRoot rfl⟩
  | @move handled _ handling =>
      obtain ⟨lasts, handledAnnounced⟩ := handling.requests inner announced
      obtain ⟨_, _, moved⟩ := handled.root.stepPast_eq
      refine ⟨lasts, ?_⟩
      rw [moved]
      exact handledAnnounced.replaceRoot rfl

end Commands

/-! ## Updates -/

theorem lastsFrame_requests {runCallee : CalleeRunner} (inner : CalleesAnnounce runCallee)
    (origin : World) :
    LastsFrame runCallee (fun _ thread world => Requests origin thread.chain world) where
  reset := fun requests => ⟨requests.lasts, requests.announced⟩
  start := fun requests _ _ => ⟨requests.lasts, .single rfl⟩
  count := fun requests _ _ => ⟨requests.lasts, requests.announced.replaceRoot rfl⟩
  unpark := fun requests _ _ => ⟨requests.lasts, requests.announced.replaceRoot rfl⟩
  pass := by
    intro _ activation world next after executed requests _ step
    obtain ⟨lasts, announced⟩ := step.requests inner requests.announced
    obtain ⟨_, _, _, counted⟩ := next.root.counted_eq after.config executed
    refine ⟨fun due => lasts (requests.lasts due), announced.replaceRoot ?_⟩
    show (next.root.counted after.config executed).waitingFor = next.root.waitingFor
    rw [counted]
  finish := fun requests _ => ⟨requests.lasts, requests.announced.replaceRoot rfl⟩

theorem calleesAnnounce (fuel room : Nat) : CalleesAnnounce (advance fuel room) := by
  induction room with
  | zero =>
      intro callee world update _ ran
      cases ran
  | succ room inductionHypothesis =>
      intro callee world update announced ran
      have entered : Requests world [callee] world := ⟨id, announced⟩
      exact updateFrame_fact (lastsFrame_requests inductionHypothesis world) none entered ran

/-- An update of a thread announces the transitions that it waits for. -/
theorem Thread.update_requests {thread : Thread} {fuel : Nat} {world : World} {update : Update}
    (announced : Announced thread.chain world)
    (updated : thread.update fuel world = some update) :
    Requests world update.thread.chain update.world := by
  obtain ⟨root, callees⟩ := thread
  induction callees generalizing root update with
  | nil => exact calleesAnnounce fuel root.callRoom root world update announced updated
  | cons callee rest inductionHypothesis =>
      obtain ⟨waiting, called⟩ := List.forall_mem_cons.mp announced
      obtain ⟨inner, ran, _, outcome⟩ := Thread.update_calling updated
      have requests := inductionHypothesis callee called ran
      rcases outcome with ⟨_, thread, after⟩ | ⟨_, thread, after⟩
      · rw [thread, after]
        refine ⟨requests.lasts, List.forall_mem_cons.mpr ⟨?_, requests.announced⟩⟩
        exact fun blocked => requests.lasts (waiting blocked)
      · rw [thread, after]
        exact ⟨requests.lasts, .single rfl⟩

theorem updateParallel_requests {fuel : Nat} {threads kept : List Thread} {world next : World}
    {notices : List Notice} (announced : Announced (chains threads) world)
    (updated : Game.updateParallel fuel threads world = some (kept, next, notices)) :
    Requests world (chains kept) next := by
  induction threads generalizing world kept next notices with
  | nil =>
      cases updated
      exact ⟨id, announced⟩
  | cons thread rest inductionHypothesis =>
      obtain ⟨here, others⟩ := List.forall_mem_append.mp announced
      obtain ⟨update, later, told, ran, outcome⟩ := Game.updateParallel_cases updated
      have requests := Thread.update_requests here ran
      have behind : Announced (chains rest) update.world := Announced.mono others requests.lasts
      rcases outcome with ⟨_, rfl, ranRest⟩ | ⟨_, rfl, ranRest⟩
      · have later := inductionHypothesis behind ranRest
        exact ⟨fun due => later.lasts (requests.lasts due),
          (requests.announced.mono later.lasts).append later.announced⟩
      · have behind : Announced (chains rest)
            (update.world.deactivate update.thread.root.context.id) := behind
        have later := inductionHypothesis behind ranRest
        exact ⟨fun due => later.lasts (requests.lasts due), later.announced⟩

/-- When the threads have run, a blocked run means that a scene change is due. -/
theorem Game.runThreads_announced {game : Game} (sound : game.Sound)
    (announced : Announced game.live game.world) {fuel : Nat} {frame : Tick}
    (ran : game.runThreads fuel = some frame) :
    Announced frame.game.live frame.game.world := by
  obtain ⟨scene, beside⟩ := List.forall_mem_append.mp announced
  obtain ⟨update, parallel, world, _, updated, ranParallel, adopted⟩ := runThreads_cases ran
  have requests := Thread.update_requests scene updated
  have later := updateParallel_requests (Announced.mono beside requests.lasts) ranParallel
  obtain ⟨advances, _, _⟩ := sound.main.update sound.fresh updated
  obtain ⟨_, fresh, _⟩ := updateParallel_keeps sound.parallel advances.fresh ranParallel
  have spawned : Announced world.spawned world := by
    refine .of_idle (fun run member => ?_)
    obtain ⟨context, script, rfl⟩ := fresh run member
    rfl
  have joined : Announced (update.thread.chain ++ (chains parallel ++ world.spawned)) world :=
    (requests.announced.mono later.lasts).append (later.announced.append spawned)
  rw [adopted]
  unfold Game.live
  rw [Game.chains_adoptSpawned]
  exact joined

/-! ## The end of a transition -/

/-- Only the innermost run of a thread can wait for a transition, and it hears of its end. -/
theorem Thread.Linked.notify_transition {thread : Thread} (linked : thread.Linked)
    (world : World) :
    thread.notify? world .transitionFinished = none ∧ transitionWaiters thread.chain = 0 ∨
      ∃ run, thread.notify? world .transitionFinished = some run ∧
        transitionWaiters thread.chain = 1 ∧ transitionWaiters run.thread.chain = 0 := by
  induction linked with
  | @single root consistent =>
      by_cases waiting : root.waitingFor = some .transition
      · refine .inr ⟨{ thread := { root := root.clearWait }, world }, ?_, ?_, rfl⟩
        · simp [Thread.notify?, deliverInnermost?, Activation.deliver?, waiting]
        · simp [Thread.chain, transitionWaiters, Activation.awaitsTransition, waiting]
      · refine .inl ⟨?_, ?_⟩
        · unfold Thread.notify? deliverInnermost? Activation.deliver?
          cases found : root.waitingFor with
          | none => rfl
          | some reason =>
              cases reason with
              | transition => exact absurd found waiting
              | _ => rfl
        · simpa [Thread.chain, transitionWaiters_eq_zero] using waiting
  | @calling root callee rest consistent _ _ inductionHypothesis =>
      have reason : root.waitingFor = some .callee := consistent.calls.mp (by simp)
      have idle : root.awaitsTransition = false := by
        simp [Activation.awaitsTransition, reason]
      unfold Thread.chain at inductionHypothesis ⊢
      rw [transitionWaiters_cons_of_idle idle]
      rcases inductionHypothesis with ⟨refused, zero⟩ | ⟨inner, heard, one, left⟩
      · refine .inl ⟨?_, zero⟩
        have refused : deliverInnermost? .transitionFinished callee rest world = none := refused
        simp [Thread.notify?, deliverInnermost?, refused]
      · have heard : deliverInnermost? .transitionFinished callee rest world = some inner := heard
        refine .inr ⟨{ inner with thread :=
          { root, callees := inner.thread.root :: inner.thread.callees } }, ?_, one, ?_⟩
        · simp [Thread.notify?, deliverInnermost?, heard]
        · dsimp only
          rw [transitionWaiters_cons_of_idle idle]
          exact left

/-- An event makes no run wait for a transition. -/
theorem Thread.notify?_waiters {thread : Thread} {world : World} {event : HostEvent} {run : Run}
    (accepted : thread.notify? world event = some run) :
    transitionWaiters run.thread.chain ≤ transitionWaiters thread.chain := by
  obtain ⟨root, callees⟩ := thread
  induction callees generalizing root run with
  | nil =>
      obtain ⟨delivery, delivered, rfl⟩ := Option.map_eq_some_iff.mp accepted
      have idle := Activation.awaitsTransition_of_none
        (Activation.awake_of_deliver? delivered).2
      unfold Thread.chain
      dsimp only
      rw [transitionWaiters_cons_of_idle idle]
      exact Nat.zero_le _
  | cons callee rest inductionHypothesis =>
      obtain ⟨inner, reached, rfl⟩ := Option.map_eq_some_iff.mp accepted
      have fewer : transitionWaiters inner.thread.chain ≤ transitionWaiters (callee :: rest) :=
        inductionHypothesis callee reached
      show transitionWaiters ([root] ++ inner.thread.chain) ≤
        transitionWaiters ([root] ++ callee :: rest)
      rw [transitionWaiters_append, transitionWaiters_append]
      omega

/-- If everyone hears of the end of a transition, nobody waits for it any longer. -/
theorem notifyAll_waiters (world : World) {threads : List Thread}
    (outermost : ∀ thread ∈ threads, thread.Outermost) :
    transitionWaiters (chains (Game.notifyAll .transitionFinished world threads).1) = 0 := by
  induction threads generalizing world with
  | nil => rfl
  | cons thread rest inductionHypothesis =>
      obtain ⟨here, others⟩ := List.forall_mem_cons.mp outermost
      unfold Game.notifyAll
      rcases here.linked.notify_transition world with ⟨refused, zero⟩ | ⟨run, heard, _, zero⟩
      · simp only [refused, chains, List.flatMap_cons, transitionWaiters_append, zero]
        exact (Nat.zero_add _).trans (inductionHypothesis world others)
      · simp only [heard, chains, List.flatMap_cons, transitionWaiters_append, zero]
        exact (Nat.zero_add _).trans (inductionHypothesis run.world others)

/-- Of several threads the end of a transition reaches one at most, and one if any waits. -/
theorem notifyFirst?_waiters (world : World) {threads : List Thread}
    (outermost : ∀ thread ∈ threads, thread.Outermost) :
    Game.notifyFirst? .transitionFinished world threads = none ∧
        transitionWaiters (chains threads) = 0 ∨
      ∃ told next notices,
        Game.notifyFirst? .transitionFinished world threads = some (told, next, notices) ∧
          transitionWaiters (chains threads) = transitionWaiters (chains told) + 1 := by
  induction threads with
  | nil => exact .inl ⟨rfl, rfl⟩
  | cons thread rest inductionHypothesis =>
      obtain ⟨here, others⟩ := List.forall_mem_cons.mp outermost
      unfold Game.notifyFirst?
      rcases here.linked.notify_transition world with ⟨refused, zero⟩ | ⟨run, heard, one, zero⟩
      · simp only [refused, chains, List.flatMap_cons, transitionWaiters_append, zero,
          Nat.zero_add]
        rcases inductionHypothesis others with ⟨none, zero⟩ | ⟨told, next, notices, found, one⟩
        · exact .inl ⟨by rw [none]; rfl, zero⟩
        · refine .inr ⟨thread :: told, next, notices, by rw [found]; rfl, ?_⟩
          simp only [List.flatMap_cons, transitionWaiters_append, zero, Nat.zero_add]
          exact one
      · refine .inr ⟨run.thread :: rest, run.world, run.notices, by simp only [heard], ?_⟩
        simp only [chains, List.flatMap_cons, transitionWaiters_append, one, zero]
        omega

namespace Game

/-- A scene change is due, but there is no such scene. -/
def MissesScene (game : Game) : Prop :=
  ∃ uid, game.world.sceneRequest = some uid ∧ game.world.scenes.find? uid = none

/-- In a game the end of a transition reaches one run at most, and one if any waits. -/
theorem Sound.notify?_waiters {game : Game} (sound : game.Sound) :
    game.notify? .transitionFinished = none ∧ transitionWaiters game.live = 0 ∨
      ∃ next notices, game.notify? .transitionFinished = some (next, notices) ∧
        transitionWaiters game.live = transitionWaiters next.live + 1 := by
  unfold Game.notify? Game.live
  rcases sound.main.linked.notify_transition game.world with
    ⟨refused, zero⟩ | ⟨run, heard, one, zero⟩
  · simp only [refused, transitionWaiters_append, zero, Nat.zero_add]
    rcases notifyFirst?_waiters game.world sound.parallel with
      ⟨none, zero⟩ | ⟨told, next, notices, found, one⟩
    · exact .inl ⟨by rw [none]; rfl, zero⟩
    · refine .inr ⟨{ game with parallel := told, world := next }, notices, by rw [found]; rfl, ?_⟩
      simp only [zero, Nat.zero_add]
      exact one
  · refine .inr ⟨{ game with main := run.thread, world := run.world }, run.notices,
      by simp only [heard], ?_⟩
    simp only [transitionWaiters_append, one, zero]
    omega

/-- If the requested scene is missing, the transition ends for one run and nothing else
happens. -/
theorem followSceneRequest_of_missing {game : Game} {uid : String}
    (due : game.world.sceneRequest = some uid) (missing : game.world.scenes.find? uid = none) :
    game.followSceneRequest.1 =
      ((game.withoutRequest.notify? .transitionFinished).map Prod.fst).getD
        game.withoutRequest := by
  unfold Game.followSceneRequest World.takeSceneRequest
  simp only [due]
  unfold Game.changeScene World.sceneThread
  simp only [missing]
  unfold Game.withoutRequest
  split
  · rename_i next notices heard
    rw [heard]
    rfl
  · rename_i refused
    rw [refused]
    rfl

/-- A due scene change leaves nobody blocked, exactly if the scene is known or there is one
blocked run at most. -/
theorem Sound.followSceneRequest_waiters {game : Game} (sound : game.Sound)
    (announced : Announced game.live game.world) :
    transitionWaiters game.followSceneRequest.1.live = 0 ↔
      (game.MissesScene → transitionWaiters game.live ≤ 1) := by
  have unrequested : game.withoutRequest.Sound := ⟨sound.main, sound.parallel, sound.fresh⟩
  cases due : game.world.sceneRequest with
  | none =>
      have stays : game.followSceneRequest.1 = game := by
        simp [Game.followSceneRequest, World.takeSceneRequest, due]
      have zero : transitionWaiters game.live = 0 := by
        refine transitionWaiters_eq_zero.mpr (fun run member waiting => ?_)
        have request := announced run member (decide_eq_true waiting)
        rw [due] at request
        cases request
      rw [stays]
      exact iff_of_true zero (fun _ => by omega)
  | some uid =>
      cases found : game.world.scenes.find? uid with
      | some scene =>
          have known : ¬ game.MissesScene := by
            rintro ⟨other, same, missing⟩
            cases due.symm.trans same
            cases found.symm.trans missing
          refine iff_of_true ?_ (fun misses => absurd misses known)
          rcases game.followSceneRequest_cases with ⟨_, entered, _, _, equal⟩ | ⟨stays, _⟩
          · rw [equal]
            unfold Game.live enterScene
            rw [transitionWaiters_append, notifyAll_waiters _ unrequested.parallel]
            rfl
          · exact absurd ⟨uid, scene, due, found⟩ stays
      | none =>
          have misses : game.MissesScene := ⟨uid, due, found⟩
          have same : transitionWaiters game.withoutRequest.live = transitionWaiters game.live :=
            rfl
          rw [followSceneRequest_of_missing due found]
          rcases unrequested.notify?_waiters with ⟨refused, zero⟩ | ⟨next, notices, heard, one⟩
          · rw [refused]
            refine iff_of_true zero (fun _ => ?_)
            omega
          · rw [heard]
            show transitionWaiters next.live = 0 ↔ _
            constructor
            · intro zero _
              omega
            · intro few
              have atMost := few misses
              omega

/-! ## Courses -/

/-- Nobody waits for a transition when a project has been started. -/
theorem start_waiters {host : Host} {project : Project} {game : Game}
    {notices : List Notice} (started : host.start project = .ok (game, notices)) :
    transitionWaiters game.live = 0 := by
  obtain ⟨loading, uid, scene, _, _, rfl⟩ := Host.start_cases started
  refine transitionWaiters_eq_zero.mpr (List.forall_mem_append.mpr ⟨?_, ?_⟩)
  · intro run member
    rw [List.mem_singleton.mp member]
    exact nofun
  · intro run member
    obtain ⟨thread, listed, inside⟩ := List.mem_flatMap.mp member
    obtain ⟨event, _, rfl⟩ := List.mem_map.mp listed
    rw [List.mem_singleton.mp inside]
    exact nofun

/-- An event blocks nobody. -/
theorem notify_waiters {game next : Game} {event : HostEvent} {notices : List Notice}
    (accepted : game.notify? event = some (next, notices)) :
    transitionWaiters next.live ≤ transitionWaiters game.live := by
  unfold Game.notify? at accepted
  split at accepted
  · rename_i run heard
    cases accepted
    have fewer := Thread.notify?_waiters heard
    unfold Game.live
    simp only [transitionWaiters_append]
    omega
  · obtain ⟨⟨told, world, _⟩, found, equal⟩ := Option.map_eq_some_iff.mp accepted
    cases equal
    obtain ⟨before, thread, behind, run, threads, _, heard, rfl, _⟩ := notifyFirst?_cases found
    have fewer := Thread.notify?_waiters heard
    unfold Game.live
    rw [threads]
    simp only [chains, List.flatMap_append, List.flatMap_cons, transitionWaiters_append]
    omega

/-- In every state of a game nobody is blocked by a transition, exactly if whenever a
requested scene was missing there was one blocked run at most. -/
theorem transitions_resolve_iff {host : Host} {project : Project} {game : Game}
    {states frames : List Game} (course : Course host project game states frames) :
    (∀ state ∈ states, ∀ run ∈ state.live, run.waitingFor ≠ some .transition) ↔
      ∀ frame ∈ frames, frame.MissesScene → transitionWaiters frame.live ≤ 1 := by
  simp only [← transitionWaiters_eq_zero]
  induction course with
  | start started => simp [start_waiters started]
  | @tick game states frames fuel frame tick course ran ticked inductionHypothesis =>
      rw [List.forall_mem_cons, List.forall_mem_cons, ← inductionHypothesis,
        tick_game ran ticked]
      refine and_congr_left (fun clear => ?_)
      have idle : Announced game.live game.world := by
        have none := transitionWaiters_eq_zero.mp (clear game course.present_mem)
        exact .of_idle (fun run member => decide_eq_false (none run member))
      exact (course.sound.runThreads ran).1.followSceneRequest_waiters
        (runThreads_announced course.sound idle ran)
  | @notify game next states frames event notices course accepted inductionHypothesis =>
      rw [List.forall_mem_cons, ← inductionHypothesis]
      refine and_iff_right_of_imp (fun clear => ?_)
      have fewer := notify_waiters accepted
      have none := clear game course.present_mem
      omega

end Game

private def goNowhere : Command :=
  { id := "ChangeScene", params := .record [("uid", .text "nowhere")] }

/-- The scene asks for a scene that does not exist. -/
def missingScene : Project where
  scenes := [{ uid := "hall", commands := [goNowhere] }]

/-- The scene and an event beside it ask for a scene that does not exist. -/
def missingSceneTwice : Project where
  scenes := [{ uid := "hall", commands := [goNowhere] }]
  events := [{ id := "gate", parallel := true, commands := [goNowhere] }]

/-- A single run that asks for a missing scene goes on. -/
theorem missingScene_resolves :
    ∃ game states frame, Game.Course .plain missingScene game states [frame] ∧ frame.MissesScene ∧
      transitionWaiters frame.live = 1 ∧
      ∀ run ∈ game.live, run.waitingFor ≠ some .transition := by
  have ran : (firstFrame? .plain missingScene 1).any (fun (_, frame) =>
      decide (frame.world.sceneRequest = some "nowhere") &&
      decide ((frame.world.scenes.find? "nowhere").isNone) &&
      decide (transitionWaiters frame.live = 1)) = true := by
    decide +kernel
  obtain ⟨⟨game, frame⟩, ran, facts⟩ := (Option.any_eq_true _ _).mp ran
  simp only [Bool.and_eq_true, decide_eq_true_eq, Option.isNone_iff_eq_none] at facts
  obtain ⟨⟨due, missing⟩, one⟩ := facts
  have course := Game.Course.first ran
  have few : ∀ state ∈ [frame], state.MissesScene → transitionWaiters state.live ≤ 1 := by
    intro state member _
    rw [List.mem_singleton.mp member]
    omega
  exact ⟨_, _, frame, course, ⟨"nowhere", due, missing⟩, one,
    (Game.transitions_resolve_iff course).mpr few _ List.mem_cons_self⟩

/-- Of two runs that ask for a missing scene one stays blocked. -/
theorem not_always_resolved :
    ¬ ∀ (host : Host) (project : Project) (game : Game) (states frames : List Game),
      Game.Course host project game states frames →
      ∀ run ∈ game.live, run.waitingFor ≠ some .transition := by
  intro always
  have ran : (firstFrame? .plain missingSceneTwice 1).any (fun (_, frame) =>
      decide (transitionWaiters frame.followSceneRequest.1.live = 1)) = true := by
    decide +kernel
  obtain ⟨⟨game, frame⟩, ran, one⟩ := (Option.any_eq_true _ _).mp ran
  have none := transitionWaiters_eq_zero.mpr (always _ _ _ _ _ (Game.Course.first ran))
  rw [decide_eq_true_eq, none] at one
  cases one

end NovelEngine
