import NovelEngine.Proofs.Conduct
import NovelEngine.Proofs.GameLock

/-!
Contract: who can change the local variables of a running script.

Owns:
- the passage of a game from one state to a later one, with all that happens in between;
- the locals of a context over a passage: they change only through runs in that context and
  through scripts that are started in it;
- the condition under which they belong to one run alone.

Does not own: the values that a command writes.

A context is made of the id of a script and the id of its caller, so several runs may share
one. The nested calls of a recursive event do.
-/

namespace NovelEngine

/-! ## What happens in a game -/

namespace Game

/-- What happens when threads are updated in order. -/
def parallelHappenings (fuel : Nat) : List Thread → World → List Happening
  | [], _ => []
  | thread :: rest, world =>
      thread.happenings fuel world ++
        match thread.update fuel world with
        | none => []
        | some update =>
            let after := match update.progress with
              | .finished => update.world.deactivate update.thread.root.context.id
              | .running => update.world
            parallelHappenings fuel rest after

/-- What happens when the threads of a game run for a frame. -/
def frameHappenings (game : Game) (fuel : Nat) : List Happening :=
  game.main.happenings fuel game.world ++
    match game.main.update fuel game.world with
    | none => []
    | some update => parallelHappenings fuel game.parallel update.world

/-- The scene change that goes through after a frame, if one is due. The end of the
transition, which touches no variable, is left out. -/
def sceneChange (game : Game) : List Happening :=
  match game.world.sceneRequest.bind game.world.scenes.find? with
  | some scene => [.replaced game.main.root (game.enterScene scene).main.root]
  | none => []

/-- Who hears an event: the innermost run of the first thread that waits for it. -/
def hearing (game : Game) (event : HostEvent) : List Happening :=
  let threads := game.main :: game.parallel
  (threads.find? (fun thread => (thread.notify? game.world event).isSome)).toList.map
    (fun thread => .heard thread.innermost)

/-- A stretch of a game, from one state to a later one, with what happens in between. -/
inductive Passage (game : Game) : List Happening → Game → Prop where
  | stay : Passage game [] game
  | tick {happenings : List Happening} {present : Game} {fuel : Nat} {frame tick : Tick}
      (passage : Passage game happenings present)
      (ran : present.runThreads fuel = some frame) (ticked : present.tick fuel = some tick) :
      Passage game (happenings ++ (present.frameHappenings fuel ++ frame.game.sceneChange))
        tick.game
  | notify {happenings : List Happening} {present next : Game} {event : HostEvent}
      {notices : List Notice} (passage : Passage game happenings present)
      (accepted : present.notify? event = some (next, notices)) :
      Passage game (happenings ++ present.hearing event) next

/-- Every run of a game, those included that are spawned and not yet adopted. -/
def everyone (game : Game) : List Activation :=
  game.live ++ game.world.spawned

end Game

/-! ## Frames -/

namespace Game

variable {context : Context}

/-- The threads beside the scene, those that end included. -/
theorem updateParallel_conduct {fuel : Nat} {threads kept : List Thread} {world next : World}
    {notices : List Notice}
    (updated : updateParallel fuel threads world = some (kept, next, notices))
    (unstarted : Unstarted context (parallelHappenings fuel threads world)) :
    Conduct context (parallelHappenings fuel threads world) (chains threads) world
      (chains kept) next := by
  induction threads generalizing world kept next notices with
  | nil =>
      cases updated
      exact .refl _ _
  | cons thread others inductionHypothesis =>
      obtain ⟨update, later, _, ran, outcome⟩ := updateParallel_cases updated
      unfold parallelHappenings at unstarted ⊢
      simp only [ran] at unstarted ⊢
      obtain ⟨first, behind⟩ := unstarted_append.mp unstarted
      have here := ((Thread.update_conduct ran first).aside (chains others)).perm
        List.perm_append_comm List.perm_append_comm
      rcases outcome with ⟨running, rfl, ranOthers⟩ | ⟨finished, rfl, ranOthers⟩
      · rw [running] at behind ⊢
        exact here.trans ((inductionHypothesis ranOthers behind).aside update.thread.chain)
      · rw [finished] at behind ⊢
        have ended : Conduct context (thread.happenings fuel world)
            (chains (thread :: others)) world (chains others)
            (update.world.deactivate update.thread.root.context.id) :=
          (here.drop (List.sublist_append_right _ _)).congr rfl rfl rfl
        exact ended.trans (inductionHypothesis ranOthers behind)

/-- Spawned scripts are adopted as they are. -/
theorem adoptSpawned_everyone (game : Game) : game.adoptSpawned.everyone = game.everyone := by
  unfold everyone live
  rw [chains_adoptSpawned]
  simp [adoptSpawned, World.takeSpawned]

/-- The threads of a game run for a frame. -/
theorem runThreads_conduct {game : Game} {fuel : Nat} {frame : Tick}
    (ran : game.runThreads fuel = some frame)
    (unstarted : Unstarted context (game.frameHappenings fuel)) :
    Conduct context (game.frameHappenings fuel) game.live game.world frame.game.live
      frame.game.world := by
  obtain ⟨update, parallel, world, _, updated, ranParallel, equal⟩ := runThreads_cases ran
  unfold frameHappenings at unstarted ⊢
  simp only [updated] at unstarted ⊢
  obtain ⟨first, later⟩ := unstarted_append.mp unstarted
  have main := ((Thread.update_conduct updated first).aside (chains game.parallel)).perm
    List.perm_append_comm List.perm_append_comm
  have beside := (updateParallel_conduct ranParallel later).aside update.thread.chain
  have together := main.trans beside
  have adopted := adoptSpawned_everyone { world, main := update.thread, parallel }
  unfold everyone at adopted
  rw [equal]
  refine ⟨?_, ?_, together.actors, together.locals⟩
  · rw [adopted]
    exact together.fewer
  · rw [adopted]
    exact together.stems

/-- What an event leaves of a game: the runs are the same, and the one that hears it is the
innermost run of its thread. -/
theorem notify?_cases {game next : Game} {event : HostEvent} {notices : List Notice}
    (accepted : game.notify? event = some (next, notices)) :
    ∃ thread ∈ game.main :: game.parallel, game.hearing event = [.heard thread.innermost] ∧
      game.world.SparesOthers thread.innermost.context next.world ∧
      next.main.chain.map Activation.identity = game.main.chain.map Activation.identity ∧
      (chains next.parallel).map Activation.identity =
        (chains game.parallel).map Activation.identity := by
  unfold Game.notify? at accepted
  unfold hearing
  dsimp only
  split at accepted
  · rename_i run heard
    cases accepted
    refine ⟨game.main, List.mem_cons_self, ?_, Thread.notify?_spares heard,
      Thread.notify?_identities heard, rfl⟩
    simp [heard]
  · rename_i refused
    obtain ⟨⟨told, world, _⟩, found, equal⟩ := Option.map_eq_some_iff.mp accepted
    cases equal
    obtain ⟨before, thread, behind, run, threads, others, heard, _, rfl⟩ :=
      notifyFirst?_cases found
    have member : thread ∈ game.parallel := by simp [threads]
    refine ⟨thread, List.mem_cons_of_mem _ member, ?_, Thread.notify?_spares heard, rfl,
      notifyFirst?_identities found⟩
    have first : (game.main :: game.parallel).find?
        (fun thread => (thread.notify? game.world event).isSome) = some thread := by
      rw [List.find?_cons_of_neg (by simp [refused]), threads, List.find?_append,
        List.find?_eq_none.mpr (fun other member => by simp [others other member])]
      simp [heard]
    rw [first]
    rfl

/-- An event leaves the runs of a game what they are. -/
theorem notify?_live {game next : Game} {event : HostEvent} {notices : List Notice}
    (accepted : game.notify? event = some (next, notices)) :
    next.live.map Activation.identity = game.live.map Activation.identity := by
  obtain ⟨_, _, _, _, main, parallel⟩ := notify?_cases accepted
  simp only [live, List.map_append, main, parallel]

/-- An event touches the locals of the run that hears it. -/
theorem notify_conduct {game next : Game} {event : HostEvent} {notices : List Notice}
    (accepted : game.notify? event = some (next, notices)) :
    Conduct context (game.hearing event) game.live game.world next.live next.world := by
  obtain ⟨thread, member, hearing, spares, _⟩ := notify?_cases accepted
  rw [hearing]
  have inside : thread.innermost ∈ game.live := by
    rcases List.mem_cons.mp member with rfl | beside
    · exact List.mem_append_left _ (Thread.innermost_mem_chain _)
    · exact List.mem_append_right _ (List.mem_flatMap.mpr
        ⟨thread, beside, Thread.innermost_mem_chain _⟩)
  have same : (next.live ++ next.world.spawned).map Activation.identity =
      (game.live ++ game.world.spawned).map Activation.identity := by
    rw [List.map_append, List.map_append, notify?_live accepted, spares.spawned]
  refine ⟨?_, .of_identities same, .of_subset ?_, ?_⟩
  · rw [contextCount_of_identities same]
    simp [Happening.gone]
  · simp [Happening.actor, inside]
  · intro apart _
    exact spares.locals (apart thread.innermost (by simp [Happening.actor])).symm

/-- A new scene takes the place of the old one and of the scripts that it called. -/
theorem enterScene_conduct (game : Game) (scene : Scene)
    (apart : (game.enterScene scene).main.root.context ≠ context) :
    Conduct context [.replaced game.main.root (game.enterScene scene).main.root] game.live
      game.world (game.enterScene scene).live (game.enterScene scene).world := by
  have told : (chains (game.enterScene scene).parallel).map Activation.identity =
      (chains game.parallel).map Activation.identity := notifyAll_identities _ _ _
  have unspawned : (game.enterScene scene).world.spawned = game.world.spawned := rfl
  have alone : (game.enterScene scene).main.chain = [(game.enterScene scene).main.root] := rfl
  have strange : ∀ run ∈ (game.enterScene scene).main.chain, run.context ≠ context := by
    simpa [alone] using apart
  refine ⟨?_, ?_, .of_subset (List.nil_subset _), ?_⟩
  · have gone : [Happening.replaced game.main.root
        (game.enterScene scene).main.root].flatMap Happening.gone = [game.main.root] := rfl
    have scene : contextCount [game.main.root] context ≤ contextCount game.main.chain context :=
      ((List.singleton_sublist.mpr List.mem_cons_self).map _).count_le _
    simp only [live, unspawned, gone, contextCount_append, contextCount_eq_zero strange,
      contextCount_of_identities told]
    omega
  · unfold live
    rw [unspawned]
    have stayed : Stems context (game.main.chain ++ chains game.parallel ++ game.world.spawned)
        (chains game.parallel) := .of_subset (by simp [List.append_assoc])
    exact ((Stems.of_apart strange).append (stayed.trans (.of_identities told))).append
      (.of_subset (by simp))
  · intro _ other
    have other := other game.main.root (by simp [Happening.gone])
    exact Store.bank_clearLocals_other _ other.symm

/-- A due scene change takes away the scene, its locals and the scripts it called. -/
theorem followSceneRequest_conduct {game : Game} (unstarted : Unstarted context game.sceneChange) :
    Conduct context game.sceneChange game.live game.world game.followSceneRequest.1.live
      game.followSceneRequest.1.world := by
  have unrequested : Conduct context [] game.live game.world game.withoutRequest.live
      game.withoutRequest.world := (Conduct.refl _ _).congr rfl rfl rfl
  rcases game.followSceneRequest_cases with
    ⟨uid, scene, due, found, equal⟩ | ⟨stays, goesOn⟩
  · have change : game.sceneChange =
        [.replaced game.main.root (game.enterScene scene).main.root] := by
      simp [sceneChange, due, found]
    rw [change] at unstarted ⊢
    rw [equal]
    have apart : (game.enterScene scene).main.root.context ≠ context :=
      unstarted _ List.mem_cons_self _ (List.mem_singleton_self _)
    exact unrequested.trans (game.withoutRequest.enterScene_conduct scene apart)
  · have nothing : game.sceneChange = [] := by
      unfold sceneChange
      split
      · rename_i scene found
        obtain ⟨uid, due, known⟩ := Option.bind_eq_some_iff.mp found
        exact absurd ⟨uid, scene, due, known⟩ stays
      · rfl
    rw [nothing]
    rcases goesOn with same | idle | ⟨notices, accepted⟩
    · rw [same]
      exact .refl _ _
    · rw [idle]
      exact unrequested
    · have same := notify?_transition accepted
      refine unrequested.congr (notify?_live accepted) (congrArg World.spawned same) ?_
      rw [same]

/-! ## Passages -/

theorem Passage.conduct {game later : Game} {happenings : List Happening}
    (passage : Passage game happenings later) (unstarted : Unstarted context happenings) :
    Conduct context happenings game.live game.world later.live later.world := by
  induction passage with
  | stay => exact .refl _ _
  | tick _ ran ticked inductionHypothesis =>
      obtain ⟨before, here⟩ := unstarted_append.mp unstarted
      obtain ⟨first, last⟩ := unstarted_append.mp here
      have frame := (runThreads_conduct ran first).trans (followSceneRequest_conduct last)
      rw [tick_game ran ticked]
      exact (inductionHypothesis before).trans frame
  | notify _ accepted inductionHypothesis =>
      obtain ⟨before, _⟩ := unstarted_append.mp unstarted
      exact (inductionHypothesis before).trans (notify_conduct accepted)

/-- The locals of a context change only through runs in it, through scripts that are started
in it, and when its scene goes away. -/
theorem Passage.locals_changed {game later : Game} {happenings : List Happening}
    (passage : Passage game happenings later)
    (changed : later.world.locals context ≠ game.world.locals context) :
    ∃ happening ∈ happenings, ∃ run ∈ happening.actor ++ happening.gone ++ happening.started,
      run.context = context := by
  apply Classical.byContradiction
  intro nobody
  have apart : ∀ happening ∈ happenings,
      ∀ run ∈ happening.actor ++ happening.gone ++ happening.started, run.context ≠ context :=
    fun happening member run inside here => nobody ⟨happening, member, run, inside, here⟩
  have unstarted : Unstarted context happenings :=
    fun happening member run inside => apart happening member run (by simp [inside])
  refine changed ((passage.conduct unstarted).locals ?_ ?_)
  · intro run member
    obtain ⟨happening, listed, inside⟩ := List.mem_flatMap.mp member
    exact apart happening listed run (by simp [inside])
  · intro run member
    obtain ⟨happening, listed, inside⟩ := List.mem_flatMap.mp member
    exact apart happening listed run (by simp [inside])

end Game

/-- The run executes the command or hears the event. -/
def Happening.IsBy (happening : Happening) (run : Activation) : Prop :=
  ∃ actor ∈ happening.actor, run.SameRun actor

/-- The only run in a context. -/
theorem eq_of_contextCount_one {runs : List Activation} {run other : Activation}
    (alone : contextCount runs run.context = 1) (member : run ∈ runs) (inside : other ∈ runs)
    (same : other.context = run.context) : other = run := by
  obtain ⟨before, behind, rfl⟩ := List.append_of_mem member
  simp only [contextCount_append, contextCount_cons, if_true] at alone
  have absent : contextCount (before ++ behind) run.context = 0 := by
    rw [contextCount_append]
    omega
  have elsewhere : other = run ∨ other ∈ before ++ behind := by
    simpa [or_left_comm] using inside
  rcases elsewhere with here | there
  · exact here
  · have counted : 0 < contextCount (before ++ behind) run.context :=
      contextCount_pos.mpr (List.mem_map.mpr ⟨other, there, same⟩)
    omega

/-- A run that is alone in its context, and stays alone because no script is started there,
has its locals for itself: as long as it lives, they change only through commands that it
executes and events that it hears. -/
theorem Game.Passage.locals_private {game later : Game} {happenings : List Happening}
    (passage : Passage game happenings later) {run : Activation} (live : run ∈ game.live)
    (alone : contextCount game.everyone run.context = 1)
    (unstarted : Unstarted run.context happenings)
    (lasts : ∃ still ∈ later.live, still.context = run.context) :
    contextCount later.everyone run.context = 1 ∧
      (∀ still ∈ later.live, still.context = run.context → run.SameRun still) ∧
      (later.world.locals run.context ≠ game.world.locals run.context →
        ∃ happening ∈ happenings, happening.IsBy run) := by
  have conduct := passage.conduct unstarted
  have present : run ∈ game.everyone := List.mem_append_left _ live
  have itself {origin other : Activation} (inside : origin ∈ game.everyone)
      (same : origin.SameRun other) (here : other.context = run.context) :
      run.SameRun other := by
    have only := eq_of_contextCount_one alone present inside (same.context.symm.trans here)
    exact only ▸ same
  have fewer : contextCount later.everyone run.context +
      contextCount (happenings.flatMap Happening.gone) run.context ≤ 1 :=
    alone ▸ conduct.fewer
  have remains : 0 < contextCount later.everyone run.context := by
    obtain ⟨still, member, here⟩ := lasts
    exact contextCount_pos.mpr (List.mem_map.mpr ⟨still, List.mem_append_left _ member, here⟩)
  refine ⟨by omega, ?_, ?_⟩
  · intro still member here
    obtain ⟨origin, inside, same⟩ := conduct.stems still (List.mem_append_left _ member) here
    exact itself inside same here
  · intro changed
    obtain ⟨happening, listed, other, involved, here⟩ := passage.locals_changed changed
    obtain (acts | goes) | starts :
        (other ∈ happening.actor ∨ other ∈ happening.gone) ∨ other ∈ happening.started := by
      simpa only [List.mem_append] using involved
    · have member := List.mem_flatMap.mpr ⟨happening, listed, acts⟩
      obtain ⟨origin, inside, same⟩ := conduct.actors other member here
      exact ⟨happening, listed, other, acts, itself inside same here⟩
    · have member := List.mem_flatMap.mpr ⟨happening, listed, goes⟩
      have left : 0 < contextCount (happenings.flatMap Happening.gone) run.context :=
        contextCount_pos.mpr (List.mem_map.mpr ⟨other, member, here⟩)
      omega
    · exact absurd here (unstarted happening listed other starts)

/-! ## A recursive event -/

private def callEcho : Command :=
  { id := "CallCommonEvent", params := .record [("commonEventId", .text "echo")] }

/-- An event that asks for a text, keeps it in a local variable and calls itself. -/
def askingRecursively : Project where
  scenes := [{ uid := "hall", commands := [callEcho] }]
  events := [
    { id := "echo"
      commands := [
        { id := "InputText"
          params := .record [("variable", .record
            [("scope", .text "local"), ("kind", .text "string"), ("index", .integer 0)])] },
        callEcho] }]

namespace Game

/-- Lets frames pass in turn with answers of the player. -/
def answer? (fuel : Nat) : List String → Game → Option Game
  | [], game => some game
  | answer :: rest, game => do
      let frame ← game.runThreads fuel
      let (next, _) ← frame.game.followSceneRequest.1.notify? (.inputSubmitted (.text answer))
      next.answer? fuel rest

theorem Passage.answered {start game later : Game} {past : List Happening} {fuel : Nat}
    {answers : List String} (passage : Passage start past game)
    (answered : game.answer? fuel answers = some later) :
    ∃ happenings, Passage start happenings later := by
  induction answers generalizing game past with
  | nil =>
      cases answered
      exact ⟨past, passage⟩
  | cons answer rest inductionHypothesis =>
      obtain ⟨frame, ran, answered⟩ := Option.bind_eq_some_iff.mp answered
      obtain ⟨⟨next, notices⟩, accepted, answered⟩ := Option.bind_eq_some_iff.mp answered
      exact inductionHypothesis (.notify (.tick passage ran (tick_eq ran)) accepted) answered

end Game

/-- The player's answer to the second nested call of the event. -/
private def lastAnswer : HostEvent :=
  .inputSubmitted (.text "innermost")

/-- The start of a recursion, its state while the second nested call asks for a text, and
its state when that has been answered. -/
private def recursion? (host : Host) (project : Project) : Option (Game × Game × Game) := do
  let (start, _) ← (host.start project).toOption
  let game ← start.answer? 2 ["outer", "inner"]
  let frame ← game.runThreads 2
  let asking := frame.game.followSceneRequest.1
  let (later, _) ← asking.notify? lastAnswer
  return (start, asking, later)

private theorem recursion_passages {host : Host} {project : Project} {start asking later : Game}
    (evaluated : recursion? host project = some (start, asking, later)) :
    (∃ notices, host.start project = .ok (start, notices)) ∧
      (∃ past, Game.Passage start past asking) ∧
      ∃ notices, asking.notify? lastAnswer = some (later, notices) := by
  obtain ⟨⟨first, notices⟩, loaded, evaluated⟩ := Option.bind_eq_some_iff.mp evaluated
  obtain ⟨game, answered, evaluated⟩ := Option.bind_eq_some_iff.mp evaluated
  obtain ⟨frame, ran, evaluated⟩ := Option.bind_eq_some_iff.mp evaluated
  obtain ⟨⟨next, told⟩, accepted, evaluated⟩ := Option.bind_eq_some_iff.mp evaluated
  cases evaluated
  obtain ⟨past, passage⟩ := Game.Passage.answered .stay answered
  refine ⟨⟨notices, ?_⟩, ⟨_, .tick passage ran (Game.tick_eq ran)⟩, told, accepted⟩
  cases outcome : host.start project with
  | error error => simp [outcome, Except.toOption] at loaded
  | ok result => simpa [outcome, Except.toOption] using loaded

/-- The call from the scene has its context for itself: what it keeps in its locals stays
there while the nested calls are answered. -/
theorem askingRecursively_outermost_private :
    ∃ (game later : Game) (happenings : List Happening) (run : Activation),
      Game.Passage game happenings later ∧ run ∈ game.live ∧
      run.context = { id := "echo", owner := some "hall" } ∧
      (later.world.locals run.context).text 0 = "outer" := by
  have evaluated : (recursion? .plain askingRecursively).any (fun (_, asking, later) =>
      asking.main.callees[0]?.any (fun run =>
        decide (run.context = { id := "echo", owner := some "hall" }) &&
        decide ((asking.world.locals run.context).text 0 = "outer") &&
        decide (contextCount asking.everyone run.context = 1) &&
        decide (∀ happening ∈ asking.hearing lastAnswer,
          ∀ started ∈ happening.started, started.context ≠ run.context) &&
        decide (∀ happening ∈ asking.hearing lastAnswer,
          ∀ actor ∈ happening.actor, actor.context ≠ run.context) &&
        decide (∃ still ∈ later.live, still.context = run.context))) = true := by
    decide +kernel
  obtain ⟨⟨start, asking, later⟩, evaluated, facts⟩ := (Option.any_eq_true _ _).mp evaluated
  obtain ⟨run, found, facts⟩ := (Option.any_eq_true _ _).mp facts
  simp only [Bool.and_eq_true, decide_eq_true_eq] at facts
  obtain ⟨⟨⟨⟨⟨context, kept⟩, alone⟩, unstarted⟩, idle⟩, lasts⟩ := facts
  obtain ⟨_, _, notices, accepted⟩ := recursion_passages evaluated
  have live : run ∈ asking.live :=
    List.mem_append_left _ (List.mem_cons_of_mem _ (List.mem_of_getElem? found))
  have passage : Game.Passage asking ([] ++ asking.hearing lastAnswer) later :=
    .notify .stay accepted
  obtain ⟨_, _, changes⟩ := passage.locals_private live alone unstarted lasts
  refine ⟨asking, later, _, run, passage, live, context, ?_⟩
  have unchanged : later.world.locals run.context = asking.world.locals run.context := by
    apply Classical.byContradiction
    intro changed
    obtain ⟨happening, member, actor, acts, same⟩ := changes changed
    exact idle happening member actor acts same.context
  rw [unchanged]
  exact kept

/-- The nested calls of a recursive event share their locals: the answer to the innermost one
replaces what the call that waits for it keeps. -/
theorem not_always_private :
    ¬ ∀ (host : Host) (project : Project) (start game later : Game) (notices : List Notice)
        (past happenings : List Happening) (run : Activation),
      host.start project = .ok (start, notices) → Game.Passage start past game →
      Game.Passage game happenings later → run ∈ game.live →
      (∃ still ∈ later.live, run.SameRun still) →
      later.world.locals run.context ≠ game.world.locals run.context →
      ∃ happening ∈ happenings, happening.IsBy run := by
  intro always
  have evaluated : (recursion? .plain askingRecursively).any (fun (_, asking, later) =>
      asking.main.callees[1]?.any (fun run =>
        decide ((later.world.locals run.context).text 0 ≠
          (asking.world.locals run.context).text 0) &&
        decide (∀ happening ∈ asking.hearing lastAnswer,
          ∀ actor ∈ happening.actor, actor.callers ≠ run.callers))) = true := by
    decide +kernel
  obtain ⟨⟨start, asking, later⟩, evaluated, facts⟩ := (Option.any_eq_true _ _).mp evaluated
  obtain ⟨run, found, facts⟩ := (Option.any_eq_true _ _).mp facts
  simp only [Bool.and_eq_true, decide_eq_true_eq] at facts
  obtain ⟨replaced, others⟩ := facts
  obtain ⟨⟨notices, started⟩, ⟨past, before⟩, _, accepted⟩ := recursion_passages evaluated
  have live : run ∈ asking.live :=
    List.mem_append_left _ (List.mem_cons_of_mem _ (List.mem_of_getElem? found))
  have passage : Game.Passage asking ([] ++ asking.hearing lastAnswer) later :=
    .notify .stay accepted
  have lives : ∃ still ∈ later.live, run.SameRun still := by
    have listed : run.identity ∈ later.live.map Activation.identity :=
      Game.notify?_live accepted ▸ List.mem_map_of_mem live
    obtain ⟨still, member, same⟩ := List.mem_map.mp listed
    exact ⟨still, member, Activation.sameRun_iff.mpr same⟩
  have changed : later.world.locals run.context ≠ asking.world.locals run.context :=
    fun same => replaced (congrArg (Bank.text · 0) same)
  obtain ⟨happening, member, actor, acts, same⟩ :=
    always _ _ _ _ _ _ _ _ _ started before passage live lives changed
  exact others happening member actor acts same.callers

end NovelEngine
