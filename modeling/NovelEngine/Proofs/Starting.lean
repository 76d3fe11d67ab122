import NovelEngine.Game

/-!
Contract: how a game starts.

Owns:
- what loading makes of the scenes and the events of a project;
- the world and the runs of a project that has been started.

Does not own: what holds in the course of the game.

The sources are loaded one after the other, each on top of those before it. Whatever every
source keeps therefore holds of the loaded world, on any host.
-/

namespace NovelEngine

theorem bind_ok {Cause Value Result : Type} {source : Except Cause Value}
    {continuation : Value → Except Cause Result} {result : Result}
    (success : source >>= continuation = .ok result) :
    ∃ value, source = .ok value ∧ continuation value = .ok result := by
  cases source with
  | error cause => cases success
  | ok value => exact ⟨value, rfl, success⟩

/-! ## Loading -/

namespace Loading

theorem compile_cases {loading next : Loading} {commands : List Command} {script : Script}
    (compiled : loading.compile commands = .ok (script, next)) :
    Script.compile commands = .ok script ∧ next.world = loading.world := by
  unfold compile at compiled
  split at compiled
  · cases compiled
  · rename_i same
    cases compiled
    exact ⟨same, rfl⟩

/-- Loading a scene makes it known under its own uid. -/
theorem addScene_cases {loading next : Loading} {source : SceneSource}
    (added : loading.addScene source = .ok next) :
    ∃ script, Script.compile source.commands = .ok script ∧ next.world =
      loading.world.addScene { uid := source.uid, name := source.name, script } := by
  obtain ⟨⟨script, between⟩, compiled, rest⟩ := bind_ok added
  obtain ⟨prepared, same⟩ := compile_cases compiled
  cases rest
  exact ⟨script, prepared, congrArg (World.addScene · _) same⟩

/-- Loading an event makes it known under its own id. -/
theorem addEvent_cases {loading next : Loading} {source : EventSource}
    (added : loading.addEvent source = .ok next) :
    ∃ script, Script.compile source.commands = .ok script ∧ next.world =
      loading.world.addEvent
        { id := source.id, name := source.name, parallel := source.parallel, script } := by
  obtain ⟨⟨script, between⟩, compiled, rest⟩ := bind_ok added
  obtain ⟨prepared, same⟩ := compile_cases compiled
  cases rest
  exact ⟨script, prepared, congrArg (World.addEvent · _) same⟩

private theorem foldlM_keeps {Holds : World → Prop} {Source : Type}
    {add : Loading → Source → Except Error Loading} {sources : List Source}
    (keeps : ∀ {loading source next}, source ∈ sources → Holds loading.world →
      add loading source = .ok next → Holds next.world)
    {loading next : Loading} (holds : Holds loading.world)
    (added : sources.foldlM add loading = .ok next) : Holds next.world := by
  induction sources generalizing loading with
  | nil =>
      cases added
      exact holds
  | cons source rest inductionHypothesis =>
      rw [List.foldlM_cons] at added
      obtain ⟨between, first, later⟩ := bind_ok added
      have held := keeps List.mem_cons_self holds first
      exact inductionHypothesis (fun member => keeps (List.mem_cons_of_mem _ member)) held later

/-- What every scene and every event keeps holds when all of them are loaded. -/
theorem addSources_keeps (Holds : World → Prop) {scenes : List SceneSource}
    {events : List EventSource}
    (scene : ∀ {world source script}, source ∈ scenes →
      Script.compile source.commands = .ok script → Holds world →
      Holds (world.addScene { uid := source.uid, name := source.name, script }))
    (event : ∀ {world source script}, source ∈ events →
      Script.compile source.commands = .ok script → Holds world →
      Holds (world.addEvent
        { id := source.id, name := source.name, parallel := source.parallel, script }))
    {loading next : Loading} (holds : Holds loading.world)
    (loaded : loading.addSources scenes events = .ok next) : Holds next.world := by
  obtain ⟨between, addedScenes, addedEvents⟩ := bind_ok loaded
  have known : Holds between.world := by
    refine foldlM_keeps (fun member held added => ?_) holds addedScenes
    obtain ⟨script, compiled, same⟩ := addScene_cases added
    rw [same]
    exact scene member compiled held
  refine foldlM_keeps (fun member held added => ?_) known addedEvents
  obtain ⟨script, compiled, same⟩ := addEvent_cases added
  rw [same]
  exact event member compiled held

end Loading

/-! ## Starting -/

/-- The events that start are counted, and nothing else happens to the world. -/
theorem World.activateAll_eq (world : World) (events : List CommonEvent) :
    ∃ active, world.activateAll events =
      { world with board := { world.board with active } } := by
  induction events generalizing world with
  | nil => exact ⟨world.board.active, rfl⟩
  | cons event rest inductionHypothesis => exact inductionHypothesis (world.activate event.id)

/-- The events that run from the start are known to the world. -/
theorem Host.mem_parallelEvents {host : Host} {world : World} {event : CommonEvent}
    (member : event ∈ host.parallelEvents world) : event ∈ world.board.events.values := by
  have listed := (host.arrange_perm _).mem_iff.mp member
  exact (List.mem_filter.mp listed).1

/-- A started game consists of a scene that has been loaded and of the parallel events, all of
them at their first command. -/
theorem Host.start_cases {host : Host} {project : Project} {game : Game}
    {notices : List Notice} (started : host.start project = .ok (game, notices)) :
    ∃ loading uid scene,
      Loading.addSources { world := host.world project.config } project.scenes
        project.events = .ok loading ∧
      loading.world.scenes.find? uid = some scene ∧
      game = {
        world := loading.world.activateAll (host.parallelEvents loading.world)
        main := {
          root := Activation.start { context := { id := scene.uid }, script := scene.script } }
        parallel := (host.parallelEvents loading.world).map CommonEvent.parallelThread } := by
  obtain ⟨uid, _, started⟩ := bind_ok started
  obtain ⟨loading, loaded, started⟩ := bind_ok started
  obtain ⟨main, opened, started⟩ := bind_ok started
  cases started
  unfold World.sceneThread at opened
  split at opened
  · rename_i scene found
    cases opened
    exact ⟨loading, uid, scene, loaded, found, rfl⟩
  · cases opened

end NovelEngine
