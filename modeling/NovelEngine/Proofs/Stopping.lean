import NovelEngine.Proofs.Stillness

/-!
Contract: threads that are stopped and let go on.

Owns:
- the runs that no update moves;
- the exact condition under which updates leave a stopped thread alone, so that it goes on
  later as if nothing had been;
- the effect of a stop on a thread that is in a called script: none but the flag itself.

Does not own: what a host may do to a stopped thread besides updating it.

The flag that stops a thread is that of its outermost run, and only the innermost run looks at
its own.
-/

namespace NovelEngine

/-- No update moves the run: it waits for an event, or for a message box that is held against
it. -/
def Activation.IsHeldUp (activation : Activation) (world : World) : Prop :=
  activation.waitingFor.isSome = true ∨
    activation.isWaitingForMessage = true ∧ activation.isLockedOut world = true

/-! ## Threads that stay as they are -/

theorem Thread.Pauses.unique {thread left right : Thread} {world before after : World}
    (first : thread.Pauses world left before) (second : thread.Pauses world right after) :
    left = right := by
  have same := (first.updates 0).symm.trans (second.updates 0)
  injection same with same
  exact congrArg Update.thread same

/-- A thread that an update leaves alone is left alone by all that follow. -/
theorem Thread.pausesFor_of_pauses {thread : Thread} {world : World} {context : Context}
    (pauses : ∀ before, before = world ∨ before = world.resetTemporaries context →
      thread.Pauses before thread (before.resetTemporaries context)) (count : Nat) :
    ∃ after, Thread.PausesFor count thread world thread after ∧
      (after = world ∨ after = world.resetTemporaries context) := by
  induction count with
  | zero => exact ⟨world, .zero thread world, .inl rfl⟩
  | succ count inductionHypothesis =>
      obtain ⟨between, earlier, reached⟩ := inductionHypothesis
      have last := pauses between reached
      rcases reached with rfl | rfl
      · exact ⟨_, .succ earlier last, .inr rfl⟩
      · rw [World.resetTemporaries_resetTemporaries] at last
        exact ⟨_, .succ earlier last, .inr rfl⟩

theorem updateFrame_of_waiting {activation : Activation} {world : World}
    (waiting : activation.isWaiting = true) (counter : activation.waitCounter = 0)
    (free : activation.isWaitingForMessage = false) (fuel : Nat) (runCallee : CalleeRunner) :
    updateFrame fuel runCallee activation world = some {
      progress := .running
      thread := { root := activation }
      world := world.resetTemporaries activation.context } := by
  cases running : activation.isRunning with
  | false => exact updateFrame_of_stopped running fuel runCallee world
  | true =>
      have goes := Activation.isAtEnd_of_waiting waiting
      have moves : activation.rests (world.resetTemporaries activation.context) = false := by
        simp [Activation.rests, running, counter, free]
      have entry : activation.unparked = activation := by simp [Activation.unparked, free]
      have waits : Thread.root { root := activation.unparked } = activation := entry
      rw [updateFrame_of_goes goes moves, runCommands_of_waiting (waits.symm ▸ waiting), entry]
      rfl

theorem frameVisits_of_waiting {activation : Activation} {world : World}
    (waiting : activation.isWaiting = true) (free : activation.isWaitingForMessage = false)
    (fuel : Nat) (runCallee : CalleeRunner) :
    frameVisits fuel runCallee activation world = [] := by
  have goes := Activation.isAtEnd_of_waiting waiting
  cases rests : activation.rests (world.resetTemporaries activation.context) with
  | true => exact frameVisits_of_rests goes rests fuel runCallee
  | false =>
      have entry : activation.unparked = activation := by simp [Activation.unparked, free]
      rw [frameVisits_of_goes goes rests, entry]
      exact commandVisits_of_unable (Activation.canStep_of_waiting waiting)

section Chain

variable {thread : Thread} {outer : List Activation} {inner : Activation}
  (chain : thread.chain = outer ++ [inner]) (roomy : 0 < inner.callRoom)

include chain roomy

/-- A frame that leaves the innermost run alone leaves the thread alone. -/
theorem Thread.pauses_of_unmoved {world : World}
    (frame : ∀ fuel runCallee, updateFrame fuel runCallee inner world = some {
      progress := .running
      thread := { root := inner }
      world := world.resetTemporaries inner.context })
    (silent : ∀ fuel runCallee, frameVisits fuel runCallee inner world = []) :
    thread.Pauses world thread (world.resetTemporaries inner.context) := by
  obtain ⟨later, laterChain, pauses⟩ := Thread.pauses_of_frame chain roomy frame silent
  rwa [Thread.chain_injective (laterChain.trans chain.symm)] at pauses

theorem Thread.pauses_of_stopped (stopped : inner.isRunning = false) (world : World) :
    thread.Pauses world thread (world.resetTemporaries inner.context) := by
  apply Thread.pauses_of_unmoved chain roomy
  · exact fun fuel runCallee => updateFrame_of_stopped stopped fuel runCallee world
  · apply frameVisits_of_rests
    · simp [Activation.isAtEnd, stopped]
    · simp [Activation.rests, stopped]

theorem Thread.pauses_of_heldUp (settled : Thread.Settled { root := inner })
    (running : inner.isRunning = true) {world : World} (held : inner.IsHeldUp world) :
    thread.Pauses world thread (world.resetTemporaries inner.context) := by
  rcases held with waits | ⟨box, locked⟩
  · obtain ⟨reason, waits⟩ := Option.isSome_iff_exists.mp waits
    obtain ⟨waiting, counter, free⟩ := settled.waits.of_waitingFor waits
    apply Thread.pauses_of_unmoved chain roomy
    · exact updateFrame_of_waiting waiting counter free
    · exact frameVisits_of_waiting waiting free
  · have parked : inner.IsParked := settled.isParked box running
    apply Thread.pauses_of_unmoved chain roomy
    · exact parked.updateFrame_of_locked locked
    · have locked : inner.isLockedOut (world.resetTemporaries inner.context) = true := locked
      apply frameVisits_of_rests (Activation.isAtEnd_of_waiting parked.waiting)
      simp [Activation.rests, box, locked]

end Chain

/-! ## Threads that are in a called script -/

/-- While a thread is in a called script, a stop changes nothing but the flag: each update does
what it would have done without it. -/
theorem Thread.update_stopped {thread : Thread} (calling : thread.callees ≠ []) (fuel : Nat)
    (world : World) : (thread.mapRoot Activation.stop).update fuel world =
      (thread.update fuel world).map (fun update =>
        { update with thread := update.thread.mapRoot Activation.stop }) := by
  obtain ⟨root, callees⟩ := thread
  cases callees with
  | nil => exact absurd rfl calling
  | cons callee rest =>
      simp only [Thread.mapRoot, Thread.update, updateFrames]
      cases updateFrames fuel callee rest world with
      | none => rfl
      | some inner =>
          simp only [Option.map_some, receive]
          cases inner.progress <;> rfl

section Calling

variable {run : Activation} {thread : Thread} {above : List Activation} {inner : Activation}

/-- A frame that executes nothing does not find its run able to execute a command. -/
theorem Thread.Pauses.unable {outer : List Activation} {world after : World} {next : Thread}
    (pauses : thread.Pauses world next after) (chain : thread.chain = outer ++ [inner])
    (roomy : 0 < inner.callRoom) (goes : inner.isAtEnd = false)
    (moves : inner.rests (world.resetTemporaries inner.context) = false) :
    inner.unparked.canStep = false := by
  cases able : inner.unparked.canStep with
  | false => rfl
  | true =>
      obtain ⟨runCallee, inside, loops⟩ := Thread.loops_of_chain chain roomy 1 world
      have silent : frameVisits 1 runCallee inner world = [] := by
        apply pauses.silent 1
        rw [loops]
        exact List.mem_cons_self
      rw [frameVisits_of_goes goes moves] at silent
      simp [commandVisits, able] at silent

/-- A called script at its end is left in the next update. -/
theorem Thread.Pauses.unended {world after : World} {next : Thread}
    (pauses : thread.Pauses world next after) (called : thread.callees = above ++ [inner])
    (roomy : 0 < inner.callRoom) (kept : next.callees = thread.callees) :
    inner.endsHere = false := by
  cases ends : inner.endsHere with
  | false => rfl
  | true =>
      have chain : thread.chain = (thread.root :: above) ++ [inner] :=
        congrArg (thread.root :: ·) called
      obtain ⟨_, update, updated, ⟨alone, _⟩ | ⟨outer, caller, split, _, left⟩⟩ :=
        Thread.endsInside_of_endsHere chain roomy ends world 0
      · cases alone
      · rw [pauses.updates 0] at updated
        cases updated
        have shorter := congrArg List.length left
        have whole := congrArg List.length split
        simp only [Thread.chain, kept, called, List.length_cons, List.length_append,
          List.length_nil] at shorter whole
        omega

/-- A called script that an update neither moves nor leaves is held up. -/
theorem Driven.heldUp_of_pauses (driven : Driven run thread) (fresh : run.callers = [])
    (called : thread.callees = above ++ [inner]) {world after : World} {next : Thread}
    (pauses : thread.Pauses world next after) (kept : next.callees = thread.callees) :
    inner.IsHeldUp world := by
  have chain : thread.chain = (thread.root :: above) ++ [inner] :=
    congrArg (thread.root :: ·) called
  have settled := driven.settled_innermost chain
  have roomy := driven.callRoom_innermost chain fresh
  obtain ⟨running, once⟩ := driven.calleesCalled inner (by simp [called])
  have waits : inner.WaitsForOne := settled.waits
  cases waits with
  | awake awake =>
      exfalso
      have unended := pauses.unended called roomy kept
      have goes : inner.isAtEnd = false := by simpa [Activation.endsHere, once] using unended
      have inside : inner.pointer < inner.script.size := by
        simpa [Activation.isAtEnd, running, awake.waiting] using goes
      have moves : inner.rests (world.resetTemporaries inner.context) = false := by
        simp [Activation.rests, running, awake.counter, awake.box]
      have unable := pauses.unable chain roomy goes moves
      have unpaused : inner.preview.waiting = false := settled.unpaused.2
      simp [Activation.unparked, awake.box, Activation.canStep, awake.waiting, unpaused, inside,
        running] at unable
  | frames waiting counter =>
      exfalso
      obtain ⟨left, frames⟩ : ∃ left, inner.waitCounter = left + 1 :=
        ⟨inner.waitCounter - 1, by omega⟩
      have begun : inner.wait (left + 1) = inner := by
        simp [Activation.wait, ← frames, counter, ← waiting]
      rw [← begun] at chain
      obtain ⟨later, laterChain, counted⟩ :=
        Thread.pauses_of_counting chain roomy running world
      have behind : later.callees = above ++ [inner.wait left] := (List.cons.inj laterChain).2
      rw [pauses.unique counted, behind, called, List.append_cancel_left_eq] at kept
      have same : inner.wait left = inner := (List.cons.inj kept).1
      have less : left = inner.waitCounter := congrArg Activation.waitCounter same
      omega
  | event _ _ reason => exact .inl (by simp [reason])
  | box _ _ _ box =>
      refine .inr ⟨box, ?_⟩
      cases locked : inner.isLockedOut world with
      | true => rfl
      | false =>
          have parked : inner.IsParked := settled.isParked box running
          obtain ⟨goes, moves⟩ := parked.goes_of_free locked
          have unable := pauses.unable chain roomy goes moves
          exact absurd (parked.canStep_unparked.symm.trans unable) (by decide)

end Calling

/-! ## Stopping and going on -/

theorem Thread.resume_stop {thread : Thread} (running : thread.root.isRunning = true) :
    (thread.mapRoot Activation.stop).mapRoot Activation.resume = thread := by
  simp only [Thread.mapRoot, Activation.stop, Activation.resume, ← running]

/-- A stopped thread that has called no script, or is held up, stays as it is. -/
theorem Driven.stopped_pauses {run : Activation} {thread : Thread} (driven : Driven run thread)
    (fresh : run.callers = []) {world : World}
    (safe : thread.callees = [] ∨ thread.innermost.IsHeldUp world) :
    (thread.mapRoot Activation.stop).Pauses world (thread.mapRoot Activation.stop)
      (world.resetTemporaries thread.innermost.context) := by
  rcases List.eq_nil_or_concat thread.callees with alone | ⟨above, inner, called⟩
  · have chain : (thread.mapRoot Activation.stop).chain = [] ++ [thread.root.stop] :=
      congrArg (thread.root.stop :: ·) alone
    have lone : thread.chain = [] ++ [thread.root] := congrArg (thread.root :: ·) alone
    have roomy : 0 < thread.root.callRoom := driven.callRoom_innermost lone fresh
    rw [Thread.innermost_of_chain lone]
    exact Thread.pauses_of_stopped chain roomy rfl world
  · rw [List.concat_eq_append] at called
    have chain : (thread.mapRoot Activation.stop).chain = (thread.root.stop :: above) ++ [inner] :=
      congrArg (thread.root.stop :: ·) called
    have before : thread.chain = (thread.root :: above) ++ [inner] :=
      congrArg (thread.root :: ·) called
    rw [Thread.innermost_of_chain before] at safe ⊢
    have held : inner.IsHeldUp world := safe.resolve_left (by simp [called])
    have running := (driven.calleesCalled inner (by simp [called])).1
    exact Thread.pauses_of_heldUp chain (driven.callRoom_innermost before fresh)
      (driven.settled_innermost before) running held

/-- Updates leave a stopped thread alone, so that it goes on later as if nothing had been,
exactly if it has called no script or is held up in the script that it has called. In any other
called script its updates do what they would have done without the stop. -/
theorem Driven.stop_transparent_iff {run : Activation} {thread : Thread}
    (driven : Driven run thread) (fresh : run.callers = [])
    (running : thread.root.isRunning = true) (world : World) :
    ((∀ count, ∃ (still : Thread) (after : World),
        Thread.PausesFor count (thread.mapRoot Activation.stop) world still after ∧
        still.mapRoot Activation.resume = thread ∧
        (after = world ∨ after = world.resetTemporaries thread.innermost.context)) ↔
      thread.callees = [] ∨ thread.innermost.IsHeldUp world) ∧
    (thread.callees ≠ [] → ∀ fuel, (thread.mapRoot Activation.stop).update fuel world =
      (thread.update fuel world).map (fun update =>
        { update with thread := update.thread.mapRoot Activation.stop })) := by
  refine ⟨⟨fun transparent => ?_, fun safe count => ?_⟩, fun calling fuel =>
    Thread.update_stopped calling fuel world⟩
  · obtain ⟨still, after, paused, same, _⟩ := transparent 1
    rcases List.eq_nil_or_concat thread.callees with alone | ⟨above, inner, called⟩
    · exact .inl alone
    · right
      rw [List.concat_eq_append] at called
      have chain : thread.chain = (thread.root :: above) ++ [inner] :=
        congrArg (thread.root :: ·) called
      rw [Thread.innermost_of_chain chain]
      cases paused with
      | succ earlier pauses =>
          cases earlier
          have kept : still.callees = thread.callees := by
            rw [← same]
            rfl
          exact driven.stop.heldUp_of_pauses fresh called pauses kept
  · have pauses (before : World)
        (reached : before = world ∨ before = world.resetTemporaries thread.innermost.context) :
        (thread.mapRoot Activation.stop).Pauses before (thread.mapRoot Activation.stop)
          (before.resetTemporaries thread.innermost.context) := by
      rcases reached with rfl | rfl
      · exact driven.stopped_pauses fresh safe
      · exact driven.stopped_pauses fresh safe
    obtain ⟨after, paused, reached⟩ := Thread.pausesFor_of_pauses pauses count
    exact ⟨_, after, paused, Thread.resume_stop running, reached⟩

/-- The hall calls the guard, who waits for nine frames. -/
private def hallToGuard : Script where
  commands := #[{ id := "CallScene", params := .record [("uid", .text "guard")] }]
  instructions := #[some (.callScene "guard")]
  jumpTargets := #[none]

private def waitingGuard : Script where
  commands := #[{ id := "WaitCommand", params := .record [("time", .integer 9)] }]
  instructions := #[some (.wait (.literal (.integer 9)))]
  jumpTargets := #[none]

/-- A guard who asks for a number. -/
private def askingGuard : Script where
  commands := #[{ id := "InputNumber", params := .record [("variable", .record
    [("scope", .text "local"), ("kind", .text "number"), ("index", .integer 0)])] }]
  instructions := #[some (.inputNumber { scope := .local, kind := .number, index := 0 } 0)]
  jumpTargets := #[none]

/-- The world in which the guard follows a script. -/
private def guardedBy (script : Script) : World :=
  World.empty.addScene { uid := "guard", name := "", script }

/-- A stop while the guard waits for an answer is transparent. -/
theorem askingGuard_stop_transparent :
    ∃ thread world, Driven { context := { id := "hall" }, script := hallToGuard } thread ∧
      thread.root.isRunning = true ∧ thread.callees.length = 1 ∧ ∀ count, ∃ still after,
        Thread.PausesFor count (thread.mapRoot Activation.stop) world still after ∧
        still.mapRoot Activation.resume = thread ∧
        (after = world ∨ after = world.resetTemporaries thread.innermost.context) := by
  have ran : (Thread.update
      { root := Activation.start { context := { id := "hall" }, script := hallToGuard } } 1
      (guardedBy askingGuard)).any (fun update => update.thread.root.isRunning &&
        update.thread.callees.length == 1 && update.thread.innermost.waitingFor.isSome) =
          true := by
    decide +kernel
  obtain ⟨update, updated, state⟩ := (Option.any_eq_true _ _).mp ran
  simp only [Bool.and_eq_true, beq_iff_eq] at state
  obtain ⟨⟨running, called⟩, waits⟩ := state
  have driven : Driven { context := { id := "hall" }, script := hallToGuard } update.thread :=
    .update (.start .anew) updated
  exact ⟨update.thread, update.world, driven, running, called,
    (driven.stop_transparent_iff rfl running update.world).1.mpr (.inr (.inl waits))⟩

/-- A stop is not transparent in general: a called script that counts frames goes on counting
while its caller is stopped. -/
theorem not_always_stop_transparent :
    ¬ ∀ (run : Activation) (last : Option Nat) (thread : Thread) (world : World),
      Reached run last thread world → run.callers = [] → thread.root.isRunning = true →
      ∀ count, ∃ still after,
        Thread.PausesFor count (thread.mapRoot Activation.stop) world still after ∧
        still.mapRoot Activation.resume = thread := by
  intro always
  have ran : (Thread.update
      { root := Activation.start { context := { id := "hall" }, script := hallToGuard } } 1
      (guardedBy waitingGuard)).any (fun update => update.thread.root.isRunning &&
        update.thread.callees.length == 1 && update.thread.innermost.waitingFor.isNone &&
        !update.thread.innermost.isWaitingForMessage) = true := by
    decide +kernel
  obtain ⟨update, updated, state⟩ := (Option.any_eq_true _ _).mp ran
  simp only [Bool.and_eq_true, beq_iff_eq] at state
  obtain ⟨⟨⟨running, called⟩, unasked⟩, unparked⟩ := state
  have reached : Reached { context := { id := "hall" }, script := hallToGuard } _ update.thread
      update.world := .update (.start (.anew (guardedBy waitingGuard))) updated
  obtain ⟨guard, callees⟩ := List.length_eq_one_iff.mp called
  have chain : update.thread.chain = [update.thread.root] ++ [guard] :=
    congrArg (update.thread.root :: ·) callees
  rw [Thread.innermost_of_chain chain] at unasked unparked
  obtain ⟨still, after, paused, same⟩ := always _ _ _ _ reached rfl running 1
  cases paused with
  | succ earlier pauses =>
      cases earlier
      have kept : still.callees = update.thread.callees := by
        rw [← same]
        rfl
      have stopped : (update.thread.mapRoot Activation.stop).callees = [] ++ [guard] := callees
      have held := reached.driven.stop.heldUp_of_pauses rfl stopped pauses kept
      rcases held with waits | ⟨parked, _⟩
      · rw [Option.isNone_iff_eq_none.mp unasked] at waits
        cases waits
      · simp [parked] at unparked

end NovelEngine
