import NovelEngine.Proofs.CallDepth
import NovelEngine.Proofs.Endings
import NovelEngine.Proofs.EventDelivery
import NovelEngine.Proofs.Resuming
import NovelEngine.Proofs.WaitState

/-!
Contract: updates in which no command of a thread is executed.

Owns:
- such updates, one after the other;
- the update of a whole thread, read off the frame of its innermost run;
- countdowns, which are exact at every depth of calls.

Does not own: what ends a wait for an event.

Only the innermost run of a thread is advanced. Hence an update in which that run executes
nothing leaves every other run as it is.
-/

namespace NovelEngine

/-! ## Updates that execute nothing -/

/-- An update that executes no command, whatever its fuel, and reports nothing. -/
structure Thread.Pauses (thread : Thread) (world : World) (next : Thread) (after : World) :
    Prop where
  updates : ∀ fuel, thread.update fuel world =
    some { progress := .running, thread := next, world := after }
  silent : ∀ fuel, ∀ loop ∈ thread.loops fuel world, loop = []

/-- A number of such updates in a row. -/
inductive Thread.PausesFor : Nat → Thread → World → Thread → World → Prop where
  | zero (thread : Thread) (world : World) : PausesFor 0 thread world thread world
  | succ {count : Nat} {thread middle next : Thread} {world between after : World}
      (earlier : PausesFor count thread world middle between)
      (pauses : middle.Pauses between next after) : PausesFor (count + 1) thread world next after

/-! ## The innermost run -/

namespace Thread

theorem chain_injective {left right : Thread} (same : left.chain = right.chain) :
    left = right := by
  obtain ⟨root, callees⟩ := left
  obtain ⟨rfl, rfl⟩ := List.cons.inj same
  rfl

theorem innermost_of_chain {thread : Thread} {outer : List Activation} {inner : Activation}
    (chain : thread.chain = outer ++ [inner]) : thread.innermost = inner := by
  obtain ⟨root, callees⟩ := thread
  induction outer generalizing root callees with
  | nil =>
      obtain ⟨rfl, rfl⟩ := List.cons.inj chain
      rfl
  | cons first outer inductionHypothesis =>
      obtain ⟨_, called⟩ := List.cons.inj chain
      cases callees with
      | nil => simp at called
      | cons callee rest =>
          rw [innermost_cons]
          exact inductionHypothesis callee rest called

variable {thread : Thread} {outer : List Activation} {inner : Activation} {fuel : Nat}
  {world : World} {update : Update}

/-- While the innermost run goes on, an update replaces it and leaves the others alone. -/
theorem update_of_unfinished (chain : thread.chain = outer ++ [inner])
    (ran : advance fuel inner.callRoom inner world = some update)
    (unfinished : update.progress = .running) :
    ∃ next : Thread, next.chain = outer ++ update.thread.chain ∧
      thread.update fuel world = some { update with thread := next } := by
  obtain ⟨root, callees⟩ := thread
  induction outer generalizing root callees with
  | nil =>
      obtain ⟨rfl, rfl⟩ := List.cons.inj chain
      exact ⟨update.thread, rfl, ran⟩
  | cons first outer inductionHypothesis =>
      obtain ⟨rfl, called⟩ := List.cons.inj chain
      cases callees with
      | nil => simp at called
      | cons callee rest =>
          obtain ⟨next, nextChain, updated⟩ := inductionHypothesis callee rest called
          refine ⟨{ root, callees := next.chain }, congrArg (root :: ·) nextChain, ?_⟩
          have whole := Thread.update_under updated root
          simp only [receive, unfinished] at whole
          rw [unfinished]
          exact whole

/-- When the innermost run ends, the run that called it goes on. -/
theorem update_of_finished {caller : Activation}
    (chain : thread.chain = outer ++ [caller, inner])
    (ran : advance fuel inner.callRoom inner world = some update)
    (finished : update.progress = .finished) :
    ∃ (next : Thread) (after : World) (notices : List Notice),
      next.chain = outer ++ [caller.clearWait] ∧
      thread.update fuel world = some {
        progress := .running, thread := next, world := after, notices } := by
  obtain ⟨root, callees⟩ := thread
  induction outer generalizing root callees with
  | nil =>
      obtain ⟨rfl, rfl⟩ := List.cons.inj chain
      have ended : Thread.update { root := inner } fuel world = some update := ran
      have whole := Thread.update_under ended root
      simp only [receive, finished] at whole
      exact ⟨_, _, _, rfl, whole⟩
  | cons first outer inductionHypothesis =>
      obtain ⟨rfl, called⟩ := List.cons.inj chain
      cases callees with
      | nil => simp at called
      | cons callee rest =>
          obtain ⟨next, after, notices, nextChain, updated⟩ :=
            inductionHypothesis callee rest called
          exact ⟨{ root, callees := next.chain }, after, notices,
            congrArg (root :: ·) nextChain, Thread.update_under updated root⟩

/-- The first loop of an update is that of the innermost run. -/
theorem loops_of_chain (chain : thread.chain = outer ++ [inner]) (roomy : 0 < inner.callRoom)
    (fuel : Nat) (world : World) :
    ∃ runCallee inside, thread.loops fuel world = frameVisits fuel runCallee inner world ::
      (frameVisits fuel runCallee inner world).flatMap inside := by
  obtain ⟨room, rooms⟩ : ∃ room, inner.callRoom = room + 1 := ⟨inner.callRoom - 1, by omega⟩
  refine ⟨advance fuel room, loopsAt (advanceLoops fuel room), ?_⟩
  unfold loops
  rw [innermost_of_chain chain, rooms]
  rfl

/-- A thread whose innermost run executes nothing in a frame, and does not end in it, pauses. -/
theorem pauses_of_frame {next : Activation} {after : World}
    (chain : thread.chain = outer ++ [inner]) (roomy : 0 < inner.callRoom)
    (frame : ∀ fuel runCallee, updateFrame fuel runCallee inner world =
      some { progress := .running, thread := { root := next }, world := after })
    (silent : ∀ fuel runCallee, frameVisits fuel runCallee inner world = []) :
    ∃ later : Thread, later.chain = outer ++ [next] ∧ thread.Pauses world later after := by
  obtain ⟨room, rooms⟩ : ∃ room, inner.callRoom = room + 1 := ⟨inner.callRoom - 1, by omega⟩
  have ran (fuel : Nat) : advance fuel inner.callRoom inner world =
      some { progress := .running, thread := { root := next }, world := after } := by
    rw [rooms]
    exact frame fuel (advance fuel room)
  obtain ⟨later, laterChain, _⟩ := update_of_unfinished chain (ran 0) rfl
  refine ⟨later, laterChain, ?_, ?_⟩
  · intro fuel
    obtain ⟨other, otherChain, updated⟩ := update_of_unfinished chain (ran fuel) rfl
    rw [updated, chain_injective (otherChain.trans laterChain.symm)]
  · intro fuel
    obtain ⟨runCallee, inside, loops⟩ := loops_of_chain chain roomy fuel world
    rw [loops, silent, List.flatMap_nil]
    exact List.forall_mem_singleton.mpr rfl

end Thread

/-! ## Countdowns -/

theorem World.resetTemporaries_resetTemporaries (world : World) (context : Context) :
    (world.resetTemporaries context).resetTemporaries context =
      world.resetTemporaries context := by
  simp [World.resetTemporaries, Store.resetTemporaries]

theorem frameVisits_of_rests {activation : Activation} {world : World}
    (unended : activation.isAtEnd = false)
    (rests : activation.rests (world.resetTemporaries activation.context) = true) (fuel : Nat)
    (runCallee : CalleeRunner) : frameVisits fuel runCallee activation world = [] := by
  simp [frameVisits, Activation.restarted, unended, rests]

theorem Activation.isAtEnd_of_waiting {activation : Activation}
    (waiting : activation.isWaiting = true) : activation.isAtEnd = false := by
  simp [isAtEnd, waiting]

/-- One frame of a countdown, at any depth of calls. -/
theorem Thread.pauses_of_counting {thread : Thread} {outer : List Activation}
    {inner : Activation} {frames : Nat} (chain : thread.chain = outer ++ [inner.wait (frames + 1)])
    (roomy : 0 < inner.callRoom) (running : inner.isRunning = true) (world : World) :
    ∃ later : Thread, later.chain = outer ++ [inner.wait frames] ∧
      thread.Pauses world later (world.resetTemporaries inner.context) := by
  have counting : 0 < (inner.wait (frames + 1)).waitCounter := Nat.succ_pos frames
  have waiting : (inner.wait (frames + 1)).isWaiting = true := decide_eq_true counting
  have running : (inner.wait (frames + 1)).isRunning = true := running
  apply Thread.pauses_of_frame chain roomy
  · intro fuel runCallee
    exact updateFrame_of_counting running counting waiting fuel runCallee world
  · apply frameVisits_of_rests (Activation.isAtEnd_of_waiting waiting)
    simp [Activation.rests, counting]

/-- A countdown takes as many updates as there are frames left. -/
theorem Thread.pausesFor_of_counting {thread : Thread} {outer : List Activation}
    {inner : Activation} {frames : Nat} (chain : thread.chain = outer ++ [inner.wait frames])
    (roomy : 0 < inner.callRoom) (running : inner.isRunning = true) (world : World)
    {passed : Nat} (passes : passed < frames) :
    ∃ later : Thread, later.chain = outer ++ [inner.wait (frames - (passed + 1))] ∧
      Thread.PausesFor (passed + 1) thread world later
        (world.resetTemporaries inner.context) := by
  induction passed with
  | zero =>
      obtain ⟨left, rfl⟩ : ∃ left, frames = left + 1 := ⟨frames - 1, by omega⟩
      obtain ⟨later, laterChain, pauses⟩ := pauses_of_counting chain roomy running world
      exact ⟨later, laterChain, .succ (.zero thread world) pauses⟩
  | succ passed inductionHypothesis =>
      obtain ⟨middle, middleChain, earlier⟩ := inductionHypothesis (by omega)
      have left : frames - (passed + 1) = frames - (passed + 1 + 1) + 1 := by omega
      rw [left] at middleChain
      obtain ⟨later, laterChain, pauses⟩ := pauses_of_counting middleChain roomy running
        (world.resetTemporaries inner.context)
      rw [World.resetTemporaries_resetTemporaries] at pauses
      exact ⟨later, laterChain, .succ earlier pauses⟩

/-- The next update, whatever its fuel, executes first the command at the pointer of `run`. -/
def Thread.ContinuesFrom (thread : Thread) (world : World) (run : Activation) : Prop :=
  ∀ fuel, ∃ visits inside, thread.loops (fuel + 1) world =
    (({ root := run }, world.resetTemporaries run.context) :: visits) :: inside

/-- The next update executes nothing and ends the innermost run. The thread ends with it, or
the run that called it goes on. -/
def Thread.EndsInside (thread : Thread) (world : World) (outer : List Activation)
    (inner : Activation) : Prop :=
  ∀ fuel, (∀ loop ∈ thread.loops fuel world, loop = []) ∧
    ∃ update, thread.update fuel world = some update ∧
      (outer = [] ∧ update.progress = .finished ∧ update.thread = { root := inner.finished } ∨
        ∃ above caller, outer = above ++ [caller] ∧ update.progress = .running ∧
          update.thread.chain = above ++ [caller.clearWait])

/-- A run that can execute a command, once it has been started over at its end, does so. -/
theorem Thread.continues_of_able {thread : Thread} {outer : List Activation}
    {inner : Activation} (chain : thread.chain = outer ++ [inner]) (roomy : 0 < inner.callRoom)
    (goes : inner.endsHere = false) (counter : inner.restarted.waitCounter = 0)
    (free : inner.restarted.isWaitingForMessage = false)
    (able : inner.restarted.canStep = true) (world : World) :
    thread.ContinuesFrom world inner.restarted := by
  intro fuel
  have running := Activation.isRunning_of_canStep able
  have moves : inner.restarted.rests (world.resetTemporaries inner.context) = false := by
    simp [Activation.rests, running, counter, free]
  have entry : inner.restarted.unparked = inner.restarted := by simp [Activation.unparked, free]
  have context := (Activation.sameRun_iff.mpr inner.restarted_identity).context
  obtain ⟨runCallee, inside, loops⟩ := loops_of_chain chain roomy (fuel + 1) world
  rw [loops, context]
  unfold frameVisits
  dsimp only
  rw [goes, moves, entry]
  simp only [Bool.or_self, Bool.false_eq_true, if_false]
  unfold commandVisits
  rw [if_pos able]
  exact ⟨_, _, rfl⟩

/-- A run that is awake inside its script goes on at its pointer. -/
theorem Thread.continues_of_awake {thread : Thread} {outer : List Activation}
    {inner : Activation} (chain : thread.chain = outer ++ [inner]) (roomy : 0 < inner.callRoom)
    (awake : inner.IsAwake) (able : inner.canStep = true) (world : World) :
    thread.ContinuesFrom world inner := by
  have inside := Activation.pointer_lt_of_canStep able
  have goes : inner.isAtEnd = false := by simp [Activation.isAtEnd, inside]
  have unended : inner.endsHere = false := by simp [Activation.endsHere, goes]
  have stays : inner.restarted = inner := by simp [Activation.restarted, goes]
  have continues := Thread.continues_of_able chain roomy unended (stays.symm ▸ awake.counter)
    (stays.symm ▸ awake.box) (stays.symm ▸ able) world
  rwa [stays] at continues

/-- A repeating run at its end goes on at the top of its script. -/
theorem Thread.continues_of_repeats {thread : Thread} {outer : List Activation}
    {inner : Activation} (chain : thread.chain = outer ++ [inner]) (roomy : 0 < inner.callRoom)
    (atEnd : inner.isAtEnd = true) (repeats : inner.repeats = true)
    (nonempty : 0 < inner.script.size) (unpaused : inner.preview.waiting = false)
    (world : World) : thread.ContinuesFrom world inner.start := by
  have unended : inner.endsHere = false := by simp [Activation.endsHere, repeats]
  have again : inner.restarted = inner.start := by simp [Activation.restarted, atEnd, repeats]
  have able : inner.start.canStep = true := by
    simp [Activation.canStep, Activation.start, unpaused, nonempty]
  have continues := Thread.continues_of_able chain roomy unended (again.symm ▸ rfl)
    (again.symm ▸ rfl) (again.symm ▸ able) world
  rwa [again] at continues

theorem Thread.endsInside_of_endsHere {thread : Thread} {outer : List Activation}
    {inner : Activation} (chain : thread.chain = outer ++ [inner]) (roomy : 0 < inner.callRoom)
    (ends : inner.endsHere = true) (world : World) : thread.EndsInside world outer inner := by
  intro fuel
  obtain ⟨runCallee, inside, loops⟩ := loops_of_chain chain roomy fuel world
  have silent : frameVisits fuel runCallee inner world = [] := by simp [frameVisits, ends]
  refine ⟨?_, ?_⟩
  · rw [loops, silent, List.flatMap_nil]
    exact List.forall_mem_singleton.mpr rfl
  · obtain ⟨room, rooms⟩ : ∃ room, inner.callRoom = room + 1 := ⟨inner.callRoom - 1, by omega⟩
    have ran : advance fuel inner.callRoom inner world = some (Thread.finish { root := inner }
        (world.resetTemporaries inner.context) []) := by
      rw [rooms]
      simp [advance, updateFrame, ends]
    rcases List.eq_nil_or_concat outer with alone | ⟨above, caller, called⟩
    · rw [alone] at chain
      obtain rfl : thread = { root := inner } := chain_injective chain
      exact ⟨_, ran, .inl ⟨alone, rfl, rfl⟩⟩
    · rw [List.concat_eq_append] at called
      rw [called, List.append_assoc] at chain
      obtain ⟨next, after, notices, nextChain, updated⟩ := update_of_finished chain ran rfl
      exact ⟨_, updated, .inr ⟨above, caller, called, rfl, nextChain⟩⟩

/-! ## What holds between the calls of a host -/

/-- The runs that a host drives may be advanced at any depth. -/
theorem Driven.shallow {run : Activation} {thread : Thread} (driven : Driven run thread)
    (fresh : run.callers = []) : thread.Shallow := by
  induction driven with
  | anew => exact List.forall_mem_singleton.mpr (Activation.shallow_of_callers fresh)
  | start _ shallow => exact List.forall_mem_singleton.mpr shallow.root
  | stop _ shallow => exact shallow.replaceRoot rfl
  | resume _ shallow => exact shallow.replaceRoot rfl
  | update _ updated shallow => exact shallow.update updated
  | notify _ accepted shallow =>
      exact shallow_of_identities (Thread.notify?_identities accepted) shallow

/-- A run that counts down has executed a command of its script. -/
theorem lasts_nonempty :
    Lasts (fun _ thread _ => 0 < thread.root.waitCounter → 0 < thread.root.script.size) where
  frame := fun _ => {
    reset := id
    start := fun _ _ _ => nofun
    count := fun nonempty _ counting _ => nonempty counting
    unpark := fun nonempty _ _ => nonempty
    pass := by
      intro _ activation _ next after executed _ able step _
      have same := step.sameRun.trans (next.root.counted_sameRun after.config executed)
      have inside := Activation.pointer_lt_of_canStep able
      have script : (next.counted after.config executed).root.script = activation.script :=
        same.script
      rw [script]
      omega
    finish := fun nonempty _ => nonempty }
  away := id
  back := fun _ => nofun

theorem Driven.nonempty {run : Activation} {thread : Thread} (driven : Driven run thread) :
    0 < thread.root.waitCounter → 0 < thread.root.script.size := by
  induction driven with
  | anew => exact nofun
  | start => exact nofun
  | stop _ nonempty => exact nonempty
  | resume _ nonempty => exact nonempty
  | update _ updated nonempty => exact Thread.update_fact lasts_nonempty none nonempty updated
  | notify _ accepted nonempty =>
      rcases Thread.notify?_cases accepted with
        ⟨_, delivery, delivered, told, _⟩ | ⟨_, _, _, _, _, told⟩
      · rw [told]
        obtain ⟨_, same | ⟨labels, index, jumped⟩⟩ := Activation.deliver?_cases delivered
        · simp [same, Activation.clearWait]
        · simp [jumped, Activation.jumpTo, Activation.clearWait]
      · rw [told]
        exact nonempty

/-! ## Called scripts -/

/-- A script that another one called: it runs, and ends at its end. -/
def Activation.IsCalled (activation : Activation) : Prop :=
  activation.isRunning = true ∧ activation.repeats = false

/-- Called scripts that come to rest before their end still run, with all that they called. -/
def CalleesKeepRunning (runCallee : CalleeRunner) : Prop :=
  ∀ callee world update, callee.IsCalled → runCallee callee world = some update →
    update.progress = .running → ∀ run ∈ update.thread.chain, run.IsCalled

section Called

variable {runCallee : CalleeRunner} {activation : Activation} {world : World}

theorem Handling.calleesCalled (inner : CalleesKeepRunning runCallee) {next : Thread}
    {after : World} (handling : Handling runCallee { root := activation } world next after) :
    ∀ run ∈ next.callees, run.IsCalled := by
  cases handling with
  | skip => exact List.forall_mem_nil _
  | ignore => exact List.forall_mem_nil _
  | perform => exact List.forall_mem_nil _
  | callThrough => exact List.forall_mem_nil _
  | call _ _ _ performed called ran unfinished =>
      subst performed
      obtain ⟨⟨context, script, rfl⟩, _⟩ := Activation.perform_call called
      exact inner _ _ _ ⟨rfl, rfl⟩ ran unfinished

theorem lastsFrame_calleesCalled (inner : CalleesKeepRunning runCallee) :
    LastsFrame runCallee (fun _ thread _ => ∀ run ∈ thread.callees, run.IsCalled) where
  reset := id
  start := fun _ _ _ => List.forall_mem_nil _
  count := fun _ _ _ => List.forall_mem_nil _
  unpark := fun _ _ _ => List.forall_mem_nil _
  pass := by
    intro _ _ _ _ _ _ _ _ step
    cases step with
    | pause => exact List.forall_mem_nil _
    | move handling => exact handling.calleesCalled inner
  finish := fun _ _ => List.forall_mem_nil _

/-- A run that has not ended in a frame still runs. -/
theorem updateFrame_isRunning {fuel : Nat} {update : Update}
    (updated : updateFrame fuel runCallee activation world = some update)
    (running : activation.isRunning = true) (unfinished : update.progress = .running) :
    update.thread.root.isRunning = true := by
  have restarted : activation.restarted.isRunning = true := by
    unfold Activation.restarted
    split
    · rfl
    · exact running
  rcases updateFrame_cases updated with ⟨_, rfl⟩ | ⟨_, rest | ⟨_, run, ran, rfl⟩⟩
  · cases unfinished
  · obtain ⟨_, _, _, same | ⟨_, _, counted⟩⟩ := rest
    · rw [same]
      exact restarted
    · rw [counted]
      exact restarted
  · have entry : activation.restarted.unparked.isRunning = true := by
      unfold Activation.unparked
      split
      · exact restarted
      · exact restarted
    have kept : run.thread.root.isRunning = true := by
      refine @runCommands_fact runCallee (fun _ thread _ => thread.root.isRunning = true) ?_
        fuel 0 none _ _ _ _ entry ran
      intro _ thread _ next after executed holds _ step
      obtain ⟨_, _, _, counted⟩ := next.root.counted_eq after.config executed
      show (next.root.counted after.config executed).isRunning = true
      rw [counted]
      exact step.sameRunning.trans holds
    unfold Run.conclude at unfinished ⊢
    split at unfinished
    · cases unfinished
    · rename_i goes
      rw [if_neg goes]
      unfold Thread.restartAtEnd
      split
      · rfl
      · exact kept

end Called

theorem calleesKeepRunning (fuel room : Nat) : CalleesKeepRunning (advance fuel room) := by
  induction room with
  | zero =>
      intro callee world update _ ran
      cases ran
  | succ room inductionHypothesis =>
      intro callee world update called ran unfinished
      have same : callee.SameRun update.thread.root :=
        updateFrame_fact ((lasts_sameRun callee).frame _) none (.refl callee) ran
      have running := updateFrame_isRunning ran called.1 unfinished
      have inside := updateFrame_fact (lastsFrame_calleesCalled inductionHypothesis) none
        (List.forall_mem_nil _) ran
      exact List.forall_mem_cons.mpr ⟨⟨running, same.repeats.trans called.2⟩, inside⟩

/-- The update of a thread of called scripts. -/
theorem Thread.update_called {thread : Thread} {fuel : Nat} {world : World} {update : Update}
    (called : ∀ run ∈ thread.chain, run.IsCalled)
    (updated : thread.update fuel world = some update) (unfinished : update.progress = .running) :
    ∀ run ∈ update.thread.chain, run.IsCalled := by
  obtain ⟨root, callees⟩ := thread
  induction callees generalizing root update with
  | nil =>
      have here : root.IsCalled := called root List.mem_cons_self
      exact calleesKeepRunning fuel root.callRoom root world update here updated unfinished
  | cons callee rest inductionHypothesis =>
      obtain ⟨here, behind⟩ := List.forall_mem_cons.mp called
      obtain ⟨inner, ran, _, ⟨unfinished, thread, _⟩ | ⟨_, thread, _⟩⟩ :=
        Thread.update_calling updated
      · rw [thread]
        exact List.forall_mem_cons.mpr ⟨here, inductionHypothesis unfinished callee behind ran⟩
      · rw [thread]
        exact List.forall_mem_singleton.mpr here

theorem Thread.update_calleesCalled {thread : Thread} {fuel : Nat} {world : World}
    {update : Update} (called : ∀ run ∈ thread.callees, run.IsCalled)
    (updated : thread.update fuel world = some update) :
    ∀ run ∈ update.thread.callees, run.IsCalled := by
  obtain ⟨root, callees⟩ := thread
  cases callees with
  | nil =>
      obtain ⟨_, ran⟩ := Thread.update_single updated
      exact updateFrame_fact
        (lastsFrame_calleesCalled (calleesKeepRunning fuel (root.callRoom - 1))) none
        (List.forall_mem_nil _) ran
  | cons callee rest =>
      obtain ⟨inner, ran, _, ⟨unfinished, thread, _⟩ | ⟨_, thread, _⟩⟩ :=
        Thread.update_calling updated
      · rw [thread]
        have behind : ∀ run ∈ Thread.chain { root := callee, callees := rest }, run.IsCalled :=
          called
        exact Thread.update_called behind ran unfinished
      · rw [thread]
        exact List.forall_mem_nil _

theorem Activation.deliver?_isRunning {activation : Activation} {world : World}
    {event : HostEvent} {delivery : Delivery}
    (delivered : activation.deliver? world event = some delivery) :
    delivery.activation.isRunning = activation.isRunning := by
  obtain ⟨_, same | ⟨labels, index, jumped⟩⟩ := deliver?_cases delivered
  · rw [same]
    rfl
  · rw [jumped]
    rfl

/-- An event leaves every called script running. -/
theorem Thread.notify?_calleesCalled {thread : Thread} {world : World} {event : HostEvent}
    {notified : Run} (called : ∀ run ∈ thread.callees, run.IsCalled)
    (accepted : thread.notify? world event = some notified) :
    ∀ run ∈ notified.thread.callees, run.IsCalled := by
  obtain ⟨⟨callers, before, after⟩, delivered⟩ := Thread.notify?_deliver accepted
  have repeats := (Activation.deliver?_sameRun delivered).repeats
  have running : notified.thread.innermost.isRunning = thread.innermost.isRunning :=
    Activation.deliver?_isRunning delivered
  cases callers with
  | nil =>
      have alone : notified.thread.callees = [] := (List.cons.inj after).2
      rw [alone]
      exact List.forall_mem_nil _
  | cons root above =>
      have outer : thread.callees = above ++ [thread.innermost] := (List.cons.inj before).2
      have told : notified.thread.callees = above ++ [notified.thread.innermost] :=
        (List.cons.inj after).2
      rw [outer] at called
      rw [told]
      obtain ⟨others, last⟩ := List.forall_mem_append.mp called
      obtain ⟨runs, once⟩ := List.forall_mem_singleton.mp last
      exact List.forall_mem_append.mpr
        ⟨others, List.forall_mem_singleton.mpr ⟨running.trans runs, repeats.trans once⟩⟩

theorem Driven.calleesCalled {run : Activation} {thread : Thread} (driven : Driven run thread) :
    ∀ callee ∈ thread.callees, callee.IsCalled := by
  induction driven with
  | anew => exact List.forall_mem_nil _
  | start => exact List.forall_mem_nil _
  | stop _ called => exact called
  | resume _ called => exact called
  | update _ updated called => exact Thread.update_calleesCalled called updated
  | notify _ accepted called => exact Thread.notify?_calleesCalled called accepted

/-! ## The end of a countdown -/

section Chain

variable {run : Activation} {thread : Thread} {outer : List Activation} {inner : Activation}
  (driven : Driven run thread) (chain : thread.chain = outer ++ [inner])

include driven chain

/-- The innermost run has called nothing. -/
theorem Driven.settled_innermost : Thread.Settled { root := inner } := by
  have found : thread.chain[outer.length]? = some inner := by simp [chain]
  have settled := driven.settledThroughout.member found
  have behind : thread.chain.drop (outer.length + 1) = [] := by simp [chain]
  rw [behind] at settled
  exact settled

theorem Driven.callRoom_innermost (fresh : run.callers = []) : 0 < inner.callRoom := by
  have member : inner ∈ thread.chain := by simp [chain]
  have shallow := driven.shallow fresh inner member
  unfold Activation.callRoom
  omega

/-- Only the outermost run starts over. -/
theorem Driven.alone_of_repeats (repeats : inner.repeats = true) : thread = { root := inner } := by
  cases outer with
  | nil => exact Thread.chain_injective chain
  | cons root above =>
      have called : thread.callees = above ++ [inner] := (List.cons.inj chain).2
      have once := (driven.calleesCalled inner (by simp [called])).2
      exact absurd (repeats.symm.trans once) (by decide)

/-- A countdown takes exactly the frames it was set to, at every depth of calls. Until it is
over, each update takes one frame from it, executes nothing and leaves all other runs alone.
The update behind it goes on at the same command, or ends or restarts a script at its end. -/
theorem Driven.countdown_exact (fresh : run.callers = []) (running : inner.isRunning = true)
    (counting : 0 < inner.waitCounter) (world : World) :
    (∀ passed < inner.waitCounter, ∃ later : Thread,
        later.chain = outer ++ [inner.wait (inner.waitCounter - (passed + 1))] ∧
        Thread.PausesFor (passed + 1) thread world later
          (world.resetTemporaries inner.context)) ∧
      ∀ last : Thread, last.chain = outer ++ [inner.wait 0] →
        (inner.pointer < inner.script.size →
          last.ContinuesFrom (world.resetTemporaries inner.context) (inner.wait 0)) ∧
        (inner.script.size ≤ inner.pointer → inner.repeats = true →
          last.ContinuesFrom (world.resetTemporaries inner.context) (inner.wait 0).start) ∧
        (inner.script.size ≤ inner.pointer → inner.repeats = false →
          last.EndsInside (world.resetTemporaries inner.context) outer (inner.wait 0)) := by
  have settled := driven.settled_innermost chain
  have roomy := driven.callRoom_innermost chain fresh
  obtain ⟨waiting, reason, box⟩ : inner.isWaiting = true ∧ inner.waitingFor = none ∧
      inner.isWaitingForMessage = false := by
    cases settled.waits with
    | awake awake => exact absurd awake.counter (Nat.ne_of_gt counting)
    | frames waiting _ reason box => exact ⟨waiting, reason, box⟩
    | event _ counter => exact absurd counter (Nat.ne_of_gt counting)
    | box _ counter => exact absurd counter (Nat.ne_of_gt counting)
  have begun : inner.wait inner.waitCounter = inner := by
    simp [Activation.wait, counting, ← waiting]
  constructor
  · rw [← begun] at chain
    exact fun passed passes => Thread.pausesFor_of_counting chain roomy running world passes
  · intro last lastChain
    have unpaused : inner.preview.waiting = false := settled.unpaused.2
    have roomy : 0 < (inner.wait 0).callRoom := roomy
    have atEnd (outside : inner.script.size ≤ inner.pointer) : (inner.wait 0).isAtEnd = true := by
      simp [Activation.isAtEnd, Activation.wait, outside, running]
    refine ⟨fun inside => ?_, fun outside repeats => ?_, fun outside once => ?_⟩
    · have able : (inner.wait 0).canStep = true := by
        simp [Activation.canStep, Activation.wait, unpaused, inside, running]
      exact Thread.continues_of_awake lastChain roomy ⟨rfl, rfl, reason, box⟩ able _
    · have nonempty : 0 < inner.script.size := by
        have alone := driven.alone_of_repeats chain repeats
        rw [alone] at driven
        exact driven.nonempty counting
      exact Thread.continues_of_repeats lastChain roomy (atEnd outside) repeats nonempty unpaused _
    · have ends : (inner.wait 0).endsHere = true := by
        have once : (inner.wait 0).repeats = false := once
        simp [Activation.endsHere, atEnd outside, once]
      exact Thread.endsInside_of_endsHere lastChain roomy ends _

end Chain

/-- The hall calls the gate, which waits for two frames before it rings. -/
private def hallToGate : Script where
  commands := #[{ id := "CallScene", params := .record [("uid", .text "gate")] }]
  instructions := #[some (.callScene "gate")]
  jumpTargets := #[none]

private def ringAfterTwo : Script where
  commands := #[{ id := "WaitCommand", params := .record [("time", .integer 2)] },
    { id := "PlaySound", params := .record [("name", .text "bell")] }]
  instructions := #[some (.wait (.literal (.integer 2))),
    some (.playSound (.literal (.text "bell")))]
  jumpTargets := #[none, none]

/-- The gate counts two frames down while the hall waits for it, and then goes on to ring. -/
theorem hallToGate_countdown :
    ∃ (thread : Thread) (hall gate : Activation),
      Driven { context := { id := "hall" }, script := hallToGate } thread ∧
      thread.chain = [hall] ++ [gate] ∧ gate.isRunning = true ∧ gate.waitCounter = 2 ∧
      gate.pointer < gate.script.size ∧ ∀ world, ∃ later : Thread,
        later.chain = [hall] ++ [gate.wait 0] ∧
        Thread.PausesFor 2 thread world later (world.resetTemporaries gate.context) ∧
        later.ContinuesFrom (world.resetTemporaries gate.context) (gate.wait 0) := by
  have ran : (Thread.update
      { root := Activation.start { context := { id := "hall" }, script := hallToGate } } 1
      (World.empty.addScene { uid := "gate", name := "", script := ringAfterTwo })).any
        (fun update => update.thread.callees.length == 1 && update.thread.callees.all (fun gate =>
          gate.isRunning && gate.waitCounter == 2 && gate.pointer < gate.script.size)) = true := by
    decide +kernel
  obtain ⟨update, updated, state⟩ := (Option.any_eq_true _ _).mp ran
  have driven : Driven { context := { id := "hall" }, script := hallToGate } update.thread :=
    .update (.start .anew) updated
  obtain ⟨alone, counts⟩ := Bool.and_eq_true_iff.mp state
  obtain ⟨gate, called⟩ := List.length_eq_one_iff.mp (eq_of_beq alone)
  have chain : update.thread.chain = [update.thread.root] ++ [gate] :=
    congrArg (update.thread.root :: ·) called
  simp only [called, List.all_cons, List.all_nil, Bool.and_true, Bool.and_eq_true, beq_iff_eq,
    decide_eq_true_eq] at counts
  obtain ⟨⟨running, frames⟩, inside⟩ := counts
  refine ⟨update.thread, update.thread.root, gate, driven, chain, running, frames, inside, ?_⟩
  intro world
  obtain ⟨passes, goesOn⟩ := driven.countdown_exact chain rfl running (by omega) world
  obtain ⟨later, laterChain, pauses⟩ := passes 1 (by omega)
  rw [frames] at laterChain
  exact ⟨later, laterChain, pauses, (goesOn later laterChain).1 inside⟩

end NovelEngine
