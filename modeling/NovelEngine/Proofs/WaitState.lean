import NovelEngine.Proofs.BoxLock

/-!
Contract: the wait flags of every run of a thread, whatever calls its host makes.

Owns:
- the states that the calls of a host reach from a new run, in any worlds;
- how the flags of a run and of the scripts it called fit together in these states.

Does not own: what ends a wait.

A host may stop a run and let it go on at any time, also while it waits. Hence nothing
below depends on whether a run is stopped.
-/

namespace NovelEngine

/-! ## All runs of a thread -/

/-- Every run of the thread is settled, as the outermost run of what is left of it. -/
inductive Thread.SettledThroughout : Thread → Prop where
  | single {root : Activation} (settled : Thread.Settled { root }) :
      Thread.SettledThroughout { root }
  | calling {root callee : Activation} {rest : List Activation}
      (settled : Thread.Settled { root, callees := callee :: rest })
      (inner : Thread.SettledThroughout { root := callee, callees := rest }) :
      Thread.SettledThroughout { root, callees := callee :: rest }

namespace Thread.SettledThroughout

theorem settled {thread : Thread} (throughout : thread.SettledThroughout) :
    thread.Settled := by
  cases throughout with
  | single settled => exact settled
  | calling settled => exact settled

/-- Another outermost run may take the place of the first, if it is settled as well. -/
theorem replaceRoot {thread : Thread} (throughout : thread.SettledThroughout)
    {root : Activation} (settled : Settled { thread with root }) :
    SettledThroughout { thread with root } := by
  cases throughout with
  | single => exact .single settled
  | calling _ inner => exact .calling settled inner

/-- A run in the middle of a thread has called the runs behind it. -/
theorem member {thread : Thread} (throughout : thread.SettledThroughout) {index : Nat}
    {run : Activation} (found : thread.chain[index]? = some run) :
    Settled { root := run, callees := thread.chain.drop (index + 1) } := by
  induction throughout generalizing index with
  | @single root settled =>
      cases index with
      | zero =>
          cases found
          exact settled
      | succ index => cases found
  | @calling root callee rest settled inner inductionHypothesis =>
      cases index with
      | zero =>
          cases found
          exact settled
      | succ index => exact inductionHypothesis found

end Thread.SettledThroughout

/-! ## Updates -/

/-- Called scripts come to rest settled. -/
def CalleesSettle (runCallee : CalleeRunner) : Prop :=
  ∀ callee world update, Thread.Settled { root := callee } →
    runCallee callee world = some update → update.thread.SettledThroughout

theorem settled_started (context : Context) (script : Script) (callers : List Context) :
    Thread.Settled { root := { context, script, callers : Activation }.start } :=
  (consistent_started context script callers false).settled

section Updates

variable {runCallee : CalleeRunner} {activation : Activation} {world : World}

/-- A command that calls a script leaves that script settled behind its run. -/
theorem Handling.calleesSettled (settle : CalleesSettle runCallee) {next : Thread}
    {after : World} (handling : Handling runCallee { root := activation } world next after)
    {callee : Activation} {rest : List Activation} (calling : next.callees = callee :: rest) :
    Thread.SettledThroughout { root := callee, callees := rest } := by
  cases handling with
  | skip => cases calling
  | ignore => cases calling
  | perform => cases calling
  | callThrough => cases calling
  | call _ _ _ performed called ran =>
      subst performed
      obtain ⟨⟨context, script, rfl⟩, _⟩ := Activation.perform_call called
      cases calling
      exact settle _ _ _ (settled_started _ _ _) ran

theorem Step.settledThroughout (settle : CalleesSettle runCallee) {next : Thread}
    {after : World} (settled : Thread.Settled { root := activation })
    (able : activation.canStep = true)
    (step : Step runCallee { root := activation } world next after) (executed : Nat) :
    (next.counted after.config executed).SettledThroughout := by
  have passed := (settled.pass able step).counted after.config executed
  cases step with
  | pause => exact .single passed
  | @move handled _ handling =>
      obtain ⟨root, callees⟩ := handled
      cases callees with
      | nil => exact .single passed
      | cons callee rest => exact .calling passed (handling.calleesSettled settle rfl)

theorem lastsFrame_settledThroughout (settle : CalleesSettle runCallee) :
    LastsFrame runCallee (fun _ thread _ => thread.SettledThroughout) where
  reset := id
  start := fun throughout _ _ => .single throughout.settled.start
  count := fun throughout _ counting => .single (throughout.settled.countDown counting)
  unpark := fun throughout parked _ => .single (throughout.settled.unpark parked)
  pass := fun throughout able step =>
    step.settledThroughout settle throughout.settled able _
  finish := fun throughout _ => .single throughout.settled.finish

end Updates

/-- Called scripts come to rest settled at any depth. -/
theorem calleesSettle (fuel room : Nat) : CalleesSettle (advance fuel room) := by
  induction room with
  | zero =>
      intro callee world update _ ran
      cases ran
  | succ room inductionHypothesis =>
      intro callee world update settled ran
      exact updateFrame_fact (lastsFrame_settledThroughout inductionHypothesis) none
        (.single settled) ran

theorem Thread.SettledThroughout.update {thread : Thread}
    (throughout : thread.SettledThroughout) {fuel : Nat} {world : World} {update : Update}
    (updated : thread.update fuel world = some update) :
    update.thread.SettledThroughout := by
  induction throughout generalizing update with
  | @single root settled => exact calleesSettle fuel root.callRoom root world update settled updated
  | calling settled _ inductionHypothesis =>
      obtain ⟨inner, ran, _, ⟨_, thread, _⟩ | ⟨_, thread, _⟩⟩ := Thread.update_calling updated
      · rw [thread]
        exact .calling settled.away (inductionHypothesis ran)
      · rw [thread]
        exact .single settled.back

theorem Thread.SettledThroughout.notify {thread : Thread}
    (throughout : thread.SettledThroughout) {world : World} {event : HostEvent}
    {notified : Run} (accepted : thread.notify? world event = some notified) :
    notified.thread.SettledThroughout := by
  induction throughout generalizing notified with
  | single settled =>
      obtain ⟨delivery, delivered, rfl⟩ := Option.map_eq_some_iff.mp accepted
      exact .single (settled.deliver delivered)
  | calling settled _ inductionHypothesis =>
      obtain ⟨inner, reached, rfl⟩ := Option.map_eq_some_iff.mp accepted
      exact .calling settled.away (inductionHypothesis reached)

/-! ## The calls of a host -/

/-- The states that the calls of a host reach from a new run. Each call may find another
world and grant another number of commands. -/
inductive Driven (run : Activation) : Thread → Prop where
  | anew : Driven run { root := run.anew }
  | start {thread : Thread} (driven : Driven run thread) : Driven run thread.start
  | stop {thread : Thread} (driven : Driven run thread) :
      Driven run (thread.mapRoot Activation.stop)
  | resume {thread : Thread} (driven : Driven run thread) :
      Driven run (thread.mapRoot Activation.resume)
  | update {thread : Thread} {fuel : Nat} {world : World} {update : Update}
      (driven : Driven run thread) (updated : thread.update fuel world = some update) :
      Driven run update.thread
  | notify {thread : Thread} {world : World} {event : HostEvent} {notified : Run}
      (driven : Driven run thread) (accepted : thread.notify? world event = some notified) :
      Driven run notified.thread

theorem Driven.settledThroughout {run : Activation} {thread : Thread}
    (driven : Driven run thread) : thread.SettledThroughout := by
  induction driven with
  | anew => exact .single (consistent_anew run).settled
  | start _ throughout => exact .single throughout.settled.start
  | stop _ throughout => exact throughout.replaceRoot (throughout.settled.setRunning false)
  | resume _ throughout => exact throughout.replaceRoot (throughout.settled.setRunning true)
  | update _ updated throughout => exact throughout.update updated
  | notify _ accepted throughout => exact throughout.notify accepted

/-- An update does not change whose script it runs. -/
theorem lasts_sameRun (run : Activation) : Lasts (fun _ thread _ => run.SameRun thread.root) where
  frame := fun _ => {
    reset := id
    start := fun same _ _ => same.trans ⟨rfl, rfl, rfl, rfl⟩
    count := fun same _ _ => same.trans ⟨rfl, rfl, rfl, rfl⟩
    unpark := fun same _ _ => same.trans ⟨rfl, rfl, rfl, rfl⟩
    pass := by
      intro _ activation _ next after executed same _ step
      exact (same.trans step.sameRun).trans (next.root.counted_sameRun after.config executed)
    finish := fun same _ => same.trans ⟨rfl, rfl, rfl, rfl⟩ }
  away := id
  back := fun same => same.trans ⟨rfl, rfl, rfl, rfl⟩

theorem Driven.sameRun {run : Activation} {thread : Thread} (driven : Driven run thread) :
    run.SameRun thread.root := by
  induction driven with
  | anew => exact ⟨rfl, rfl, rfl, rfl⟩
  | start _ same => exact same.trans ⟨rfl, rfl, rfl, rfl⟩
  | stop _ same => exact same.trans ⟨rfl, rfl, rfl, rfl⟩
  | resume _ same => exact same.trans ⟨rfl, rfl, rfl, rfl⟩
  | update _ updated same => exact Thread.update_fact (lasts_sameRun run) none same updated
  | notify _ accepted same =>
      rcases Thread.notify?_cases accepted with
        ⟨_, delivery, delivered, told, _⟩ | ⟨_, _, _, _, _, told⟩
      · rw [told]
        exact same.trans (Activation.deliver?_sameRun delivered)
      · rw [told]
        exact same

/-- The states that a run reaches in a world that it alone changes are among them. -/
theorem Reached.driven {run : Activation} {last : Option Nat} {thread : Thread} {world : World}
    (reached : Reached run last thread world) : Driven run thread := by
  induction reached with
  | anew => exact .anew
  | start _ driven => exact .start driven
  | update _ updated driven => exact .update driven updated
  | notify _ accepted driven => exact .notify driven accepted

/-! ## The flags -/

/-- The flags that say what a run waits for fit together. `calling` says whether it has
called a script that has not come to its end. -/
structure Activation.WaitsSoundly (activation : Activation) (calling : Prop) : Prop where
  idle : activation.isWaiting = false →
    activation.waitCounter = 0 ∧ activation.waitingFor = none ∧
      activation.isWaitingForMessage = false ∧ ¬ calling
  /-- A waiting run counts frames, waits for an event or waits for the message box. -/
  busy : activation.isWaiting = true →
    [decide (0 < activation.waitCounter), activation.waitingFor.isSome,
      activation.isWaitingForMessage].count true = 1
  calls : calling ↔ activation.waitingFor = some .callee
  released : activation.holdPointer = false

/-- A run that waits for one thing raises one flag. -/
theorem Activation.WaitsForOne.flags {activation : Activation}
    (waits : activation.WaitsForOne) (busy : activation.isWaiting = true) :
    [decide (0 < activation.waitCounter), activation.waitingFor.isSome,
      activation.isWaitingForMessage].count true = 1 := by
  cases waits with
  | awake awake => exact absurd (awake.waiting.symm.trans busy) (by decide)
  | frames _ counter reason box => simp [counter, reason, box]
  | event _ counter reason box => simp [counter, reason, box]
  | box _ counter reason box => simp [counter, reason, box]

theorem Thread.Settled.soundWait {thread : Thread} (settled : thread.Settled) :
    thread.root.WaitsSoundly (thread.callees ≠ []) where
  idle := by
    intro idle
    have awake := settled.waits.isAwake idle
    refine ⟨awake.counter, awake.reason, awake.box, ?_⟩
    rw [settled.calls, awake.reason]
    exact nofun
  busy := settled.waits.flags
  calls := settled.calls
  released := settled.free

/-- Between the calls of a host the wait flags of a run and of all scripts behind it fit
together. A run has called a script exactly if it is not the last of its thread. -/
theorem Driven.chain_waitsSoundly {run : Activation} {thread : Thread}
    (driven : Driven run thread) {index : Nat} {member : Activation}
    (found : thread.chain[index]? = some member) :
    member.WaitsSoundly (index + 1 < thread.chain.length) := by
  have settled := driven.settledThroughout.member found
  have called : thread.chain.drop (index + 1) ≠ [] ↔ index + 1 < thread.chain.length := by
    rw [Ne, List.drop_eq_nil_iff]
    omega
  rw [← called]
  exact settled.soundWait

/-- The hall calls the yard, and the yard goes back to the hall. -/
private def hallToYard : Script where
  commands := #[{ id := "CallScene", params := .record [("uid", .text "yard")] }]
  instructions := #[some (.callScene "yard")]
  jumpTargets := #[none]

private def yardToHall : Script where
  commands := #[{ id := "ChangeScene", params := .record [("uid", .text "hall")] }]
  instructions := #[some (.changeScene "hall")]
  jumpTargets := #[none]

/-- Two runs of one thread wait at once, the outer one for the inner one, and the outer one
may be stopped meanwhile. -/
theorem hallToYard_waitsSoundly :
    ∃ thread, Driven { context := { id := "hall" }, script := hallToYard } thread ∧
      thread.chain.map Activation.waitingFor = [some .callee, some .transition] ∧
      thread.root.isRunning = false ∧
      ∀ (index : Nat) (member : Activation), thread.chain[index]? = some member →
        member.WaitsSoundly (index + 1 < thread.chain.length) := by
  have ran : (Thread.update
      { root := Activation.start { context := { id := "hall" }, script := hallToYard } } 1
      (World.empty.addScene { uid := "yard", name := "", script := yardToHall })).any
        (fun update => decide (update.thread.chain.map Activation.waitingFor =
          [some .callee, some .transition])) = true := by
    decide +kernel
  obtain ⟨update, updated, waits⟩ := (Option.any_eq_true _ _).mp ran
  have driven : Driven { context := { id := "hall" }, script := hallToYard }
      (update.thread.mapRoot Activation.stop) := .stop (.update (.start .anew) updated)
  exact ⟨_, driven, of_decide_eq_true waits, rfl, fun _ _ => driven.chain_waitsSoundly⟩

end NovelEngine
