import NovelEngine.Engine.HostEvent
import NovelEngine.Proofs.Blocks

/-!
Contract: what a run waits for between calls.

Owns:
- the states that start, updates and events reach from a run that was just created;
- the invariant of waiting: a run waits for nothing or for one thing, and for a called
  script exactly while there is one;
- the prompt that a blocked run waits for, and the command on which it waits for the
  message box.

Does not own: what a snapshot keeps of a wait.
-/

namespace NovelEngine

namespace Activation

/-- A run that waits for nothing. -/
structure IsAwake (activation : Activation) : Prop where
  waiting : activation.isWaiting = false
  counter : activation.waitCounter = 0
  reason : activation.waitingFor = none
  box : activation.isWaitingForMessage = false

/-- A run waits for nothing, for a number of frames, for an event, or for the message box. -/
inductive WaitsForOne (activation : Activation) : Prop where
  | awake (awake : activation.IsAwake)
  | frames (waiting : activation.isWaiting = true) (counter : 0 < activation.waitCounter)
      (reason : activation.waitingFor = none)
      (box : activation.isWaitingForMessage = false)
  | event {reason : WaitReason} (waiting : activation.isWaiting = true)
      (counter : activation.waitCounter = 0) (reason : activation.waitingFor = some reason)
      (box : activation.isWaitingForMessage = false)
  | box (waiting : activation.isWaiting = true) (counter : activation.waitCounter = 0)
      (reason : activation.waitingFor = none) (box : activation.isWaitingForMessage = true)

theorem IsAwake.congr {left right : Activation} (awake : left.IsAwake)
    (waiting : right.isWaiting = left.isWaiting) (counter : right.waitCounter = left.waitCounter)
    (reason : right.waitingFor = left.waitingFor)
    (box : right.isWaitingForMessage = left.isWaitingForMessage) : right.IsAwake where
  waiting := waiting.trans awake.waiting
  counter := counter.trans awake.counter
  reason := reason.trans awake.reason
  box := box.trans awake.box

theorem WaitsForOne.congr {left right : Activation} (waits : left.WaitsForOne)
    (waiting : right.isWaiting = left.isWaiting) (counter : right.waitCounter = left.waitCounter)
    (reason : right.waitingFor = left.waitingFor)
    (box : right.isWaitingForMessage = left.isWaitingForMessage) : right.WaitsForOne := by
  cases waits with
  | awake awake => exact .awake (awake.congr waiting counter reason box)
  | frames isWaiting positive isNone isFree =>
      exact .frames (waiting.trans isWaiting) (counter ▸ positive) (reason.trans isNone)
        (box.trans isFree)
  | event isWaiting isZero isSome isFree =>
      exact .event (waiting.trans isWaiting) (counter.trans isZero) (reason.trans isSome)
        (box.trans isFree)
  | box isWaiting isZero isNone isParked =>
      exact .box (waiting.trans isWaiting) (counter.trans isZero) (reason.trans isNone)
        (box.trans isParked)

theorem WaitsForOne.isAwake {activation : Activation} (waits : activation.WaitsForOne)
    (idle : activation.isWaiting = false) : activation.IsAwake := by
  cases waits with
  | awake awake => exact awake
  | frames waiting => simp [idle] at waiting
  | event waiting => simp [idle] at waiting
  | box waiting => simp [idle] at waiting

theorem WaitsForOne.waitingFor_of_counting {activation : Activation}
    (waits : activation.WaitsForOne) (counting : 0 < activation.waitCounter) :
    activation.waitingFor = none := by
  cases waits with
  | awake awake => exact awake.reason
  | frames _ _ reason => exact reason
  | event _ counter => exact absurd counter (Nat.ne_of_gt counting)
  | box _ _ reason => exact reason

theorem WaitsForOne.of_waitingFor {activation : Activation}
    (waits : activation.WaitsForOne) {reason : WaitReason}
    (waiting : activation.waitingFor = some reason) :
    activation.isWaiting = true ∧ activation.waitCounter = 0 ∧
      activation.isWaitingForMessage = false := by
  cases waits with
  | awake awake => exact absurd (awake.reason.symm.trans waiting) (by simp)
  | frames _ _ none => exact absurd (none.symm.trans waiting) (by simp)
  | event isWaiting counter _ box => exact ⟨isWaiting, counter, box⟩
  | box _ _ none => exact absurd (none.symm.trans waiting) (by simp)

theorem isAwake_start (activation : Activation) : activation.start.IsAwake :=
  ⟨rfl, rfl, rfl, rfl⟩

/-- A run that waits for no frames goes on as it is. -/
theorem wait_zero {activation : Activation} (awake : activation.isWaiting = false)
    (counter : activation.waitCounter = 0) : activation.wait 0 = activation := by
  unfold wait
  simp only [Nat.lt_irrefl, decide_false]
  rw [← awake, ← counter]

/-- An instruction suspends an awake run in one way at most. -/
theorem IsAwake.effect {activation next : Activation} {instruction : Instruction}
    (awake : activation.IsAwake) (effect : Effect activation instruction next) :
    next.WaitsForOne := by
  cases effect with
  | branch chain holds => cases holds <;> exact .awake (awake.congr rfl rfl rfl rfl)
  | branchElse =>
      unfold branchElse
      split
      · exact .awake awake
      · exact .awake (awake.congr rfl rfl rfl rfl)
  | jump => exact .awake ⟨rfl, rfl, rfl, awake.box⟩
  | wait _ frames =>
      by_cases positive : 0 < frames
      · exact .frames (by simp [Activation.wait, positive]) positive awake.reason awake.box
      · have zero : frames = 0 := by omega
        subst zero
        exact .awake ⟨by simp [Activation.wait], rfl, awake.reason, awake.box⟩
  | prompt => exact .event rfl awake.counter rfl awake.box
  | suspend => exact .event rfl awake.counter rfl awake.box
  | park => exact .box rfl awake.counter awake.reason rfl
  | _ => exact .awake (awake.congr rfl rfl rfl rfl)

theorem WaitsForOne.stepPast {activation : Activation} (waits : activation.WaitsForOne) :
    activation.stepPast.WaitsForOne := by
  obtain ⟨pointer, indent, equal⟩ := activation.stepPast_eq
  rw [equal]
  exact waits.congr rfl rfl rfl rfl

theorem WaitsForOne.counted {activation : Activation} (waits : activation.WaitsForOne)
    (config : Config) (executed : Nat) :
    (activation.counted config executed).WaitsForOne := by
  obtain ⟨count, equal | ⟨idle, equal⟩⟩ := activation.counted_cases config executed
  · rw [equal]
    exact waits.congr rfl rfl rfl rfl
  · rw [equal]
    have awake := waits.isAwake idle
    exact .frames rfl Nat.one_pos awake.reason awake.box

end Activation

/-! ## The frame of a run by its wait -/

section Frames

variable {activation : Activation}

private theorem goes_of_awake (awake : activation.IsAwake)
    (running : activation.isRunning = true)
    (inside : activation.pointer < activation.script.size) (world : World) :
    activation.isAtEnd = false ∧ activation.rests world = false ∧
      activation.unparked = activation := by
  simp [Activation.isAtEnd, inside, Activation.rests, running, awake.counter, awake.box,
    Activation.unparked]

/-- An awake run inside of its script executes commands. -/
theorem updateFrame_of_awake (awake : activation.IsAwake)
    (running : activation.isRunning = true)
    (inside : activation.pointer < activation.script.size) (fuel : Nat)
    (runCallee : CalleeRunner) (world : World) :
    updateFrame fuel runCallee activation world =
      (runCommands runCallee fuel 0 { root := activation }
        (world.resetTemporaries activation.context) []).map Run.conclude := by
  obtain ⟨goes, moves, ready⟩ := goes_of_awake awake running inside
    (world.resetTemporaries activation.context)
  rw [updateFrame_of_goes goes moves, ready]

theorem Thread.visits_of_awake (awake : activation.IsAwake)
    (running : activation.isRunning = true)
    (inside : activation.pointer < activation.script.size) (fuel : Nat) (world : World) :
    Thread.visits { root := activation } fuel world =
      commandVisits (Thread.calleeRunner { root := activation } fuel) fuel 0
        { root := activation } (world.resetTemporaries activation.context) := by
  obtain ⟨goes, moves, ready⟩ := goes_of_awake awake running inside
    (world.resetTemporaries activation.context)
  have visits : Thread.visits { root := activation } fuel world = frameVisits fuel
      (Thread.calleeRunner { root := activation } fuel) activation world := rfl
  rw [visits, frameVisits_of_goes goes moves, ready]

/-- A run that waits for frames or an event executes no command. -/
theorem Thread.visits_of_waiting (waiting : activation.isWaiting = true)
    (free : activation.isWaitingForMessage = false) (fuel : Nat) (world : World) :
    Thread.visits { root := activation } fuel world = [] := by
  have goes : activation.isAtEnd = false := by simp [Activation.isAtEnd, waiting]
  have unable : activation.canStep = false := by simp [Activation.canStep, waiting]
  have idle (runCallee : CalleeRunner) (world : World) :
      commandVisits runCallee fuel 0 { root := activation } world = [] :=
    commandVisits_of_unable unable
  simp [Thread.visits, frameVisits, Activation.endsHere, Activation.restarted, goes,
    Activation.unparked, free, idle]

end Frames

/-! ## One command -/

/-- An instruction that calls no script does not wait for one. -/
theorem Activation.IsAwake.waitingFor_ne_callee {activation : Activation}
    (awake : activation.IsAwake) {world : World} {id : String} {instruction : Instruction}
    (alone : (activation.perform world id instruction).callee = none) :
    (activation.perform world id instruction).activation.waitingFor ≠ some .callee := by
  have none := awake.reason
  cases activation.perform_use world id instruction with
  | apart _ _ _ quiet => rcases quiet with same | none | transition <;> simp [*]
  | speak _ _ _ _ _ heard =>
      rcases heard with same | message | ⟨labels, target, choice⟩ <;> simp [*]
  | ask _ _ _ _ _ waits => simp [waits, waitUntil]
  | giveUp _ _ _ keeps => simp [keeps, none]
  | spawn _ _ _ _ _ keeps => simp [keeps, none]
  | call _ _ _ _ _ called => simp [called] at alone

/-- A command leaves a run waiting for one thing at most, and for a called script exactly if
there is one. -/
theorem Handling.waits {runCallee : CalleeRunner} {thread next : Thread}
    {world after : World} (awake : thread.root.IsAwake) (alone : thread.callees = [])
    (handling : Handling runCallee thread world next after) :
    next.root.WaitsForOne ∧ (next.callees ≠ [] ↔ next.root.waitingFor = some .callee) := by
  cases handling with
  | skip => exact ⟨.awake awake, by simp [alone, awake.reason]⟩
  | ignore => exact ⟨.awake awake, by simp [alone, awake.reason]⟩
  | perform _ _ _ performed none =>
      subst performed
      refine ⟨awake.effect (Activation.perform_effect _ _ _ _), ?_⟩
      simp [alone, awake.waitingFor_ne_callee none]
  | call _ _ _ performed called =>
      subst performed
      rw [(Activation.perform_call called).2]
      exact ⟨.event rfl awake.counter rfl awake.box, by simp [Activation.waitUntil]⟩
  | callThrough _ _ _ performed called =>
      subst performed
      rw [(Activation.perform_call called).2]
      exact ⟨.awake ⟨rfl, rfl, rfl, awake.box⟩, by simp [Activation.clearWait]⟩

/-! ## The wait of a thread -/

/-- How the outermost run of a thread waits between its commands and between calls, in a
preview or not. -/
structure Thread.Suspended (thread : Thread) : Prop where
  waits : thread.root.WaitsForOne
  /-- It waits for a called script exactly while there is one. -/
  calls : thread.callees ≠ [] ↔ thread.root.waitingFor = some .callee

namespace Thread.Suspended

/-- A run that does not wait has called no script. -/
theorem alone {thread : Thread} (suspended : thread.Suspended)
    (idle : thread.root.isWaiting = false) : thread.callees = [] := by
  have silent : thread.root.waitingFor = none := (suspended.waits.isAwake idle).reason
  apply Decidable.byContradiction
  intro calling
  have waiting := suspended.calls.mp calling
  rw [silent] at waiting
  cases waiting

theorem start (activation : Activation) : Suspended { root := activation.start } where
  waits := .awake (Activation.isAwake_start _)
  calls := by simp [Activation.start]

theorem countDown {activation : Activation} (suspended : Suspended { root := activation })
    (counting : 0 < activation.waitCounter) : Suspended { root := activation.countDown } where
  waits := by
    cases suspended.waits with
    | awake awake => exact absurd awake.counter (Nat.ne_of_gt counting)
    | event _ counter => exact absurd counter (Nat.ne_of_gt counting)
    | box _ counter => exact absurd counter (Nat.ne_of_gt counting)
    | frames _ _ reason box =>
        by_cases left : 0 < activation.waitCounter - 1
        · exact .frames (decide_eq_true left) left reason box
        · exact .awake ⟨decide_eq_false left, by simp only [Activation.countDown]; omega,
            reason, box⟩
  calls := suspended.calls

theorem unpark {activation : Activation} (suspended : Suspended { root := activation })
    (parked : activation.isWaitingForMessage = true) :
    Suspended { root := { activation with
      isWaitingForMessage := false, isWaiting := false } } where
  waits := by
    cases suspended.waits with
    | awake awake => exact absurd (parked.symm.trans awake.box) (by decide)
    | frames _ _ _ box => exact absurd (parked.symm.trans box) (by decide)
    | event _ _ _ box => exact absurd (parked.symm.trans box) (by decide)
    | box _ counter reason => exact .awake ⟨rfl, counter, reason, rfl⟩
  calls := suspended.calls

theorem finish {activation : Activation} (suspended : Suspended { root := activation }) :
    Suspended { root := activation.finished } where
  waits := suspended.waits.congr rfl rfl rfl rfl
  calls := suspended.calls

theorem counted {thread : Thread} (suspended : thread.Suspended) (config : Config)
    (executed : Nat) : (thread.counted config executed).Suspended := by
  have waits := suspended.waits.counted config executed
  unfold Thread.counted
  obtain ⟨_, _, _, equal⟩ := thread.root.counted_eq config executed
  rw [equal] at waits ⊢
  exact ⟨waits, suspended.calls⟩

/-- The step past a command that has run, or the pause in front of it. -/
theorem pass {runCallee : CalleeRunner} {thread next : Thread} {world after : World}
    (suspended : thread.Suspended) (able : thread.root.canStep = true)
    (step : Step runCallee thread world next after) : next.Suspended := by
  have idle := Activation.isWaiting_of_canStep able
  cases step with
  | pause => exact ⟨suspended.waits.congr rfl rfl rfl rfl, suspended.calls⟩
  | @move next _ handling =>
      obtain ⟨waits, calls⟩ :=
        handling.waits (suspended.waits.isAwake idle) (suspended.alone idle)
      obtain ⟨pointer, indent, moved⟩ := next.root.stepPast_eq
      refine ⟨waits.stepPast, ?_⟩
      rw [moved]
      exact calls

/-- The scripts that a run waits for may change, as long as there are some. -/
theorem away {root callee next : Activation} {rest later : List Activation}
    (suspended : Suspended { root, callees := callee :: rest }) :
    Suspended { root, callees := next :: later } where
  waits := suspended.waits
  calls := by
    have waiting : root.waitingFor = some .callee := suspended.calls.mp (by simp)
    simp [waiting]

/-- A run that waited for an event goes on, where it is or at a label. -/
theorem goOn {thread : Thread} (suspended : thread.Suspended) {reason : WaitReason}
    (waiting : thread.root.waitingFor = some reason) {next : Activation}
    (awake : next.isWaiting = false ∧ next.waitCounter = 0 ∧ next.waitingFor = none)
    (box : next.isWaitingForMessage = thread.root.isWaitingForMessage) :
    next.IsAwake ∧ Suspended { root := next } := by
  have box := box.trans (suspended.waits.of_waitingFor waiting).2.2
  have awake : next.IsAwake := ⟨awake.1, awake.2.1, awake.2.2, box⟩
  exact ⟨awake, .awake awake, by simp [awake.reason]⟩

theorem back {root callee : Activation} {rest : List Activation}
    (suspended : Suspended { root, callees := callee :: rest }) :
    Suspended { root := root.clearWait } := by
  have waiting : root.waitingFor = some .callee := suspended.calls.mp (by simp)
  have goesOn : root.clearWait.IsAwake ∧ Suspended { root := root.clearWait } :=
    suspended.goOn waiting ⟨rfl, rfl, rfl⟩ rfl
  exact goesOn.2

end Thread.Suspended

/-- How the outermost run of a thread waits outside of a preview, be it running or stopped. -/
structure Thread.Settled (thread : Thread) : Prop where
  waits : thread.root.WaitsForOne
  /-- It waits for a called script exactly while there is one. -/
  calls : thread.callees ≠ [] ↔ thread.root.waitingFor = some .callee
  free : thread.root.holdPointer = false
  unpaused : thread.root.preview.cursor = none ∧ thread.root.preview.waiting = false
  /-- It waits for the message box on the command that needs it. -/
  parked : thread.root.isWaitingForMessage = true → thread.root.SpeaksHere

namespace Thread.Settled

theorem suspended {thread : Thread} (settled : thread.Settled) : thread.Suspended :=
  { settled with }

theorem start {thread : Thread} (settled : thread.Settled) : thread.start.Settled :=
  { Suspended.start thread.root with
    free := rfl
    unpaused := settled.unpaused
    parked := nofun }

/-- Stopping a run, or letting it go on, does not touch its wait. -/
theorem setRunning {thread : Thread} (settled : thread.Settled) (running : Bool) :
    Settled { thread with root := { thread.root with isRunning := running } } where
  waits := settled.waits.congr rfl rfl rfl rfl
  calls := settled.calls
  free := settled.free
  unpaused := settled.unpaused
  parked := settled.parked

theorem countDown {activation : Activation} (settled : Settled { root := activation })
    (counting : 0 < activation.waitCounter) : Settled { root := activation.countDown } :=
  { settled.suspended.countDown counting with
    free := settled.free
    unpaused := settled.unpaused
    parked := settled.parked }

theorem unpark {activation : Activation} (settled : Settled { root := activation })
    (parked : activation.isWaitingForMessage = true) :
    Settled { root := { activation with
      isWaitingForMessage := false, isWaiting := false } } :=
  { settled.suspended.unpark parked with
    free := settled.free
    unpaused := settled.unpaused
    parked := nofun }

theorem finish {activation : Activation} (settled : Settled { root := activation }) :
    Settled { root := activation.finished } :=
  { settled.suspended.finish with
    free := settled.free
    unpaused := settled.unpaused
    parked := settled.parked }

theorem counted {thread : Thread} (settled : thread.Settled) (config : Config)
    (executed : Nat) : (thread.counted config executed).Settled := by
  have suspended := settled.suspended.counted config executed
  unfold Thread.counted at suspended ⊢
  obtain ⟨_, _, _, equal⟩ := thread.root.counted_eq config executed
  rw [equal] at suspended ⊢
  exact { suspended with
    free := settled.free
    unpaused := settled.unpaused
    parked := settled.parked }

/-- The step past a command that has run. -/
theorem pass {runCallee : CalleeRunner} {thread next : Thread} {world after : World}
    (settled : thread.Settled) (able : thread.root.canStep = true)
    (step : Step runCallee thread world next after) : next.Settled := by
  have awake := settled.waits.isAwake (Activation.isWaiting_of_canStep able)
  have suspended := settled.suspended.pass able step
  cases step with
  | pause _ reached =>
      rw [settled.unpaused.1] at reached
      cases reached
  | @move next _ handling =>
      obtain ⟨_, preview⟩ := handling.aside
      obtain ⟨pointer, indent, moved⟩ := next.root.stepPast_eq
      refine { suspended with
        free := by rw [moved]
        unpaused := by rw [moved]; exact preview ▸ settled.unpaused
        parked := ?_ }
      intro parked
      rcases handling.parks settled.free with ⟨_, same⟩ | ⟨held, speaks⟩
      · rw [moved] at parked
        exact absurd (parked.symm.trans (same.trans awake.box)) (by decide)
      · rw [held]
        exact speaks

/-- The scripts that a run waits for may change, as long as there are some. -/
theorem away {root callee next : Activation} {rest later : List Activation}
    (settled : Settled { root, callees := callee :: rest }) :
    Settled { root, callees := next :: later } :=
  { settled with calls := settled.suspended.away.calls }

/-- A run that waited for an event goes on, where it is or at a label. -/
theorem goOn {thread : Thread} (settled : thread.Settled) {reason : WaitReason}
    (waiting : thread.root.waitingFor = some reason) {next : Activation}
    (awake : next.isWaiting = false ∧ next.waitCounter = 0 ∧ next.waitingFor = none)
    (box : next.isWaitingForMessage = thread.root.isWaitingForMessage)
    (preview : next.preview = thread.root.preview)
    (free : next.holdPointer = thread.root.holdPointer) :
    next.IsAwake ∧ Settled { root := next } := by
  obtain ⟨awake, suspended⟩ := settled.suspended.goOn waiting awake box
  exact ⟨awake, { suspended with
    free := free.trans settled.free
    unpaused := preview ▸ settled.unpaused
    parked := by
      intro parked
      exact absurd (parked.symm.trans awake.box) (by decide) }⟩

theorem back {root callee : Activation} {rest : List Activation}
    (settled : Settled { root, callees := callee :: rest }) :
    Settled { root := root.clearWait } := by
  have back : root.clearWait.IsAwake ∧ Settled { root := root.clearWait } :=
    settled.goOn (settled.calls.mp (by simp)) ⟨rfl, rfl, rfl⟩ rfl rfl rfl
  exact back.2

end Thread.Settled

/-! ## The invariant of a thread -/

/-- What holds of the outermost run of a thread between its commands and between calls.
`run` is any other state of it. -/
structure Thread.Consistent (run : Activation) (thread : Thread) : Prop where
  sameRun : run.SameRun thread.root
  inPlace : thread.root.InPlace
  waits : thread.root.WaitsForOne
  /-- It waits for a called script exactly while there is one. -/
  calls : thread.callees ≠ [] ↔ thread.root.waitingFor = some .callee
  stopped : thread.root.isRunning = false → thread.root.IsAwake
  unpaused : thread.root.preview.cursor = none ∧ thread.root.preview.waiting = false
  /-- It waits for the message box on the command that needs it. -/
  parked : thread.root.isWaitingForMessage = true → thread.root.SpeaksHere

namespace Thread.Consistent

variable {run : Activation}

theorem settled {thread : Thread} (consistent : thread.Consistent run) : thread.Settled :=
  { consistent with free := consistent.inPlace.free }

theorem start {thread : Thread} (consistent : thread.Consistent run) :
    thread.start.Consistent run :=
  { consistent.settled.start with
    sameRun := consistent.sameRun.trans ⟨rfl, rfl, rfl, rfl⟩
    inPlace := Activation.inPlace_start _
    stopped := fun _ => Activation.isAwake_start _ }

theorem countDown {activation : Activation}
    (consistent : Thread.Consistent run { root := activation })
    (running : activation.isRunning = true) (counting : 0 < activation.waitCounter) :
    Thread.Consistent run { root := activation.countDown } :=
  { consistent.settled.countDown counting with
    sameRun := consistent.sameRun.trans ⟨rfl, rfl, rfl, rfl⟩
    inPlace := consistent.inPlace.congr rfl rfl rfl rfl rfl
    stopped := by
      intro stopped
      exact absurd (running.symm.trans stopped) (by decide) }

theorem unpark {activation : Activation}
    (consistent : Thread.Consistent run { root := activation })
    (parked : activation.isWaitingForMessage = true) :
    Thread.Consistent run { root := { activation with
      isWaitingForMessage := false, isWaiting := false } } :=
  { consistent.settled.unpark parked with
    sameRun := consistent.sameRun.trans ⟨rfl, rfl, rfl, rfl⟩
    inPlace := consistent.inPlace.congr rfl rfl rfl rfl rfl
    stopped := by
      intro stopped
      exact absurd (parked.symm.trans (consistent.stopped stopped).box) (by decide) }

theorem finish {activation : Activation}
    (consistent : Thread.Consistent run { root := activation })
    (ends : activation.endsHere = true) :
    Thread.Consistent run { root := activation.finished } :=
  { consistent.settled.finish with
    sameRun := consistent.sameRun.trans ⟨rfl, rfl, rfl, rfl⟩
    inPlace := consistent.inPlace.congr rfl rfl rfl rfl rfl
    stopped := by
      intro _
      have idle := Activation.isWaiting_of_isAtEnd (Activation.isAtEnd_of_endsHere ends)
      exact (consistent.waits.isAwake idle).congr rfl rfl rfl rfl }

theorem counted {thread : Thread} (consistent : thread.Consistent run)
    (running : thread.root.isRunning = true) (config : Config) (executed : Nat) :
    (thread.counted config executed).Consistent run :=
  { consistent.settled.counted config executed with
    sameRun := consistent.sameRun.trans (thread.root.counted_sameRun config executed)
    inPlace := consistent.inPlace.counted config executed
    stopped := by
      intro stopped
      obtain ⟨_, _, _, equal⟩ := thread.root.counted_eq config executed
      unfold Thread.counted at stopped
      rw [equal] at stopped
      exact absurd (running.symm.trans stopped) (by decide) }

/-- The step past a command that has run. -/
theorem pass {runCallee : CalleeRunner} {thread next : Thread} {world after : World}
    (consistent : thread.Consistent run) (able : thread.root.canStep = true)
    (step : Step runCallee thread world next after) : next.Consistent run :=
  { consistent.settled.pass able step with
    sameRun := consistent.sameRun.trans step.sameRun
    inPlace := step.inPlace consistent.inPlace
    stopped := by
      intro stopped
      have running := step.sameRunning.trans (Activation.isRunning_of_canStep able)
      exact absurd (running.symm.trans stopped) (by decide) }

/-- The scripts that a run waits for may change, as long as there are some. -/
theorem away {root callee next : Activation} {rest later : List Activation}
    (consistent : Thread.Consistent run { root, callees := callee :: rest }) :
    Thread.Consistent run { root, callees := next :: later } :=
  { consistent with calls := consistent.settled.away.calls }

/-- A run that waited for an event goes on, where it is or at a label. -/
theorem goOn {thread : Thread} (consistent : thread.Consistent run) {reason : WaitReason}
    (waiting : thread.root.waitingFor = some reason) {next : Activation}
    (awake : next.isWaiting = false ∧ next.waitCounter = 0 ∧ next.waitingFor = none)
    (box : next.isWaitingForMessage = thread.root.isWaitingForMessage)
    (preview : next.preview = thread.root.preview)
    (sameRun : thread.root.SameRun next) (inPlace : next.InPlace) :
    Thread.Consistent run { root := next } := by
  obtain ⟨awake, settled⟩ := consistent.settled.goOn waiting awake box preview
    (inPlace.free.trans consistent.inPlace.free.symm)
  exact { settled with
    sameRun := consistent.sameRun.trans sameRun
    inPlace := inPlace
    stopped := fun _ => awake }

theorem back {root callee : Activation} {rest : List Activation}
    (consistent : Thread.Consistent run { root, callees := callee :: rest }) :
    Thread.Consistent run { root := root.clearWait } :=
  consistent.goOn (consistent.calls.mp (by simp)) ⟨rfl, rfl, rfl⟩ rfl rfl ⟨rfl, rfl, rfl, rfl⟩
    (consistent.inPlace.congr rfl rfl rfl rfl rfl)

end Thread.Consistent

/-- Threads stay consistent through updates. -/
theorem lasts_consistent (run : Activation) :
    Lasts (fun _ thread _ => thread.Consistent run) where
  frame := fun _ => {
    reset := id
    start := fun consistent _ _ => consistent.start
    count := fun consistent running counting => consistent.countDown running counting
    unpark := fun consistent parked _ => consistent.unpark parked
    pass := by
      intro _ activation _ next after executed consistent able step
      have running := (step.sameRunning).trans (Activation.isRunning_of_canStep able)
      exact (consistent.pass able step).counted running _ _
    finish := fun consistent ends => consistent.finish ends }
  away := Thread.Consistent.away
  back := Thread.Consistent.back

/-! ## Events -/

/-- An accepted event ends the wait it is for; a choice may go to a label. -/
theorem Activation.deliver?_cases {activation : Activation} {world : World}
    {event : HostEvent} {delivery : Delivery}
    (delivered : activation.deliver? world event = some delivery) :
    (∃ reason, activation.waitingFor = some reason ∧ reason ≠ .callee) ∧
      (delivery.activation = activation.clearWait ∨ ∃ labels index,
        delivery.activation = { activation.clearWait with labels }.jumpTo index) := by
  unfold deliver? at delivered
  split at delivered
  · rename_i waiting
    cases delivered
    exact ⟨⟨_, waiting, by simp⟩, .inl rfl⟩
  · rename_i labels target index waiting
    split at delivered
    · cases delivered
    · rename_i label _
      cases delivered
      refine ⟨⟨_, waiting, by simp⟩, ?_⟩
      unfold takeChoice
      cases label with
      | none => exact .inl rfl
      | some name =>
          dsimp only
          split
          · rename_i jumped jump
            exact .inr (jumpToLabel_eq jump)
          · exact .inl rfl
  · rename_i waiting
    cases delivered
    exact ⟨⟨_, waiting, by simp⟩, .inl rfl⟩
  · rename_i waiting
    cases delivered
    exact ⟨⟨_, waiting, by simp⟩, .inl rfl⟩
  · cases delivered

theorem Activation.deliver?_sameRun {activation : Activation} {world : World}
    {event : HostEvent} {delivery : Delivery}
    (delivered : activation.deliver? world event = some delivery) :
    activation.SameRun delivery.activation := by
  obtain ⟨_, same | ⟨labels, index, jumped⟩⟩ := deliver?_cases delivered
  · rw [same]
    exact ⟨rfl, rfl, rfl, rfl⟩
  · rw [jumped]
    exact ⟨rfl, rfl, rfl, rfl⟩

theorem Activation.awake_of_deliver? {activation : Activation} {world : World}
    {event : HostEvent} {delivery : Delivery}
    (delivered : activation.deliver? world event = some delivery) :
    delivery.activation.isWaiting = false ∧ delivery.activation.waitingFor = none := by
  obtain ⟨_, same | ⟨labels, index, jumped⟩⟩ := deliver?_cases delivered
  · rw [same]
    exact ⟨rfl, rfl⟩
  · rw [jumped]
    exact ⟨rfl, rfl⟩

theorem Activation.InPlace.jumpTo {activation : Activation} (inPlace : activation.InPlace)
    (index : Nat) : (activation.jumpTo index).InPlace where
  loops := inPlace.loops.congr rfl rfl
  free := inPlace.free
  indent := by
    intro command found
    have here : activation.script.command? index = some command := found
    simp [Activation.jumpTo, Activation.clearWait, here]

theorem Thread.Consistent.deliver {run activation : Activation} {world : World}
    {event : HostEvent} {delivery : Delivery}
    (consistent : Thread.Consistent run { root := activation })
    (delivered : activation.deliver? world event = some delivery) :
    Thread.Consistent run { root := delivery.activation } := by
  obtain ⟨⟨reason, waiting, _⟩, same | ⟨labels, index, jumped⟩⟩ :=
    Activation.deliver?_cases delivered
  · rw [same]
    exact consistent.goOn waiting ⟨rfl, rfl, rfl⟩ rfl rfl ⟨rfl, rfl, rfl, rfl⟩
      (consistent.inPlace.congr rfl rfl rfl rfl rfl)
  · rw [jumped]
    refine consistent.goOn waiting ⟨rfl, rfl, rfl⟩ rfl rfl ⟨rfl, rfl, rfl, rfl⟩ ?_
    apply Activation.InPlace.jumpTo
    exact consistent.inPlace.congr rfl rfl rfl rfl rfl

theorem Thread.Suspended.deliver {activation : Activation} {world : World} {event : HostEvent}
    {delivery : Delivery} (suspended : Thread.Suspended { root := activation })
    (delivered : activation.deliver? world event = some delivery) :
    Thread.Suspended { root := delivery.activation } := by
  obtain ⟨⟨reason, waiting, _⟩, same | ⟨labels, index, jumped⟩⟩ :=
    Activation.deliver?_cases delivered
  · rw [same]
    have goesOn : activation.clearWait.IsAwake ∧ Suspended { root := activation.clearWait } :=
      suspended.goOn waiting ⟨rfl, rfl, rfl⟩ rfl
    exact goesOn.2
  · rw [jumped]
    have goesOn : ({ activation.clearWait with labels }.jumpTo index).IsAwake ∧
        Suspended { root := { activation.clearWait with labels }.jumpTo index } :=
      suspended.goOn waiting ⟨rfl, rfl, rfl⟩ rfl
    exact goesOn.2

theorem Thread.Settled.deliver {activation : Activation} {world : World} {event : HostEvent}
    {delivery : Delivery} (settled : Thread.Settled { root := activation })
    (delivered : activation.deliver? world event = some delivery) :
    Thread.Settled { root := delivery.activation } := by
  obtain ⟨⟨reason, waiting, _⟩, same | ⟨labels, index, jumped⟩⟩ :=
    Activation.deliver?_cases delivered
  · rw [same]
    have goesOn : activation.clearWait.IsAwake ∧ Settled { root := activation.clearWait } :=
      settled.goOn waiting ⟨rfl, rfl, rfl⟩ rfl rfl rfl
    exact goesOn.2
  · rw [jumped]
    have goesOn : ({ activation.clearWait with labels }.jumpTo index).IsAwake ∧
        Settled { root := { activation.clearWait with labels }.jumpTo index } :=
      settled.goOn waiting ⟨rfl, rfl, rfl⟩ rfl rfl rfl
    exact goesOn.2

/-- An event for a called script leaves the run that waits for it alone. -/
theorem Thread.notify?_cases {thread : Thread} {world : World} {event : HostEvent} {run : Run}
    (notified : thread.notify? world event = some run) :
    (thread.callees = [] ∧ ∃ delivery, thread.root.deliver? world event = some delivery ∧
        run.thread = { root := delivery.activation } ∧ run.world = delivery.world) ∨
      ∃ callee rest next later, thread.callees = callee :: rest ∧
        run.thread = { root := thread.root, callees := next :: later } := by
  obtain ⟨root, callees⟩ := thread
  cases callees with
  | nil =>
      obtain ⟨delivery, delivered, rfl⟩ := Option.map_eq_some_iff.mp notified
      exact .inl ⟨rfl, delivery, delivered, rfl, rfl⟩
  | cons callee rest =>
      obtain ⟨inner, _, rfl⟩ := Option.map_eq_some_iff.mp notified
      exact .inr ⟨callee, rest, _, _, rfl, rfl⟩

/-! ## Reachable states -/

/-- The same script in the same context, not started yet. -/
def Activation.anew (activation : Activation) : Activation :=
  { context := activation.context
    script := activation.script
    callers := activation.callers
    repeats := activation.repeats }

/-- The states that start, updates and events reach from a new run, together with the
command of it that ran last since its start. -/
inductive Reached (run : Activation) : Option Nat → Thread → World → Prop where
  | anew (world : World) : Reached run none { root := run.anew } world
  | start {last : Option Nat} {thread : Thread} {world : World}
      (reached : Reached run last thread world) : Reached run none thread.start world
  | update {last : Option Nat} {thread : Thread} {world : World} {fuel : Nat}
      {update : Update} (reached : Reached run last thread world)
      (updated : thread.update fuel world = some update) :
      Reached run (lastRan last (thread.visits fuel world)) update.thread update.world
  | notify {last : Option Nat} {thread : Thread} {world : World} {event : HostEvent}
      {notified : Run} (reached : Reached run last thread world)
      (accepted : thread.notify? world event = some notified) :
      Reached run last notified.thread notified.world

/-- The first update of a new run in an empty world. -/
theorem Reached.first {run : Activation} {fuel : Nat} {last : Option Nat} {thread : Thread}
    (updated : ∃ update, Thread.update { root := run.anew.start } fuel .empty = some update ∧
      update.thread = thread)
    (ran : lastRan none (Thread.visits { root := run.anew.start } fuel .empty) = last) :
    ∃ update, Thread.update { root := run.anew.start } fuel .empty = some update ∧
      Reached run last thread update.world := by
  obtain ⟨update, updated, rfl⟩ := updated
  subst ran
  exact ⟨update, updated, .update (.start (.anew .empty)) updated⟩

/-- A fact that lasts through updates holds in every state that is reached, if it holds of
a new run and start and events keep it. -/
theorem Reached.fact {run : Activation} {Fact : Option Nat → Thread → World → Prop}
    (lasts : Lasts Fact) (anew : ∀ world, Fact none { root := run.anew } world)
    (start : ∀ {last thread world}, Fact last thread world → Fact none thread.start world)
    (notify : ∀ {last thread world event notified}, Fact last thread world →
      thread.notify? world event = some notified →
      Fact last notified.thread notified.world)
    {last : Option Nat} {thread : Thread} {world : World}
    (reached : Reached run last thread world) : Fact last thread world := by
  induction reached with
  | anew world => exact anew world
  | start _ inductionHypothesis => exact start inductionHypothesis
  | update _ updated inductionHypothesis =>
      exact Thread.update_fact lasts _ inductionHypothesis updated
  | notify _ accepted inductionHypothesis => exact notify inductionHypothesis accepted

theorem consistent_anew (run : Activation) : Thread.Consistent run { root := run.anew } where
  sameRun := ⟨rfl, rfl, rfl, rfl⟩
  inPlace := {
    loops := nofun
    indent := fun _ => Nat.zero_le _
    free := rfl }
  waits := .awake ⟨rfl, rfl, rfl, rfl⟩
  calls := by simp [Activation.anew]
  stopped := fun _ => ⟨rfl, rfl, rfl, rfl⟩
  unpaused := ⟨rfl, rfl⟩
  parked := nofun

theorem Thread.Consistent.notify {run : Activation} {thread : Thread} {world : World}
    {event : HostEvent} {notified : Run} (consistent : thread.Consistent run)
    (accepted : thread.notify? world event = some notified) :
    notified.thread.Consistent run := by
  rcases Thread.notify?_cases accepted with
    ⟨alone, delivery, delivered, same, _⟩ | ⟨callee, rest, next, later, calling, same⟩
  · have before : Thread.Consistent run { root := thread.root } := by
      rw [← alone]
      exact consistent
    rw [same]
    exact before.deliver delivered
  · have before : Thread.Consistent run { root := thread.root, callees := callee :: rest } := by
      rw [← calling]
      exact consistent
    rw [same]
    exact before.away

theorem Reached.consistent {run : Activation} {last : Option Nat} {thread : Thread}
    {world : World} (reached : Reached run last thread world) : thread.Consistent run :=
  reached.fact (lasts_consistent run) (fun _ => consistent_anew run)
    Thread.Consistent.start Thread.Consistent.notify

/-- Only runs that may be updated at all come to wait for something. -/
theorem Reached.callRoom_pos {run : Activation} {last : Option Nat} {thread : Thread}
    {world : World} (reached : Reached run last thread world) {reason : WaitReason}
    (waiting : thread.root.waitingFor = some reason) : 0 < run.callRoom := by
  induction reached generalizing reason with
  | anew => cases waiting
  | start => cases waiting
  | @update last thread world fuel update reached updated inductionHypothesis =>
      obtain ⟨root, callees⟩ := thread
      cases callees with
      | nil =>
          have same : root.callRoom = run.callRoom := by
            unfold Activation.callRoom
            rw [reached.consistent.sameRun.callers]
          rw [← same]
          exact (Thread.update_single updated).1
      | cons callee rest => exact inductionHypothesis (reached.consistent.calls.mp (by simp))
  | @notify last thread world event notified reached accepted inductionHypothesis =>
      rcases Thread.notify?_cases accepted with
        ⟨_, delivery, delivered, same, _⟩ | ⟨callee, rest, next, later, calling, same⟩
      · rw [same] at waiting
        have awake := (Activation.awake_of_deliver? delivered).2
        exact absurd (awake.symm.trans waiting) (by simp)
      · rw [same] at waiting
        exact inductionHypothesis waiting

end NovelEngine
