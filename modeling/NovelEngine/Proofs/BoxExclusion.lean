import NovelEngine.Proofs.Parking
import NovelEngine.Proofs.WaitState

/-!
Contract: threads beside the one that holds the lock of the message box.

Owns:
- the interleavings of updates and events of any number of threads;
- that such threads leave a locked box alone, wait on the command that needs it, and run
  that command first when the box is free.

Does not own: threads that call scripts, and threads in the context that holds the lock.
-/

namespace NovelEngine

/-- A run that a lock of `owner` locks out, and whose script calls no other. -/
structure Activation.Barred (owner : Context) (activation : Activation) : Prop where
  apart : activation.context ≠ owner
  uncalled : owner ∉ activation.callers
  /-- It was not called from deeper than calls go. -/
  room : 0 < activation.callRoom
  callless : ∀ {index instruction},
    activation.script.instruction? index = some instruction → instruction.calls = false

namespace Activation.Barred

variable {owner : Context} {activation : Activation}

theorem congr {other : Activation} (barred : activation.Barred owner)
    (sameRun : activation.SameRun other) : other.Barred owner where
  apart := sameRun.context ▸ barred.apart
  uncalled := sameRun.callers ▸ barred.uncalled
  room := by
    unfold callRoom
    rw [sameRun.callers]
    exact barred.room
  callless := by
    intro index instruction decoded
    rw [sameRun.script] at decoded
    exact barred.callless decoded

theorem isLockedOut (barred : activation.Barred owner) {world : World}
    (locked : world.box.owner = some owner) : activation.isLockedOut world = true := by
  cases free : activation.isLockedOut world with
  | true => rfl
  | false =>
      have shared := MessageBox.mem_of_not_isLockedAgainst free locked
      rcases List.mem_append.mp shared with called | same
      · exact absurd called barred.uncalled
      · exact absurd (List.mem_singleton.mp same).symm barred.apart

/-- Who does not hold the lock cannot give it up. -/
theorem release (barred : activation.Barred owner) {box : MessageBox}
    (locked : box.owner = some owner) : box.release activation.context = box := by
  apply if_neg
  intro own
  rw [locked, Option.some.injEq] at own
  exact barred.apart own.symm

end Activation.Barred

/-- A thread that has called nothing and has nothing to do with the holder of the lock, in
any state that its host can bring it to. -/
structure Thread.Bystander (owner : Context) (thread : Thread) : Prop where
  driven : ∃ run, Driven run thread
  alone : thread.callees = []
  barred : thread.root.Barred owner

/-! ## One command -/

section Commands

variable {owner : Context} {activation : Activation} {world : World}

/-- An instruction of a barred run leaves the box alone. -/
theorem Use.box_of_barred {outcome : Outcome} (use : Use activation world outcome)
    (barred : activation.Barred owner) (locked : world.box.owner = some owner) :
    outcome.world.box = world.box := by
  have out := barred.isLockedOut locked
  cases use with
  | apart box => exact box
  | speak free => exact absurd (out.symm.trans free) (by decide)
  | ask free => exact absurd (out.symm.trans free) (by decide)
  | giveUp box => rw [box, barred.release locked, MessageBox.erase_of_owner locked]
  | spawn _ _ box => exact box
  | call _ _ _ box => exact box

theorem Handling.box_of_barred {runCallee : CalleeRunner} {next : Thread} {after : World}
    (handling : Handling runCallee { root := activation } world next after)
    (barred : activation.Barred owner) (locked : world.box.owner = some owner) :
    next.callees = [] ∧ after.box = world.box := by
  have none {command : Command} {instruction : Instruction} {outcome : Outcome}
      (decoded : activation.script.instruction? activation.pointer = some instruction)
      (performed : activation.perform world command.id instruction = outcome) :
      outcome.callee = none := by
    rw [← performed]
    exact activation.perform_callee_eq_none world (barred.callless decoded) command.id
  cases handling with
  | skip => exact ⟨rfl, rfl⟩
  | ignore => exact ⟨rfl, rfl⟩
  | perform _ _ _ performed =>
      subst performed
      exact ⟨rfl, (activation.perform_use world _ _).box_of_barred barred locked⟩
  | call _ _ decoded performed called => simp [none decoded performed] at called
  | callThrough _ _ decoded performed called => simp [none decoded performed] at called

end Commands

/-! ## Updates -/

/-- The states of a thread that leaves the box alone: it is settled, has called nothing and
finds the box as it was at the beginning. -/
structure Aside (owner : Context) (box : MessageBox) (thread : Thread) (world : World) :
    Prop where
  settled : thread.Settled
  alone : thread.callees = []
  barred : thread.root.Barred owner
  same : world.box = box

section Updates

variable {owner : Context} {box : MessageBox}

theorem Aside.pass {runCallee : CalleeRunner} {thread next : Thread} {world after : World}
    (aside : Aside owner box thread world) (locked : box.owner = some owner)
    (able : thread.root.canStep = true) (step : Step runCallee thread world next after)
    (executed : Nat) : Aside owner box (next.counted after.config executed) after := by
  have sameRun := step.sameRun.trans (next.root.counted_sameRun after.config executed)
  have settled := (aside.settled.pass able step).counted after.config executed
  have barred := aside.barred.congr sameRun
  cases step with
  | pause => exact ⟨settled, aside.alone, barred, aside.same⟩
  | move handling =>
      obtain ⟨root, callees⟩ := thread
      cases aside.alone
      obtain ⟨alone, same⟩ := handling.box_of_barred aside.barred (aside.same ▸ locked)
      exact ⟨settled, alone, barred, same.trans aside.same⟩

theorem lastsFrame_aside (runCallee : CalleeRunner) (locked : box.owner = some owner) :
    LastsFrame runCallee (fun _ thread world => Aside owner box thread world) where
  reset := fun aside => ⟨aside.settled, aside.alone, aside.barred, aside.same⟩
  start := fun aside _ _ =>
    ⟨aside.settled.start, rfl, aside.barred.congr ⟨rfl, rfl, rfl, rfl⟩, aside.same⟩
  count := fun aside _ counting =>
    ⟨aside.settled.countDown counting, rfl, aside.barred.congr ⟨rfl, rfl, rfl, rfl⟩,
      aside.same⟩
  unpark := fun aside parked _ =>
    ⟨aside.settled.unpark parked, rfl, aside.barred.congr ⟨rfl, rfl, rfl, rfl⟩, aside.same⟩
  pass := fun aside able step => aside.pass locked able step _
  finish := by
    intro _ activation world aside _
    have released : (world.releaseBox activation.context).box = world.box :=
      aside.barred.release (aside.same ▸ locked)
    exact ⟨aside.settled.finish, rfl, aside.barred.congr ⟨rfl, rfl, rfl, rfl⟩,
      released.trans aside.same⟩

/-- Commands that come to one that needs the box end there. -/
theorem runCommands_parks {runCallee : CalleeRunner} (locked : box.owner = some owner)
    {fuel executed : Nat} {thread : Thread} {world : World} {reported : List Notice}
    (aside : Aside owner box thread world) {visit : Thread × World}
    (visited : visit ∈ commandVisits runCallee fuel executed thread world)
    (speaks : visit.1.root.SpeaksHere) :
    ∃ notices, runCommands runCallee fuel executed thread world reported = some {
      thread := { root := visit.1.root.parkedHere }, world := visit.2, notices } := by
  induction fuel generalizing executed thread world reported with
  | zero => simp [commandVisits] at visited
  | succ fuel inductionHypothesis =>
      unfold commandVisits at visited
      split at visited
      · rename_i able
        rcases List.mem_cons.mp visited with here | later
        · subst here
          have out := aside.barred.isLockedOut (aside.same ▸ locked)
          obtain ⟨root, callees⟩ := thread
          cases aside.alone
          exact ⟨_, runCommands_lockedOut able speaks aside.settled.free
            aside.settled.unpaused.1 out _ _ _⟩
        · split at later
          · simp at later
          · rename_i run executes
            rw [runCommands_step able executes]
            exact inductionHypothesis
              (aside.pass locked able (Thread.execute_step able executes) _) later
      · simp at visited

end Updates

namespace Thread.Bystander

variable {owner : Context} {thread : Thread} {world : World}

theorem settled (bystander : thread.Bystander owner) : thread.Settled := by
  obtain ⟨run, driven⟩ := bystander.driven
  exact driven.settledThroughout.settled

theorem single (bystander : thread.Bystander owner) : thread = { root := thread.root } := by
  rw [← bystander.alone]

theorem aside (bystander : thread.Bystander owner) (world : World) :
    Aside owner world.box thread world :=
  ⟨bystander.settled, bystander.alone, bystander.barred, rfl⟩

/-- An update leaves a locked box alone. -/
theorem update (bystander : thread.Bystander owner) (locked : world.box.owner = some owner)
    {fuel : Nat} {update : Update} (updated : thread.update fuel world = some update) :
    update.thread.Bystander owner ∧ update.world.box = world.box := by
  have aside := bystander.aside world
  obtain ⟨run, driven⟩ := bystander.driven
  have drivenAfter := driven.update updated
  rw [bystander.single] at updated aside
  have asideAfter := updateFrame_fact (lastsFrame_aside _ locked) none aside
    (Thread.update_single updated).2
  exact ⟨⟨⟨run, drivenAfter⟩, asideAfter.alone, asideAfter.barred⟩, asideAfter.same⟩

/-- An event leaves a locked box alone. -/
theorem notify (bystander : thread.Bystander owner) (locked : world.box.owner = some owner)
    {event : HostEvent} {notified : Run}
    (accepted : thread.notify? world event = some notified) :
    notified.thread.Bystander owner ∧ notified.world.box = world.box := by
  obtain ⟨run, driven⟩ := bystander.driven
  have drivenAfter := driven.notify accepted
  rcases Thread.notify?_cases accepted with
    ⟨_, delivery, delivered, thread, world⟩ | ⟨_, _, _, _, calling, _⟩
  · have sameRun := Activation.deliver?_sameRun delivered
    refine ⟨⟨⟨run, drivenAfter⟩, ?_, ?_⟩, ?_⟩
    · rw [thread]
    · rw [thread]
      exact bystander.barred.congr sameRun
    · rw [world]
      rcases (Activation.deliver?_box delivered).2 with ⟨_, same | erased⟩ | released
      · exact same
      · rw [erased, MessageBox.erase_of_owner locked]
      · rw [released, bystander.barred.release locked]
  · exact absurd (bystander.alone.symm.trans calling) (by simp)

end Thread.Bystander

/-! ## Interleavings -/

/-- Updates and events of some threads, in any order. -/
inductive Interleaved (threads : List Thread) (world : World) : List Thread → World → Prop where
  | refl : Interleaved threads world threads world
  | update {later : List Thread} {between : World} {index fuel : Nat} {thread : Thread}
      {update : Update} (interleaved : Interleaved threads world later between)
      (found : later[index]? = some thread)
      (updated : thread.update fuel between = some update) :
      Interleaved threads world (later.set index update.thread) update.world
  | notify {later : List Thread} {between : World} {index : Nat} {event : HostEvent}
      {thread : Thread} {notified : Run}
      (interleaved : Interleaved threads world later between)
      (found : later[index]? = some thread)
      (accepted : thread.notify? between event = some notified) :
      Interleaved threads world (later.set index notified.thread) notified.world

/-- How a thread behaves towards a box that is locked by `owner` in `world`. -/
structure Thread.Defers (owner : Context) (thread : Thread) (world : World) : Prop where
  /-- An update that comes to a command that needs the box ends on this command. -/
  parks : ∀ {fuel : Nat} {visit : Thread × World}, visit ∈ thread.visits fuel world →
    visit.1.root.SpeaksHere → ∃ update, thread.update fuel world = some update ∧
      update.progress = .running ∧ update.thread.root.IsParked ∧
      update.thread.root.pointer = visit.1.root.pointer ∧
      update.thread.root.indent = visit.1.root.indent
  /-- Whoever waits for the box does so on a command that needs it. -/
  waits : thread.root.isWaitingForMessage = true → thread.root.isRunning = true →
    thread.root.IsParked
  /-- As long as the box is locked, only temporary variables are reset. -/
  stays : thread.root.IsParked → ∀ (fuel : Nat) (other : World),
    other.box.owner = some owner → thread.update fuel other = some {
      progress := .running
      thread
      world := other.resetTemporaries thread.root.context }
  /-- Once the box is free, the command runs before any other, and a message adds its line
  to the backlog. -/
  retries : thread.root.IsParked → ∀ (fuel : Nat) (other : World),
    thread.root.isLockedOut other = false →
    ∃ next after, thread.Retries fuel other next after ∧
      ∀ text character wait, thread.root.script.instruction? thread.root.pointer =
          some (.showMessage text character wait) →
        after.box.backlog = MessageBox.appendLine other.box.backlog (spokenLine character
          (text.text (other.resetTemporaries thread.root.context).store thread.root.context))

/-- A bystander that comes to a command that needs the box is left waiting on it. -/
theorem Thread.Bystander.parks {owner : Context} {thread : Thread} {world : World}
    (bystander : thread.Bystander owner) (locked : world.box.owner = some owner) {fuel : Nat}
    {visit : Thread × World} (visited : visit ∈ thread.visits fuel world)
    (speaks : visit.1.root.SpeaksHere) :
    ∃ notices, thread.update fuel world = some {
      progress := .running
      thread := { root := visit.1.root.parkedHere }
      world := visit.2
      notices } ∧ visit.1.root.isRunning = true := by
  have aside := bystander.aside world
  have single := bystander.single
  have lasts := lastsFrame_aside (thread.calleeRunner fuel) locked
  rw [single] at visited aside
  have able := (frameVisits_fact lasts none aside visited).2
  obtain ⟨entered, visited, frame⟩ := frameVisits_entry lasts none aside visited
  obtain ⟨notices, ran⟩ := runCommands_parks locked entered visited speaks
  have stays : Run.conclude
      { thread := { root := visit.1.root.parkedHere }, world := visit.2, notices } =
        { progress := .running, thread := { root := visit.1.root.parkedHere },
          world := visit.2, notices } := by
    simp [Run.conclude, Activation.endsHere, Thread.restartAtEnd, Activation.isAtEnd,
      Activation.parkedHere]
  rw [ran, Option.map_some, stays] at frame
  have updated := (Thread.update_eq bystander.barred.room fuel world).trans frame
  rw [← single] at updated
  exact ⟨notices, updated, Activation.isRunning_of_canStep able⟩

theorem Thread.Bystander.defers {owner : Context} {thread : Thread} {world : World}
    (bystander : thread.Bystander owner) (locked : world.box.owner = some owner) :
    thread.Defers owner world where
  parks := by
    intro fuel visit visited speaks
    obtain ⟨notices, updated, running⟩ := bystander.parks locked visited speaks
    have settled := (bystander.update locked updated).1.settled
    exact ⟨_, updated, rfl, settled.isParked rfl running, rfl, rfl⟩
  waits := bystander.settled.isParked
  stays := by
    intro parked fuel other held
    have out := bystander.barred.isLockedOut held
    rw [bystander.single, Thread.update_eq bystander.barred.room,
      parked.updateFrame_of_locked out]
  retries := by
    intro parked fuel other free
    rw [bystander.single]
    exact parked.retries free bystander.barred.room fuel

theorem Interleaved.bystanders {owner : Context} {threads later : List Thread}
    {world after : World} (bystanders : ∀ thread ∈ threads, thread.Bystander owner)
    (locked : world.box.owner = some owner)
    (interleaved : Interleaved threads world later after) :
    after.box = world.box ∧ ∀ thread ∈ later, thread.Bystander owner := by
  -- One step replaces one thread by another bystander and leaves the box alone.
  have replaced {later : List Thread} {next : Thread} (index : Nat)
      (beside : ∀ thread ∈ later, thread.Bystander owner) (newcomer : next.Bystander owner) :
      ∀ thread ∈ later.set index next, thread.Bystander owner := by
    intro thread member
    rcases List.mem_or_eq_of_mem_set member with old | rfl
    · exact beside thread old
    · exact newcomer
  induction interleaved with
  | refl => exact ⟨rfl, bystanders⟩
  | @update later between index _ thread _ _ found updated inductionHypothesis =>
      obtain ⟨same, beside⟩ := inductionHypothesis
      obtain ⟨next, kept⟩ := (beside thread (List.mem_of_getElem? found)).update
        (same ▸ locked) updated
      exact ⟨kept.trans same, replaced index beside next⟩
  | @notify later between index _ thread _ _ found accepted inductionHypothesis =>
      obtain ⟨same, beside⟩ := inductionHypothesis
      obtain ⟨next, kept⟩ := (beside thread (List.mem_of_getElem? found)).notify
        (same ▸ locked) accepted
      exact ⟨kept.trans same, replaced index beside next⟩

/-- While one context holds the lock of the message box, no thread of another context
changes the box, in whatever order the threads are updated and told of events. Each of them
waits on the first command that needs the box, and runs it once the box is free. -/
theorem Interleaved.box_excludes {owner : Context} {threads later : List Thread}
    {world after : World} (bystanders : ∀ thread ∈ threads, thread.Bystander owner)
    (locked : world.box.owner = some owner)
    (interleaved : Interleaved threads world later after) :
    after.box = world.box ∧ ∀ thread ∈ later, thread.Defers owner after := by
  obtain ⟨same, beside⟩ := interleaved.bystanders bystanders locked
  refine ⟨same, fun thread member => ?_⟩
  exact (beside thread member).defers (same ▸ locked)

/-- A new run of a script of one command. -/
private def lone (context name : String) (instruction : Instruction) : Activation where
  context := { id := context }
  script := {
    commands := #[{ id := name }]
    instructions := #[some instruction]
    jumpTargets := #[none] }

private theorem bystander_lone {context name : String} {instruction : Instruction}
    (apart : context ≠ "guard") (callless : instruction.calls = false) :
    Thread.Bystander { id := "guard" } { root := (lone context name instruction).start } where
  driven := ⟨lone context name instruction, .start .anew⟩
  alone := rfl
  barred := {
    apart := fun same => apart (congrArg Context.id same)
    uncalled := by simp [lone, Activation.start]
    room := by simp [lone, Activation.start, Activation.callRoom, maxCallDepth]
    callless := by
      intro index other decoded
      cases index with
      | zero =>
          cases decoded
          exact callless
      | succ index => simp [Script.instruction?, lone, Activation.start] at decoded }

private def greeting : Thread where
  root := (lone "hall" "ShowMessage" (.showMessage (.literal (.text "Hello")) none none)).start

private def offer : Thread where
  root := (lone "yard" "ShowChoices" (.showChoices [] none)).start

/-- The guard asks for a number. -/
private def askedForNumber : World :=
  { World.empty with
    box := { owner := some { id := "guard" }, content := some (.numberInput 3) } }

/-- A message and choices both wait while the guard asks for a number. -/
theorem besideGuard_defers :
    ∃ threads world later after, Interleaved threads world later after ∧
      world.box.owner = some { id := "guard" } ∧
      later.map (fun thread => thread.root.isWaitingForMessage) = [true, true] ∧
      after.box = world.box ∧
      ∀ thread ∈ later, Thread.Defers { id := "guard" } thread after := by
  have ran : ((greeting.update 1 askedForNumber).any
      (fun first => first.thread.root.isWaitingForMessage &&
        (offer.update 1 first.world).any
          (fun second => second.thread.root.isWaitingForMessage))) = true := by
    decide +kernel
  obtain ⟨first, ranFirst, waits⟩ := (Option.any_eq_true _ _).mp ran
  rw [Bool.and_eq_true] at waits
  obtain ⟨second, ranSecond, waitsToo⟩ := (Option.any_eq_true _ _).mp waits.2
  have once := @Interleaved.update [greeting, offer] _ _ _ 0 _ _ _ .refl rfl ranFirst
  have twice := @Interleaved.update _ _ _ _ 1 _ _ _ once rfl ranSecond
  have bystanders : ∀ thread ∈ [greeting, offer],
      Thread.Bystander { id := "guard" } thread :=
    List.forall_mem_cons.mpr ⟨bystander_lone (by decide) rfl,
      List.forall_mem_singleton.mpr (bystander_lone (by decide) rfl)⟩
  exact ⟨_, _, _, _, twice, rfl, by simp [waits.1, waitsToo],
    twice.box_excludes bystanders rfl⟩

end NovelEngine
