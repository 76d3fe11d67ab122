import NovelEngine.Proofs.LoopReentry
import NovelEngine.Proofs.Suspension

/-!
Contract: what becomes of a loop that a jump leaves.

Owns:
- what a command does to the table of loops;
- the journal of a run: its commands, the events it hears and its restarts, in order;
- the exact condition under which a run goes back to a loop that it has left by a jump.

Does not own: loops that are left without a jump.

A jump takes over the indent of its target and leaves the table of loops alone. A loop that
was left stays registered until something else closes it, and until then the next block that
ends at its indent leads back to it.
-/

namespace NovelEngine

/-! ## The table of loops -/

namespace Activation

/-- The command at the pointer runs as `instruction` when it is executed. -/
def Runs (activation : Activation) (instruction : Instruction) : Prop :=
  activation.script.indentAt activation.pointer = activation.indent ∧
    activation.script.instruction? activation.pointer = some instruction

/-- The table of loops after an instruction. -/
def loopsAfter (activation : Activation) : Instruction → Array (Option Nat)
  | .loop => activation.enterLoop.loops
  | .breakLoop => activation.breakLoop.loops
  | .exitEvent => activation.exitEvent.loops
  | _ => activation.loops

/-- The instruction at the pointer closes the loop at `start`: it opens another loop at the
same indent, breaks out of it or leaves the script. -/
def Closes (activation : Activation) (start : Nat) : Instruction → Prop
  | .loop => activation.indent = activation.script.indentAt start ∧ activation.pointer ≠ start
  | .breakLoop => activation.enclosingLoop activation.indent = activation.script.indentAt start
  | .exitEvent => True
  | _ => False

/-- Two states of a run with the same loops. -/
structure SameLoops (before after : Activation) : Prop where
  script : after.script = before.script
  loops : after.loops = before.loops

variable {before between after : Activation} {start : Nat}

theorem Runs.unique {first second : Instruction} (left : before.Runs first)
    (right : before.Runs second) : first = second :=
  Option.some.inj (left.2.symm.trans right.2)

theorem SameLoops.refl (activation : Activation) : activation.SameLoops activation :=
  ⟨rfl, rfl⟩

theorem SameLoops.trans (left : before.SameLoops between) (right : between.SameLoops after) :
    before.SameLoops after :=
  ⟨right.script.trans left.script, right.loops.trans left.loops⟩

theorem SameLoops.isOpen_iff (same : before.SameLoops after) :
    after.IsOpen start ↔ before.IsOpen start := by
  unfold IsOpen
  rw [loopStart?_congr same.loops, same.script]

theorem isOpen_iff_of_loopsAfter {instruction : Instruction}
    (script : after.script = before.script) (loops : after.loops = before.loopsAfter instruction)
    (other : ¬ (before.pointer = start ∧ instruction = .loop)) :
    after.IsOpen start ↔ before.IsOpen start ∧ ¬ before.Closes start instruction := by
  cases instruction with
  | loop =>
      have elsewhere : before.pointer ≠ start := fun here => other ⟨here, rfl⟩
      have table (level : Nat) : after.loopStart? level =
          (before.setLoop before.indent (some before.pointer)).loopStart? level :=
        loopStart?_congr loops level
      unfold IsOpen Closes
      rw [table, script]
      by_cases here : before.indent = before.script.indentAt start
      · rw [← here, loopStart?_setLoop_same]
        simp [elsewhere]
      · rw [loopStart?_setLoop_other _ _ (Ne.symm here)]
        simp [here]
  | breakLoop =>
      have table (level : Nat) : after.loopStart? level =
          (before.setLoop (before.enclosingLoop before.indent) none).loopStart? level :=
        loopStart?_congr loops level
      unfold IsOpen Closes
      rw [table, script]
      by_cases here : before.enclosingLoop before.indent = before.script.indentAt start
      · rw [← here, loopStart?_setLoop_same]
        simp
      · rw [loopStart?_setLoop_other _ _ (Ne.symm here)]
        simp [here]
  | exitEvent =>
      have table (level : Nat) : after.loopStart? level = none := loopStart?_congr loops level
      simp [IsOpen, Closes, table]
  | _ =>
      have same : before.SameLoops after := ⟨script, loops⟩
      simp [same.isOpen_iff, Closes]

end Activation

/-- An event leaves the table of loops alone, also when it makes the run jump. -/
theorem Activation.deliver?_sameLoops {activation : Activation} {world : World}
    {event : HostEvent} {delivery : Delivery}
    (delivered : activation.deliver? world event = some delivery) :
    activation.SameLoops delivery.activation := by
  obtain ⟨_, same | ⟨labels, index, jumped⟩⟩ := deliver?_cases delivered
  · rw [same]
    exact ⟨rfl, rfl⟩
  · rw [jumped]
    exact ⟨rfl, rfl⟩

/-- Only loops, breaks and exits touch the table of loops. -/
theorem Effect.loops {activation next : Activation} {instruction : Instruction}
    (effect : Effect activation instruction next) (noLoop : instruction ≠ .loop)
    (noBreak : instruction ≠ .breakLoop) (noExit : instruction ≠ .exitEvent) :
    next.loops = activation.loops := by
  cases effect with
  | enterLoop => exact absurd rfl noLoop
  | breakLoop => exact absurd rfl noBreak
  | exit => exact absurd rfl noExit
  | branch _ holds => cases holds <;> rfl
  | branchElse =>
      unfold Activation.branchElse
      split <;> rfl
  | _ => rfl

theorem Activation.perform_loops (activation : Activation) (world : World) (id : String)
    (instruction : Instruction) :
    (activation.perform world id instruction).activation.loops =
      activation.loopsAfter instruction := by
  have effect := activation.perform_effect world id instruction
  cases instruction with
  | loop => rfl
  | breakLoop => rfl
  | exitEvent => rfl
  | _ => exact effect.loops (by simp) (by simp) (by simp)

/-- The command at the pointer runs and changes the table of loops as its instruction does,
or it does not run and changes nothing. -/
theorem Handling.loops {runCallee : CalleeRunner} {thread next : Thread} {world after : World}
    (handling : Handling runCallee thread world next after) :
    (∃ instruction, thread.root.Runs instruction ∧
        next.root.loops = thread.root.loopsAfter instruction) ∨
      (∀ instruction, ¬ thread.root.Runs instruction) ∧
        next.root.loops = thread.root.loops := by
  have runs {command : Command} {instruction : Instruction}
      (found : thread.root.script.command? thread.root.pointer = some command)
      (current : command.indent = thread.root.indent)
      (decoded : thread.root.script.instruction? thread.root.pointer = some instruction) :
      thread.root.Runs instruction := ⟨(Script.indentAt_eq found).trans current, decoded⟩
  cases handling with
  | skip found differs =>
      refine .inr ⟨fun instruction runs => differs ?_, rfl⟩
      exact (Script.indentAt_eq found).symm.trans runs.1
  | ignore _ _ unknown =>
      refine .inr ⟨fun instruction runs => ?_, rfl⟩
      exact absurd (unknown.symm.trans runs.2) (by simp)
  | perform found current decoded performed =>
      subst performed
      exact .inl ⟨_, runs found current decoded, Activation.perform_loops _ _ _ _⟩
  | call found current decoded performed =>
      subst performed
      exact .inl ⟨_, runs found current decoded, Activation.perform_loops _ _ _ _⟩
  | callThrough found current decoded performed =>
      subst performed
      exact .inl ⟨_, runs found current decoded, Activation.perform_loops _ _ _ _⟩

/-! ## Moments -/

/-- What can happen to a run, with its state before and after. -/
inductive Moment where
  /-- A command is executed. The pointer has not moved past it yet. -/
  | ran (before after : Activation)
  /-- An event ends a wait. -/
  | heard (before after : Activation)
  /-- The script starts over. -/
  | restarted (before : Activation)

namespace Moment

def before : Moment → Activation
  | ran before _ => before
  | heard before _ => before
  | restarted before => before

def after : Moment → Activation
  | ran _ after => after
  | heard _ after => after
  | restarted before => before.start

/-- The moment comes from the command at the pointer, from an event or from a restart. -/
inductive Lawful : Moment → Prop where
  | ran {runCallee : CalleeRunner} {thread next : Thread} {world after : World}
      (handling : Handling runCallee thread world next after) :
      Lawful (.ran thread.root next.root)
  | heard {before : Activation} {world : World} {event : HostEvent} {delivery : Delivery}
      (delivered : before.deliver? world event = some delivery) :
      Lawful (.heard before delivery.activation)
  | restarted (before : Activation) : Lawful (.restarted before)

/-- The loop command at `start` is executed. -/
def Enters (start : Nat) : Moment → Prop
  | ran before _ => before.pointer = start ∧ before.Runs .loop
  | heard _ _ => False
  | restarted _ => False

/-- The loop at `start` is closed if it was open. -/
def Closes (start : Nat) : Moment → Prop
  | ran before _ => ∃ instruction, before.Runs instruction ∧ before.Closes start instruction
  | heard _ _ => False
  | restarted _ => True

/-- A jump command runs, or the answer to a choice is heard. -/
def Jumps : Moment → Prop
  | ran before _ => ∃ name, before.Runs (.jumpToLabel name)
  | heard before _ => ∃ labels target, before.waitingFor = some (.choice labels target)
  | restarted _ => False

/-- The run that is about to step past the command that it has executed. -/
def stepping? : Moment → Option Activation
  | ran _ after => if after.holdPointer then none else some after
  | heard _ _ => none
  | restarted _ => none

/-- The step past the command goes to the loop at `start`, which is not the next command. -/
def GoesBackTo (start : Nat) (moment : Moment) : Prop :=
  ∃ run, moment.stepping? = some run ∧ start ≠ run.pointer + 1 ∧ run.stepPast.pointer = start

variable {moment : Moment} {start : Nat}

theorem eq_after_of_stepping? {run : Activation} (stepping : moment.stepping? = some run) :
    run = moment.after ∧ run.holdPointer = false := by
  unfold stepping? at stepping
  split at stepping
  · split at stepping
    · cases stepping
    · rename_i free
      cases stepping
      exact ⟨rfl, by simpa using free⟩
  · cases stepping
  · cases stepping

theorem Lawful.script (lawful : moment.Lawful) :
    moment.after.script = moment.before.script := by
  cases lawful with
  | ran handling => exact handling.sameRun.script
  | heard delivered => exact (Activation.deliver?_sameRun delivered).script
  | restarted => rfl

/-- A moment that does not enter the loop leaves it open unless it closes it. -/
theorem Lawful.isOpen_iff (lawful : moment.Lawful) (elsewhere : ¬ moment.Enters start) :
    moment.after.IsOpen start ↔ moment.before.IsOpen start ∧ ¬ moment.Closes start := by
  have script := lawful.script
  cases lawful with
  | @ran _ thread next _ _ handling =>
      rcases handling.loops with ⟨instruction, runs, loops⟩ | ⟨idle, loops⟩
      · have other : ¬ (thread.root.pointer = start ∧ instruction = .loop) := by
          rintro ⟨here, rfl⟩
          exact elsewhere ⟨here, runs⟩
        have only : Closes start (.ran thread.root next.root) ↔
            thread.root.Closes start instruction := by
          constructor
          · rintro ⟨same, runsToo, closes⟩
            obtain rfl : same = instruction := runsToo.unique runs
            exact closes
          · exact fun closes => ⟨instruction, runs, closes⟩
        rw [only]
        exact Activation.isOpen_iff_of_loopsAfter script loops other
      · have stays : ¬ Closes start (.ran thread.root next.root) :=
          fun ⟨instruction, runs, _⟩ => idle instruction runs
        have same : thread.root.SameLoops next.root := ⟨script, loops⟩
        rw [and_iff_left stays]
        exact same.isOpen_iff
  | @heard before _ _ delivery delivered =>
      have stays : ¬ Closes start (.heard before delivery.activation) := id
      rw [and_iff_left stays]
      exact (Activation.deliver?_sameLoops delivered).isOpen_iff
  | restarted before =>
      have empty : before.start.loopStart? (before.start.script.indentAt start) = none := rfl
      simp [after, Activation.IsOpen, empty, Closes]

/-- A jump neither enters nor closes a loop. -/
theorem Jumps.keeps (jumps : moment.Jumps) : ¬ moment.Enters start ∧ ¬ moment.Closes start := by
  cases moment with
  | ran before after =>
      obtain ⟨name, runs⟩ := jumps
      constructor
      · rintro ⟨_, enters⟩
        exact absurd (enters.unique runs) (by simp)
      · rintro ⟨instruction, runsToo, closes⟩
        obtain rfl : instruction = .jumpToLabel name := runsToo.unique runs
        exact closes
  | heard => exact ⟨id, id⟩
  | restarted => exact jumps.elim

end Moment

/-! ## Trails -/

/-- The moments lead from one state of a run to another. Between them the table of loops
does not change. -/
inductive Trail : Activation → List Moment → Activation → Prop where
  | rest {run next : Activation} (same : run.SameLoops next) : Trail run [] next
  | step {run next : Activation} {moment : Moment} {moments : List Moment}
      (same : run.SameLoops moment.before) (lawful : moment.Lawful)
      (trail : Trail moment.after moments next) : Trail run (moment :: moments) next

namespace Trail

variable {run next last : Activation} {moments later : List Moment} {start : Nat}

theorem of_same (same : run.SameLoops next) (trail : Trail next moments last) :
    Trail run moments last := by
  cases trail with
  | rest further => exact .rest (same.trans further)
  | step further lawful trail => exact .step (same.trans further) lawful trail

theorem append (trail : Trail run moments next) (further : Trail next later last) :
    Trail run (moments ++ later) last := by
  induction trail with
  | rest same => exact further.of_same same
  | step same lawful _ inductionHypothesis =>
      exact .step same lawful (inductionHypothesis further)

theorem then_same (trail : Trail run moments next) (same : next.SameLoops last) :
    Trail run moments last := by
  have further := trail.append (.rest same)
  rwa [List.append_nil] at further

theorem single {moment : Moment} (lawful : moment.Lawful) :
    Trail moment.before [moment] moment.after :=
  .step (.refl _) lawful (.rest (.refl _))

theorem split (trail : Trail run (moments ++ later) last) :
    ∃ next, Trail run moments next ∧ Trail next later last := by
  induction moments generalizing run with
  | nil => exact ⟨run, .rest (.refl run), trail⟩
  | cons moment moments inductionHypothesis =>
      cases trail with
      | step same lawful trail =>
          obtain ⟨next, first, second⟩ := inductionHypothesis trail
          exact ⟨next, .step same lawful first, second⟩

/-- At the end of a trail stands what its last moment left. -/
theorem sameLoops_of_last {moment : Moment} (trail : Trail run moments next)
    (ends : moments.getLast? = some moment) : moment.after.SameLoops next := by
  induction trail with
  | rest => cases ends
  | @step _ _ first moments _ _ trail inductionHypothesis =>
      cases moments with
      | nil =>
          cases ends
          cases trail with
          | rest same => exact same
      | cons second moments => exact inductionHypothesis (List.getLast?_cons_cons ▸ ends)

/-- A loop that is not entered on a trail stays open until something on it closes the loop. -/
theorem isOpen_iff (trail : Trail run moments next)
    (elsewhere : ∀ moment ∈ moments, ¬ moment.Enters start) :
    next.IsOpen start ↔ run.IsOpen start ∧ ∀ moment ∈ moments, ¬ moment.Closes start := by
  induction trail with
  | rest same => simpa using same.isOpen_iff
  | step same lawful _ inductionHypothesis =>
      obtain ⟨first, others⟩ := List.forall_mem_cons.mp elsewhere
      rw [inductionHypothesis others, lawful.isOpen_iff first, same.isOpen_iff,
        List.forall_mem_cons, and_assoc]

theorem loopsSound (trail : Trail run moments next) (sound : run.LoopsSound) :
    next.LoopsSound := by
  induction trail with
  | rest same => exact sound.congr same.script same.loops
  | step same lawful _ inductionHypothesis =>
      have sound := sound.congr same.script same.loops
      apply inductionHypothesis
      cases lawful with
      | ran handling => exact handling.loopsSound sound
      | heard delivered =>
          have kept := Activation.deliver?_sameLoops delivered
          exact sound.congr kept.script kept.loops
      | restarted before => exact (Activation.inPlace_start before).loops

end Trail

/-! ## The journal of an update -/

/-- The command of a visited state, unless the preview stops before it. -/
def momentsAt (runCallee : CalleeRunner) (visit : Thread × World) : List Moment :=
  if visit.2.config.preview && visit.1.root.preview.cursor = some visit.1.root.pointer then []
  else (visit.1.handle visit.2 runCallee).toList.map (fun run =>
    .ran visit.1.root run.thread.root)

/-- A repeating script at its end starts over. -/
def Activation.restarts (activation : Activation) : List Moment :=
  if activation.isAtEnd && activation.repeats then [.restarted activation] else []

def frameMoments (fuel : Nat) (runCallee : CalleeRunner) (activation : Activation)
    (world : World) : List Moment :=
  let world := world.resetTemporaries activation.context
  activation.restarts ++
    if activation.endsHere || activation.restarted.rests world then []
    else
      let entry : Thread := { root := activation.restarted.unparked }
      (commandVisits runCallee fuel 0 entry world).flatMap (momentsAt runCallee) ++
        match runCommands runCallee fuel 0 entry world [] with
        | none => []
        | some run => run.thread.root.restarts

/-- What happens to the outermost run of a thread in an update. -/
def Thread.moments (thread : Thread) (fuel : Nat) (world : World) : List Moment :=
  match thread.callees with
  | [] => frameMoments fuel (thread.calleeRunner fuel) thread.root world
  | _ :: _ => []

/-- What an event means for the outermost run of a thread. -/
def Thread.momentsOf (thread : Thread) (world : World) (event : HostEvent) : List Moment :=
  match thread.callees with
  | [] => (thread.root.deliver? world event).toList.map (fun delivery =>
      .heard thread.root delivery.activation)
  | _ :: _ => []

theorem Activation.restarts_of_endsHere {activation : Activation}
    (ends : activation.endsHere = true) : activation.restarts = [] := by
  simp only [endsHere, Bool.and_eq_true, Bool.not_eq_true'] at ends
  simp [restarts, ends.2]

theorem Activation.restarts_trail (activation : Activation) :
    Trail activation activation.restarts activation.restarted := by
  unfold restarts restarted
  split
  · exact .single (.restarted activation)
  · exact .rest (.refl activation)

section Updates

variable {runCallee : CalleeRunner} {fuel executed : Nat} {thread : Thread} {world : World}

theorem Thread.execute_trail {run : Run} (able : thread.root.canStep = true)
    (executes : thread.execute world runCallee thread.root.pointer = some run) :
    Trail thread.root (momentsAt runCallee (thread, world)) run.thread.root := by
  rcases Thread.execute_cases able executes with
    ⟨previewing, reached, _, paused⟩ | ⟨plays, handled, handles, _, moved⟩
  · simp only [momentsAt, previewing, reached, decide_true, Bool.and_true, if_true]
    rw [paused]
    exact .rest ⟨rfl, rfl⟩
  · have unpaused : (world.config.preview &&
        decide (thread.root.preview.cursor = some thread.root.pointer)) = false := by
      simpa only [← Bool.not_eq_true, Bool.and_eq_true, decide_eq_true_eq] using plays
    simp only [momentsAt, unpaused, Bool.false_eq_true, if_false, handles, Option.toList_some,
      List.map_cons, List.map_nil]
    rw [moved]
    have trail := Trail.single (.ran (Thread.handle_cases handles))
    exact trail.then_same ⟨Activation.stepPast_script _, Activation.stepPast_loops _⟩

theorem runCommands_trail {told : List Notice} {run : Run}
    (ran : runCommands runCallee fuel executed thread world told = some run) :
    Trail thread.root
      ((commandVisits runCallee fuel executed thread world).flatMap (momentsAt runCallee))
      run.thread.root := by
  induction fuel generalizing executed thread world told with
  | zero =>
      unfold runCommands at ran
      split at ran
      · cases ran
      · cases ran
        exact .rest (.refl _)
  | succ fuel inductionHypothesis =>
      cases able : thread.root.canStep with
      | false =>
          rw [runCommands_of_unable able] at ran
          rw [commandVisits_of_unable able]
          cases ran
          exact .rest (.refl _)
      | true =>
          cases executes : thread.execute world runCallee thread.root.pointer with
          | none =>
              simp only [runCommands, able, if_true, executes] at ran
              cases ran
          | some next =>
              rw [runCommands_step able executes] at ran
              rw [commandVisits_step able executes, List.flatMap_cons]
              have counted : next.thread.root.SameLoops
                  (next.thread.counted next.world.config (executed + 1)).root := by
                obtain ⟨_, _, _, equal⟩ :=
                  next.thread.root.counted_eq next.world.config (executed + 1)
                unfold Thread.counted
                rw [equal]
                exact ⟨rfl, rfl⟩
              exact (Thread.execute_trail able executes).append
                ((inductionHypothesis ran).of_same counted)

/-- A run that ends stays where it is, a repeating one starts over. -/
theorem Run.conclude_trail (run : Run) :
    Trail run.thread.root run.thread.root.restarts run.conclude.thread.root := by
  unfold Run.conclude
  split
  · rename_i ends
    rw [Activation.restarts_of_endsHere ends]
    exact .rest ⟨rfl, rfl⟩
  · have root : run.thread.restartAtEnd.root = run.thread.root.restarted := by
      unfold Thread.restartAtEnd Activation.restarted Thread.start
      split <;> rfl
    rw [root]
    exact run.thread.root.restarts_trail

theorem updateFrame_trail {activation : Activation} {update : Update}
    (updated : updateFrame fuel runCallee activation world = some update) :
    Trail activation (frameMoments fuel runCallee activation world) update.thread.root := by
  have begun := activation.restarts_trail
  unfold frameMoments
  dsimp only
  rcases updateFrame_cases updated with ⟨ends, rfl⟩ | ⟨goes, rest | ⟨moves, run, ran, rfl⟩⟩
  · simp only [ends, Bool.true_or, if_true, List.append_nil]
    rw [Activation.restarts_of_endsHere ends]
    exact .rest ⟨rfl, rfl⟩
  · obtain ⟨rests, _, _, thread⟩ := rest
    simp only [rests, Bool.or_true, if_true, List.append_nil]
    rcases thread with same | ⟨_, _, counted⟩
    · rw [same]
      exact begun
    · rw [counted]
      exact begun.then_same ⟨rfl, rfl⟩
  · simp only [goes, moves, Bool.or_false, Bool.false_eq_true, if_false, ran]
    have unparked : activation.restarted.SameLoops activation.restarted.unparked := by
      unfold Activation.unparked
      split <;> exact ⟨rfl, rfl⟩
    have entered := begun.then_same unparked
    exact entered.append ((runCommands_trail ran).append run.conclude_trail)

theorem Thread.update_trail {update : Update}
    (updated : thread.update fuel world = some update) :
    Trail thread.root (thread.moments fuel world) update.thread.root := by
  obtain ⟨root, callees⟩ := thread
  cases callees with
  | nil => exact updateFrame_trail (Thread.update_single updated).2
  | cons callee rest =>
      obtain ⟨_, _, _, ⟨_, thread, _⟩ | ⟨_, thread, _⟩⟩ := Thread.update_calling updated
      · rw [thread]
        exact .rest (.refl root)
      · rw [thread]
        exact .rest ⟨rfl, rfl⟩

theorem Thread.notify_trail {event : HostEvent} {run : Run}
    (accepted : thread.notify? world event = some run) :
    Trail thread.root (thread.momentsOf world event) run.thread.root := by
  obtain ⟨root, callees⟩ := thread
  cases callees with
  | nil =>
      obtain ⟨delivery, delivered, rfl⟩ := Option.map_eq_some_iff.mp accepted
      simp only [Thread.momentsOf, delivered, Option.toList_some, List.map_cons, List.map_nil]
      exact .single (.heard delivered)
  | cons callee rest =>
      obtain ⟨_, _, rfl⟩ := Option.map_eq_some_iff.mp accepted
      exact .rest (.refl root)

end Updates

/-! ## Loops that a jump has left -/

/-- The calls of a host, from the start of a run on, with the journal of the run. Each call
may find another world and grant another number of commands. -/
inductive Recorded (run : Activation) : List Moment → Thread → Prop where
  | begin : Recorded run [] { root := run.start }
  | start {journal : List Moment} {thread : Thread} (recorded : Recorded run journal thread) :
      Recorded run (journal ++ [.restarted thread.root]) thread.start
  | update {journal : List Moment} {thread : Thread} {fuel : Nat} {world : World}
      {update : Update} (recorded : Recorded run journal thread)
      (updated : thread.update fuel world = some update) :
      Recorded run (journal ++ thread.moments fuel world) update.thread
  | notify {journal : List Moment} {thread : Thread} {world : World} {event : HostEvent}
      {notified : Run} (recorded : Recorded run journal thread)
      (accepted : thread.notify? world event = some notified) :
      Recorded run (journal ++ thread.momentsOf world event) notified.thread

theorem Recorded.trail {run : Activation} {journal : List Moment} {thread : Thread}
    (recorded : Recorded run journal thread) : Trail run.start journal thread.root := by
  induction recorded with
  | begin => exact .rest (.refl _)
  | @start _ thread _ trail => exact trail.append (.single (.restarted thread.root))
  | update _ updated trail => exact trail.append (Thread.update_trail updated)
  | notify _ accepted trail => exact trail.append (Thread.notify_trail accepted)

/-- The step behind the current command settles on an indent further out: that of the next
command or, at the end of the script, one with no loop registered further inside. -/
def Activation.SettlesOn (activation : Activation) (level : Nat) : Prop :=
  level < activation.indent ∧
    match activation.script.command? (activation.pointer + 1) with
    | some next => next.indent = level
    | none => ∀ inner, level < inner → inner ≤ activation.indent →
        activation.loopStart? inner = none

/-- After a jump, and until the loop at `start` is entered anew, a step goes back to it
exactly if the loop was open when the run jumped, nothing has closed it since, and the step
settles on the indent of the loop. Where the jump led does not matter. -/
theorem Recorded.goesBackTo_iff {run : Activation} {earlier rest later : List Moment}
    {jump : Moment} {thread : Thread}
    (recorded : Recorded run (earlier ++ (jump :: rest ++ later)) thread) (jumps : jump.Jumps)
    {start : Nat} (elsewhere : ∀ moment ∈ rest, ¬ moment.Enters start) {step : Moment}
    (last : (jump :: rest).getLast? = some step) :
    step.GoesBackTo start ↔
      (jump.before.IsOpen start ∧ ∀ moment ∈ rest, ¬ moment.Closes start) ∧
        ∃ stepping, step.stepping? = some stepping ∧ start ≠ stepping.pointer + 1 ∧
          stepping.SettlesOn (stepping.script.indentAt start) := by
  obtain ⟨jumping, before, trail⟩ := recorded.trail.split
  obtain ⟨next, trail, _⟩ := trail.split
  have sound : step.after.LoopsSound := by
    have same := trail.sameLoops_of_last last
    have sound := (before.append trail).loopsSound (Activation.inPlace_start run).loops
    exact sound.congr same.script.symm same.loops.symm
  have isOpen : step.after.IsOpen start ↔
      jump.before.IsOpen start ∧ ∀ moment ∈ rest, ¬ moment.Closes start := by
    rw [← (trail.sameLoops_of_last last).isOpen_iff]
    -- The jump itself keeps the table, so the loop is as open behind it as before.
    cases trail with
    | step _ lawful trail =>
        rw [trail.isOpen_iff elsewhere, lawful.isOpen_iff jumps.keeps.1,
          and_iff_left jumps.keeps.2]
  rw [← isOpen]
  constructor
  · rintro ⟨stepping, steps, apart, back⟩
    obtain ⟨rfl, free⟩ := Moment.eq_after_of_stepping? steps
    obtain ⟨isOpen, settles⟩ := (Activation.stepPast_goesTo_iff sound free apart).mp back
    exact ⟨isOpen, _, steps, apart, settles⟩
  · rintro ⟨isOpen, stepping, steps, apart, settles⟩
    obtain ⟨rfl, free⟩ := Moment.eq_after_of_stepping? steps
    exact ⟨_, steps, apart,
      (Activation.stepPast_goesTo_iff sound free apart).mpr ⟨isOpen, settles⟩⟩

/-- A loop that a jump leaves, and behind the label a block that has nothing to do with it. -/
def leftLoop : Script where
  commands := #[{ id := "Loop" },
    { id := "JumpToLabel", indent := 1, params := .record [("name", .text "out")] },
    { id := "Label", params := .record [("name", .text "out")] },
    { id := "ConditionElse" },
    { id := "EraseMessage", indent := 1 },
    { id := "EraseMessage" }]
  instructions := #[some .loop, some (.jumpToLabel (some "out")), some .label,
    some .conditionElse, some .eraseMessage, some .eraseMessage]
  labels := Registry.insert {} "out" 2
  jumpTargets := #[none, some 2, none, none, none, none]

/-- The run of `leftLoop` once it has entered the loop. -/
def leavingLoop (pointer indent : Nat) : Activation :=
  { context := { id := "scene" }, script := leftLoop, pointer, indent, loops := #[some 0],
    isRunning := true }

/-- A world that lets a script execute four commands in an update. -/
private def fourCommandsWorld : World :=
  { World.empty with config := { commandBudget := some 4 } }

/-- The loop, the jump, and the block behind the label up to its last command. -/
private theorem leavingLoop_frame (runCallee : CalleeRunner) :
    (∃ update,
        updateFrame 4 runCallee (leavingLoop 0 0).start fourCommandsWorld = some update) ∧
      frameMoments 4 runCallee (leavingLoop 0 0).start fourCommandsWorld =
          [.ran (leavingLoop 0 0).start (leavingLoop 0 1),
            .ran (leavingLoop 1 1) (leavingLoop 2 0),
            .ran (leavingLoop 3 0) (leavingLoop 3 1),
            .ran (leavingLoop 4 1) (leavingLoop 4 1)] :=
  ⟨⟨_, rfl⟩, rfl⟩

private theorem leavingLoop_recorded : ∃ thread, Recorded (leavingLoop 0 0)
    ([.ran (leavingLoop 0 0).start (leavingLoop 0 1)] ++
      (.ran (leavingLoop 1 1) (leavingLoop 2 0) ::
        [.ran (leavingLoop 3 0) (leavingLoop 3 1), .ran (leavingLoop 4 1) (leavingLoop 4 1)] ++
      [])) thread := by
  let begun : Thread := { root := (leavingLoop 0 0).start }
  obtain ⟨⟨update, ran⟩, moments⟩ := leavingLoop_frame (begun.calleeRunner 4)
  have updated : begun.update 4 fourCommandsWorld = some update := by
    rw [Thread.update_eq (by decide)]
    exact ran
  have recorded := Recorded.update .begin updated
  rw [Thread.moments, moments] at recorded
  exact ⟨_, recorded⟩

private theorem leavingLoop_jumps :
    Moment.Jumps (.ran (leavingLoop 1 1) (leavingLoop 2 0)) := ⟨some "out", rfl, rfl⟩

private theorem leavingLoop_elsewhere : ∀ moment ∈ ([.ran (leavingLoop 3 0) (leavingLoop 3 1),
    .ran (leavingLoop 4 1) (leavingLoop 4 1)] : List Moment), ¬ moment.Enters 0 := by
  refine List.forall_mem_cons.mpr ⟨?_, List.forall_mem_singleton.mpr ?_⟩
  · exact fun ⟨here, _⟩ => absurd here (by decide)
  · exact fun ⟨here, _⟩ => absurd here (by decide)

/-- The end of the block behind the label leads back to the loop, which was open at the jump
and which neither command of the block closes. -/
theorem leavingLoop_goesBack :
    ∃ thread earlier jump rest step,
      Recorded (leavingLoop 0 0) (earlier ++ (jump :: rest ++ [])) thread ∧ jump.Jumps ∧
        (∀ moment ∈ rest, ¬ moment.Enters 0) ∧ (jump :: rest).getLast? = some step ∧
        jump.before.IsOpen 0 ∧ (∀ moment ∈ rest, ¬ moment.Closes 0) ∧ step.GoesBackTo 0 := by
  obtain ⟨thread, recorded⟩ := leavingLoop_recorded
  have stays : ∀ moment ∈ ([.ran (leavingLoop 3 0) (leavingLoop 3 1),
      .ran (leavingLoop 4 1) (leavingLoop 4 1)] : List Moment), ¬ moment.Closes 0 := by
    refine List.forall_mem_cons.mpr ⟨?_, List.forall_mem_singleton.mpr ?_⟩
    · rintro ⟨_, ⟨_, decoded⟩, closes⟩
      cases decoded
      exact closes
    · rintro ⟨_, ⟨_, decoded⟩, closes⟩
      cases decoded
      exact closes
  refine ⟨thread, _, _, _, _, recorded, leavingLoop_jumps, leavingLoop_elsewhere, rfl, rfl,
    stays, ?_⟩
  exact (recorded.goesBackTo_iff leavingLoop_jumps leavingLoop_elsewhere rfl).mpr
    ⟨⟨rfl, stays⟩, _, rfl, by decide, by decide, rfl⟩

/-- A run goes back to a loop that it has left by a jump. -/
theorem not_always_abandoned :
    ¬ ∀ (run : Activation) (earlier rest later : List Moment) (jump step : Moment)
      (thread : Thread) (start : Nat),
      Script.compile run.script.commands.toList = .ok run.script →
      Recorded run (earlier ++ (jump :: rest ++ later)) thread →
      (∃ moment ∈ earlier, moment.Enters start) → jump.Jumps →
      run.script.instruction? jump.after.pointer = some .label →
      ¬ run.script.Surrounds start jump.after.pointer →
      (∀ moment ∈ rest, ¬ moment.Enters start) → (jump :: rest).getLast? = some step →
      ¬ step.GoesBackTo start := by
  intro abandoned
  obtain ⟨thread, recorded⟩ := leavingLoop_recorded
  have entered : ∃ moment ∈ ([.ran (leavingLoop 0 0).start (leavingLoop 0 1)] : List Moment),
      moment.Enters 0 := ⟨_, List.mem_singleton_self _, rfl, rfl, rfl⟩
  refine abandoned (leavingLoop 0 0) _ _ _ _ _ thread 0 rfl recorded entered leavingLoop_jumps
    rfl ?_ leavingLoop_elsewhere rfl ⟨_, rfl, by decide, rfl⟩
  show ¬ leftLoop.Surrounds 0 2
  decide

end NovelEngine
