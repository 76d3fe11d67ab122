import NovelEngine.Proofs.Endings
import NovelEngine.Proofs.Pacing

/-!
Contract: what fast-forward changes about a script that ends.

Owns:
- threads whose host updates them and dismisses their messages until they end;
- the simulation of a run that skips its waits by the same run at another pace.

Does not own: scripts that do not end within one update when waits are skipped.

Where the run that skips its waits goes on, the other one may linger: it counts down, reads a
message, or waits for a called script that lingers. Each of these waits leaves it where the
first run stands, in a world that differs in its pace only. The host sees the innermost run of
the thread, at whatever depth it lingers.
-/

namespace NovelEngine

/-! ## The host -/

/-- A message that is dismissed may be cleared, and that is all. -/
theorem Activation.deliver?_dismissed_unpaced {activation : Activation} {world : World}
    {delivery : Delivery}
    (delivered : activation.deliver? world .messageDismissed = some delivery) :
    delivery.world.unpaced = world.unpaced := by
  unfold deliver? at delivered
  cases waiting : activation.waitingFor with
  | none =>
      rw [waiting] at delivered
      cases delivered
  | some reason =>
      rw [waiting] at delivered
      cases reason with
      | message =>
          cases delivered
          exact activation.eraseIfAutomatic_unpaced world
      | _ => cases delivered

namespace Thread

/-- What the host does between two updates: it dismisses the message that is waited for. -/
def attended (thread : Thread) (world : World) : Run :=
  match thread.pendingWait with
  | some .message => (thread.notify? world .messageDismissed).getD { thread, world }
  | _ => { thread, world }

/-- The thread comes to its end in the last of `count` updates, which leads to `last`, with a
host that attends to it. -/
inductive PlaysOut (fuel : Nat) : Nat → Thread → World → Update → Prop where
  | now {thread : Thread} {world : World} {update : Update}
      (updated : thread.update fuel world = some update)
      (finished : update.progress = .finished) : PlaysOut fuel 1 thread world update
  | later {count : Nat} {thread : Thread} {world : World} {update last : Update}
      (updated : thread.update fuel world = some update)
      (running : update.progress = .running)
      (rest : PlaysOut fuel count (update.thread.attended update.world).thread
        (update.thread.attended update.world).world last) :
      PlaysOut fuel (count + 1) thread world last

variable {root : Activation} {world : World}

theorem attended_of_quiet (quiet : root.waitingFor = none) (world : World) :
    Thread.attended { root } world = { thread := { root }, world } := by
  have pending : Thread.pendingWait { root } = none := quiet
  unfold attended
  rw [pending]

/-- A run that reads goes on where it stands, and the box may be cleared. -/
theorem attended_reads (awake : root.IsAwake) (world : World) :
    Thread.attended { root := root.waitUntil .message } world =
      { thread := { root }, world := root.eraseIfAutomatic world } := by
  have back : (root.waitUntil .message).clearWait = root := by
    unfold Activation.clearWait Activation.waitUntil
    rw [← awake.waiting, ← awake.counter, ← awake.reason]
  show Run.mk { root := (root.waitUntil .message).clearWait } _ _ = _
  rw [back]
  rfl

/-- The host attends to a called script as to a script of its own. -/
theorem attended_under (root : Activation) (thread : Thread) (world : World) :
    (Thread.attended { root, callees := thread.chain } world).thread =
        { root, callees := (thread.attended world).thread.chain } ∧
      (Thread.attended { root, callees := thread.chain } world).world =
        (thread.attended world).world := by
  have pending : Thread.pendingWait { root, callees := thread.chain } = thread.pendingWait :=
    congrArg Activation.waitingFor (Thread.innermost_cons root thread.root thread.callees)
  have notified : Thread.notify? { root, callees := thread.chain } world .messageDismissed =
      (thread.notify? world .messageDismissed).map (fun run =>
        { run with thread := { root, callees := run.thread.chain } }) := rfl
  unfold attended
  rw [pending, notified]
  split
  · cases thread.notify? world .messageDismissed <;> exact ⟨rfl, rfl⟩
  · exact ⟨rfl, rfl⟩

theorem notify?_dismissed_unpaced {thread : Thread} {run : Run}
    (notified : thread.notify? world .messageDismissed = some run) :
    run.world.unpaced = world.unpaced := by
  obtain ⟨root, callees⟩ := thread
  induction callees generalizing root run with
  | nil =>
      obtain ⟨delivery, delivered, rfl⟩ := Option.map_eq_some_iff.mp notified
      exact Activation.deliver?_dismissed_unpaced delivered
  | cons callee rest inductionHypothesis =>
      obtain ⟨inner, reached, rfl⟩ := Option.map_eq_some_iff.mp notified
      have same := inductionHypothesis callee reached
      exact same

theorem attended_unpaced (thread : Thread) (world : World) :
    (thread.attended world).world.unpaced = world.unpaced := by
  unfold attended
  split
  · cases notified : thread.notify? world .messageDismissed with
    | none => rfl
    | some run => exact notify?_dismissed_unpaced notified
  · rfl

/-- The host does the same whatever the bookkeeping. -/
theorem Alike.attended {left right : Thread} (alike : left.Alike right) (world : World) :
    (left.attended world).thread.Alike (right.attended world).thread ∧
      (right.attended world).world = (left.attended world).world := by
  have pending : right.pendingWait = left.pendingWait := by
    obtain ⟨_, _, _, _, rfl⟩ := alike
    obtain ⟨root, callees⟩ := left
    cases callees with
    | nil => rfl
    | cons callee rest =>
        exact congrArg Activation.waitingFor ((innermost_cons _ callee rest).trans
          (innermost_cons root callee rest).symm)
  have notified := alike.notify world .messageDismissed
  unfold Thread.attended
  rw [pending]
  split
  · generalize left.notify? world .messageDismissed = first at notified
    generalize right.notify? world .messageDismissed = second at notified
    cases notified with
    | none => exact ⟨alike, rfl⟩
    | some same => exact ⟨same.thread, same.world⟩
  · exact ⟨alike, rfl⟩

namespace PlaysOut

variable {fuel count more : Nat} {last final : Update}

/-- A caller waits until the script that it called has ended, and goes on from there. -/
theorem under {thread : Thread} (inner : thread.PlaysOut fuel count world last)
    (root : Activation)
    (outer : PlaysOut fuel more { root := root.clearWait }
      (last.world.deactivate last.thread.root.context.id) final) :
    PlaysOut fuel (count + more) { root, callees := thread.chain } world final := by
  induction inner with
  | @now thread world update updated finished =>
      rw [Nat.add_comm]
      refine .later (Thread.update_under updated root) rfl ?_
      simp only [receive, finished]
      rw [attended_of_quiet rfl]
      exact outer
  | @later count thread world update last updated running rest inductionHypothesis =>
      rw [Nat.add_right_comm]
      refine .later (Thread.update_under updated root) rfl ?_
      simp only [receive, running]
      obtain ⟨attended, after⟩ := attended_under root update.thread update.world
      rw [Thread.chain] at attended after
      rw [attended, after]
      exact inductionHypothesis outer

/-- Without a preview the bookkeeping does not matter. -/
theorem alike {left right : Thread} (plays : left.PlaysOut fuel count world last)
    (alike : left.Alike right) (off : world.config.preview = false) :
    ∃ other, right.PlaysOut fuel count world other ∧ last.Alike other := by
  induction plays generalizing right with
  | now updated finished =>
      obtain ⟨other, ran, same⟩ := alike.update_some off updated
      exact ⟨other, .now ran (same.progress.trans finished), same⟩
  | @later count thread world update last updated running _ inductionHypothesis =>
      obtain ⟨other, ran, same⟩ := alike.update_some off updated
      obtain ⟨attended, world⟩ := same.thread.attended update.world
      have stays : (update.thread.attended update.world).world.config.preview = false := by
        rw [World.preview_of_unpaced (attended_unpaced update.thread update.world),
          Thread.update_config updated]
        exact off
      obtain ⟨final, ends, sameEnd⟩ := inductionHypothesis attended stays
      refine ⟨final, .later ran (same.progress.trans running) ?_, sameEnd⟩
      rw [same.world, world]
      exact ends

end PlaysOut

end Thread

/-- The update has ended its thread, or the thread plays out after it. -/
inductive Update.PlaysTo (fuel : Nat) (update : Update) : Update → Prop where
  | done (finished : update.progress = .finished) : Update.PlaysTo fuel update update
  | later {count : Nat} {last : Update} (running : update.progress = .running)
      (rest : Thread.PlaysOut fuel count (update.thread.attended update.world).thread
        (update.thread.attended update.world).world last) : Update.PlaysTo fuel update last

theorem Update.PlaysTo.playsOut {fuel : Nat} {update last : Update}
    (plays : update.PlaysTo fuel last) {thread : Thread} {world : World}
    (updated : thread.update fuel world = some update) :
    ∃ count, thread.PlaysOut fuel count world last := by
  cases plays with
  | done finished => exact ⟨1, .now updated finished⟩
  | later running rest => exact ⟨_, .later updated running rest⟩

/-- Two updates end alike: the runs differ in their bookkeeping only, and the worlds in their
pace. -/
structure Update.SameClose (left right : Update) : Prop where
  root : ∃ preview completions,
    right.thread.root = left.thread.root.tallied preview completions
  world : right.world.unpaced = left.world.unpaced

namespace Update.SameClose

theorem alike {left middle right : Update} (same : left.SameClose middle)
    (alike : middle.Alike right) : left.SameClose right where
  root := alike.root same.root
  world := by
    rw [alike.world]
    exact same.world

theorem finish (thread : Thread) {world other : World} (same : other.unpaced = world.unpaced)
    (told heard : List Notice) :
    (thread.finish world told).SameClose (thread.finish other heard) where
  root := ⟨_, _, rfl⟩
  world := by
    show (other.releaseBox thread.root.context).unpaced =
      (world.releaseBox thread.root.context).unpaced
    rw [World.releaseBox_unpaced, World.releaseBox_unpaced, same]

theorem returned {left right : Update} (same : left.SameClose right) :
    (right.world.deactivate right.thread.root.context.id).unpaced =
      (left.world.deactivate left.thread.root.context.id).unpaced := by
  obtain ⟨_, _, root⟩ := same.root
  rw [root]
  exact congrArg (World.deactivate · left.thread.root.context.id) same.world

end Update.SameClose

/-! ## Runs between two commands -/

namespace Activation

/-- A run that waits for nothing and ends at its end. -/
structure Poised (activation : Activation) : Prop where
  awake : activation.IsAwake
  running : activation.isRunning = true
  once : activation.repeats = false

variable {activation : Activation}

theorem Poised.ready (poised : activation.Poised) : activation.IsReady where
  running := poised.running
  counter := poised.awake.counter
  free := poised.awake.box
  once := poised.once

theorem Poised.stepPast (poised : activation.Poised) : activation.stepPast.Poised := by
  obtain ⟨_, _, moved⟩ := activation.stepPast_eq
  rw [moved]
  exact ⟨poised.awake.congr rfl rfl rfl rfl, poised.running, poised.once⟩

/-- A called script has just been started and does not repeat. -/
theorem poised_callee {world : World} {id : String} {instruction : Instruction}
    {callee : Activation}
    (called : (activation.perform world id instruction).callee = some callee) :
    callee.Poised := by
  obtain ⟨⟨context, script, rfl⟩, _⟩ := perform_call called
  exact ⟨isAwake_start _, rfl, rfl⟩

theorem Lingers.stepPast {held : Activation} (lingers : activation.Lingers held) :
    activation.stepPast.Lingers held.stepPast := by
  obtain ⟨_, _, moved⟩ := activation.stepPast_eq
  cases lingers with
  | goesOn => exact .goesOn
  | counts positive =>
      rw [stepPast_wait]
      exact .counts positive
  | reads =>
      have waits : (activation.waitUntil .message).stepPast =
          activation.stepPast.waitUntil .message := by
        have held := activation.stepPast_of_wait true activation.waitCounter (some .message)
        rw [moved] at held ⊢
        exact held
      rw [waits]
      exact .reads

theorem Lingers.eq_of_awake {held : Activation} (lingers : activation.Lingers held)
    (awake : held.isWaiting = false) : held = activation := by
  cases lingers with
  | goesOn => rfl
  | counts positive => exact absurd positive (of_decide_eq_false awake)
  | reads => cases awake

end Activation

theorem Handling.poised {runCallee : CalleeRunner} {root : Activation} {world after : World}
    {next : Thread} (handling : Handling runCallee { root } world next after)
    (poised : root.Poised) (awake : next.root.isWaiting = false) : next.root.Poised := by
  have ready := handling.ready poised.ready awake
  exact ⟨(handling.waits poised.awake rfl).1.isAwake awake, ready.running, ready.once⟩

/-! ## Going on after a wait -/

/-- The commands of this update end the run as `target` says, or it plays out to that end. -/
def CommandsPlay (fuel room more executed : Nat) (root : Activation) (world : World)
    (told : List Notice) (target : Update) : Prop :=
  ∃ update last,
    (runCommands (advance fuel room) more executed { root } world told).map Run.conclude =
      some update ∧ update.PlaysTo fuel last ∧ target.SameClose last

/-- From here on the commands of the run lead to the same end at every pace, and whatever
commands the update has executed so far. -/
def PlaysFrom (fuel room amount : Nat) (root : Activation) (world : World) (target : Update) :
    Prop :=
  ∀ other, other.unpaced = world.unpaced → ∀ more, amount ≤ more → ∀ executed told,
    CommandsPlay fuel room more executed root other told target

namespace PlaysFrom

variable {fuel room amount : Nat} {root : Activation} {world other : World} {target : Update}

/-- A run that is poised plays out. -/
theorem playsOut (playsFrom : PlaysFrom fuel room amount root world target)
    (poised : root.Poised) (roomy : root.callRoom = room + 1) (enough : amount ≤ fuel)
    (same : other.unpaced = world.unpaced) :
    ∃ count last, Thread.PlaysOut fuel count { root } other last ∧ target.SameClose last := by
  obtain ⟨update, last, ran, plays, sameClose⟩ :=
    playsFrom (other.resetTemporaries root.context) same fuel enough 0 []
  have updated := (Thread.update_of_ready poised.ready roomy fuel other).trans ran
  obtain ⟨count, playsOut⟩ := plays.playsOut updated
  exact ⟨count, last, playsOut, sameClose⟩

/-- A run that counts down plays out. -/
theorem playsOut_wait (playsFrom : PlaysFrom fuel room amount root world target)
    (poised : root.Poised) (roomy : root.callRoom = room + 1) (enough : amount ≤ fuel)
    (frames : Nat) (same : other.unpaced = world.unpaced) :
    ∃ count last, Thread.PlaysOut fuel count { root := root.wait frames } other last ∧
      target.SameClose last := by
  induction frames generalizing other with
  | zero =>
      rw [Activation.wait_zero poised.awake.waiting poised.awake.counter]
      exact playsFrom.playsOut poised roomy enough same
  | succ frames inductionHypothesis =>
      have updated := Thread.update_wait poised.running (by omega) frames fuel other
      have later : (other.resetTemporaries root.context).unpaced = world.unpaced := same
      obtain ⟨count, last, playsOut, sameClose⟩ := inductionHypothesis later
      have quiet : (root.wait frames).waitingFor = none := poised.awake.reason
      refine ⟨count + 1, last, .later updated rfl ?_, sameClose⟩
      rw [Thread.attended_of_quiet quiet]
      exact playsOut

/-- So does a run that lingers, once the host has attended to it. -/
theorem playsOut_lingers (playsFrom : PlaysFrom fuel room amount root world target)
    (poised : root.Poised) (roomy : root.callRoom = room + 1) (enough : amount ≤ fuel)
    {held : Activation} (lingers : root.Lingers held) (same : other.unpaced = world.unpaced) :
    ∃ count last, Thread.PlaysOut fuel count (Thread.attended { root := held } other).thread
      (Thread.attended { root := held } other).world last ∧ target.SameClose last := by
  cases lingers with
  | goesOn =>
      rw [Thread.attended_of_quiet poised.awake.reason]
      exact playsFrom.playsOut poised roomy enough same
  | @counts frames =>
      have quiet : (root.wait frames).waitingFor = none := poised.awake.reason
      rw [Thread.attended_of_quiet quiet]
      exact playsFrom.playsOut_wait poised roomy enough _ same
  | reads =>
      rw [Thread.attended_reads poised.awake]
      exact playsFrom.playsOut poised roomy enough
        ((root.eraseIfAutomatic_unpaced other).trans same)

/-- A run at its end ends at every pace. -/
theorem of_end (ends : root.endsHere = true) (told : List Notice) :
    PlaysFrom fuel room amount root world
      (Run.conclude { thread := { root }, world, notices := told }) := by
  have unable := Activation.canStep_of_isAtEnd (Activation.isAtEnd_of_endsHere ends)
  intro other same more _ executed told
  unfold CommandsPlay
  rw [runCommands_of_unable unable]
  simp only [Option.map_some, Run.conclude, ends, if_true]
  exact ⟨_, _, rfl, .done rfl, .finish { root } same _ _⟩

section Commands

variable {next : Activation} (playsFrom : PlaysFrom fuel room amount next.stepPast world target)
  (off : world.config.preview = false) (poised : next.Poised)
  (roomy : next.callRoom = room + 1) (enough : amount ≤ fuel) (able : root.canStep = true)
  (plain : other.config.preview = false) {handled : Run}
  (handles : Thread.handle { root } other (advance fuel room) = some handled)
  {more : Nat}

include playsFrom off poised roomy enough able plain handles

/-- After a command the run goes on, in this update or after it has lingered. -/
theorem command {held : Activation} (lingers : next.Lingers held)
    (unpaused : held.preview.waiting = false) (thread : handled.thread = { root := held })
    (same : handled.world.unpaced = world.unpaced) (ample : amount ≤ more)
    (executed : Nat) (told : List Notice) :
    CommandsPlay fuel room (more + 1) executed root other told target := by
  have able : Activation.canStep (Thread.root { root }) = true := able
  have off : handled.world.config.preview = false :=
    (World.preview_of_unpaced same).trans off
  have roomy := next.stepPast_sameRun.callRoom.trans roomy
  unfold CommandsPlay
  rw [runCommands_step able (Thread.execute_of_handle plain handles), thread]
  cases waiting : held.stepPast.isWaiting with
  | false =>
      have goesOn := lingers.stepPast.eq_of_awake waiting
      rw [goesOn] at waiting ⊢
      rcases Activation.counted_of_awake off waiting (executed + 1) with stays | yields
      · simp only [Thread.counted, stays]
        exact playsFrom handled.world same more ample _ _
      · obtain ⟨count, last, plays, sameClose⟩ := playsFrom.playsOut_lingers poised.stepPast roomy
          enough (.counts Nat.one_pos) same
        simp only [Thread.counted, yields]
        rw [runCommands_of_waiting rfl]
        exact ⟨_, last, rfl, .later rfl plays, sameClose⟩
  | true =>
      obtain ⟨count, last, plays, sameClose⟩ :=
        playsFrom.playsOut_lingers poised.stepPast roomy enough lingers.stepPast same
      have unpausedToo : held.stepPast.preview.waiting = false := by
        obtain ⟨_, _, moved⟩ := held.stepPast_eq
        rw [moved]
        exact unpaused
      have alike := Thread.alike_counted waiting unpausedToo handled.world.config (executed + 1)
      obtain ⟨attended, world⟩ := alike.attended handled.world
      obtain ⟨final, playsToo, sameToo⟩ := plays.alike attended
        ((World.preview_of_unpaced (Thread.attended_unpaced _ _)).trans off)
      rw [← world] at playsToo
      rw [runCommands_of_waiting (Activation.counted_isWaiting waiting _ _)]
      exact ⟨_, final, rfl, .later rfl playsToo, sameClose.alike sameToo⟩

/-- A caller waits for a script that lingers, and goes on when it has played out. -/
theorem called {caller : Activation} (waiting : caller.isWaiting = true)
    (returns : caller.clearWait = next) (unpaused : caller.preview.waiting = false)
    {callee : Thread} (thread : handled.thread = { root := caller, callees := callee.chain })
    {count : Nat} {last : Update}
    (rest : Thread.PlaysOut fuel count (callee.attended handled.world).thread
      (callee.attended handled.world).world last)
    (same : (last.world.deactivate last.thread.root.context.id).unpaced = world.unpaced)
    (executed : Nat) (told : List Notice) :
    CommandsPlay fuel room (more + 1) executed root other told target := by
  have able : Activation.canStep (Thread.root { root }) = true := able
  subst returns
  have suspended : caller.stepPast.isWaiting = true := caller.stepPast_isWaiting.trans waiting
  have roomy := caller.clearWait.stepPast_sameRun.callRoom.trans roomy
  obtain ⟨_, _, plays, sameClose⟩ := playsFrom.playsOut poised.stepPast roomy enough same
  have alike := Thread.alike_returned waiting unpaused handled.world.config (executed + 1)
  obtain ⟨final, plays, sameToo⟩ :=
    plays.alike alike ((World.preview_of_unpaced same).trans off)
  have waits := rest.under (caller.stepPast.counted handled.world.config (executed + 1)) plays
  obtain ⟨attended, after⟩ := Thread.attended_under
    (caller.stepPast.counted handled.world.config (executed + 1)) callee handled.world
  rw [← attended, ← after] at waits
  unfold CommandsPlay
  rw [runCommands_step able (Thread.execute_of_handle plain handles), thread,
    runCommands_of_waiting (Activation.counted_isWaiting suspended _ _)]
  exact ⟨_, final, rfl, .later rfl waits, sameClose.alike sameToo⟩

end Commands

/-- A command that calls a script: the run goes on when the script has ended, be it in this
update or in a later one. -/
theorem call {command : Command} {instruction : Instruction} {callee : Activation}
    {update last : Update} {count more : Nat}
    (playsFrom : PlaysFrom fuel room amount (root.waitUntil .callee).clearWait.stepPast
      (update.world.deactivate update.thread.root.context.id) target)
    (off : update.world.config.preview = false) (plain : other.config.preview = false)
    (poised : root.Poised) (roomy : root.callRoom = room + 1) (enough : amount ≤ fuel)
    (able : root.canStep = true)
    (found : root.script.command? root.pointer = some command)
    (current : command.indent = root.indent)
    (decoded : root.script.instruction? root.pointer = some instruction)
    (called : (root.perform other command.id instruction).callee = some callee)
    (inside : callee.callRoom = room)
    (plays : Thread.PlaysOut fuel count { root := callee }
      (root.perform other command.id instruction).world last)
    (sameClose : update.SameClose last) (ample : amount ≤ more) (executed : Nat)
    (told : List Notice) : CommandsPlay fuel room (more + 1) executed root other told target := by
  have unpaused : root.preview.waiting = false := Activation.unpaused_of_canStep able
  have back : (root.waitUntil .callee).clearWait.Poised :=
    ⟨⟨rfl, rfl, rfl, poised.awake.box⟩, poised.running, poised.once⟩
  cases plays with
  | now updated finished =>
      have ran : advance fuel room callee (root.perform other command.id instruction).world =
          some last := inside ▸ updated
      obtain ⟨handled, handles, thread, world⟩ :=
        Thread.handle_call found current decoded called ran
      simp only [receive, finished] at thread world
      exact playsFrom.command off back roomy enough able plain handles .goesOn unpaused thread
        (world ▸ sameClose.returned) ample executed told
  | @later _ _ _ lingering _ updated running rest =>
      have ran : advance fuel room callee (root.perform other command.id instruction).world =
          some lingering := inside ▸ updated
      obtain ⟨handled, handles, thread, world⟩ :=
        Thread.handle_call found current decoded called ran
      simp only [receive, running] at thread world
      exact playsFrom.called off back roomy enough able plain handles rfl rfl unpaused
        thread (world ▸ rest) sameClose.returned executed told

end PlaysFrom

/-! ## The simulation -/

/-- A called script that ends within one update plays out at every other pace, and ends
alike. -/
def CalleesPlayOut (fuel room : Nat) : Prop :=
  ∀ callee world update, callee.Poised → callee.callRoom = room →
    world.config.preview = false → world.config.commandBudget = none →
    advance fuel room callee world = some update → update.progress = .finished →
    AvoidsTemporaries (advanceHappenings fuel room callee world) →
    ∀ other, other.unpaced = world.unpaced → ∃ count last,
      Thread.PlaysOut fuel count { root := callee } other last ∧ update.SameClose last

section Simulation

variable {fuel room : Nat} {root : Activation} {world : World} {target : Update}

/-- The step of the simulation: one command, with the script that it calls. -/
theorem PassesOn.paced (inner : CalleesPlayOut fuel room) {next : Activation} {after : World}
    {amount : Nat} (passes : PassesOn fuel room root world next after) (poised : root.Poised)
    (enough : amount ≤ fuel) (playsFrom : PlaysFrom fuel room amount next.stepPast after target) :
    PlaysFrom fuel room (amount + 1) root world target := by
  have poisedNext : next.Poised := passes.handling.poised poised passes.awake
  intro other same more ample executed told
  obtain ⟨more, rfl⟩ : ∃ less, more = less + 1 := ⟨more - 1, by omega⟩
  have ample : amount ≤ more := by omega
  have plain : other.config.preview = false := (World.preview_of_unpaced same).trans passes.off
  cases passes.handling with
  | @skip command found differs =>
      exact playsFrom.command passes.offAfter poisedNext passes.roomyNext enough passes.able plain
        (Thread.handle_skip found differs) .goesOn passes.unpaused rfl same ample executed told
  | @ignore command found current unknown =>
      exact playsFrom.command passes.offAfter poisedNext passes.roomyNext enough passes.able plain
        (Thread.handle_unknown found current unknown) .goesOn passes.unpaused rfl same ample
        executed told
  | @perform command instruction _ found current decoded performed alone =>
      subst performed
      have paces := root.perform_paces poised.awake same
        (passes.avoids_instruction found current decoded) (fun _ => passes.awake)
      obtain ⟨notices, handles⟩ := @Thread.handle_alone (advance fuel room) root other _ found _
        current decoded (paces.callee.trans alone)
      have effect := root.perform_effect other command.id instruction
      exact playsFrom.command passes.offAfter poisedNext passes.roomyNext enough passes.able plain
        handles paces.activation (effect.aside.2 ▸ passes.unpaused) rfl paces.world ample executed
        told
  | @callThrough command instruction _ callee update found current decoded performed called
      ran finished =>
      subst performed
      have paces := root.perform_paces poised.awake same
        (passes.avoids_instruction found current decoded)
        (fun alone => by rw [called] at alone; cases alone)
      have waits := (Activation.perform_call called).2
      have config := root.perform_config world command.id instruction
      have inside := passes.callRoom_callee called
      obtain ⟨count, last, playsOut, sameClose⟩ := inner callee _ update
        (Activation.poised_callee called) inside (config ▸ passes.off) (config ▸ passes.unlimited)
        ran finished (passes.avoids_callee found current decoded called)
        (root.perform other command.id instruction).world paces.world
      rw [waits] at playsFrom
      exact playsFrom.call passes.offAfter plain poised passes.roomy enough passes.able found
        current decoded (paces.callee.trans called) inside playsOut sameClose ample executed told

/-- The commands of an update that ends the run lead to the same end at every other pace. -/
theorem runCommands_paced (inner : CalleesPlayOut fuel room) {amount executed : Nat}
    {told : List Notice} {run : Run} (off : world.config.preview = false)
    (unlimited : world.config.commandBudget = none) (poised : root.Poised)
    (roomy : root.callRoom = room + 1) (enough : amount ≤ fuel)
    (ran : runCommands (advance fuel room) amount executed { root } world told = some run)
    (ends : run.thread.root.endsHere = true)
    (avoids : AvoidsTemporaries
      ((commandVisits (advance fuel room) amount executed { root } world).flatMap
        (happeningsAt (advanceHappenings fuel room)))) :
    PlaysFrom fuel room amount root world run.conclude := by
  refine PassesOn.backwards Activation.Poised
    (fun amount root world => PlaysFrom fuel room amount root world run.conclude) ?_ ?_ ?_ off
    unlimited poised roomy enough ran ends avoids
  · intro root world next after passes poised
    exact (passes.handling.poised poised passes.awake).stepPast
  · intro amount root world told ends same
    rw [same]
    exact .of_end ends told
  · intro amount root world next after passes poised enough rest
    exact passes.paced inner poised enough rest

theorem calleesPlayOut (fuel room : Nat) : CalleesPlayOut fuel room := by
  induction room with
  | zero =>
      intro callee world update _ _ _ _ ran
      cases ran
  | succ room inductionHypothesis =>
      intro callee world update poised roomy off unlimited ran finished avoids other same
      have ready := poised.ready
      have frame := updateFrame_of_ready ready fuel (advance fuel room) world
      have updated : updateFrame fuel (advance fuel room) callee world = some update := ran
      rw [frame] at updated
      obtain ⟨run, executed, rfl⟩ := Option.map_eq_some_iff.mp updated
      have ends : run.thread.root.endsHere = true := by
        unfold Run.conclude at finished
        split at finished
        · assumption
        · cases finished
      have begun : (world.resetTemporaries callee.context).config.preview = false := off
      have playsFrom := runCommands_paced inductionHypothesis begun unlimited poised roomy
        (Nat.le_refl fuel) executed ends ?_
      · exact playsFrom.playsOut poised roomy (Nat.le_refl fuel) same
      · rw [← frameVisits_of_ready ready]
        exact avoids

end Simulation

/-! ## Skipping -/

def World.withSkip (world : World) (skip : Skip) : World :=
  { world with skip }

/-- Two worlds agree in their variables, temporary ones aside, in what is on stage and what
is heard, in the lines that were spoken and in the events that are running. -/
structure World.SameState (left right : World) : Prop where
  locals : right.store.locals = left.store.locals
  global : right.store.global = left.store.global
  persistent : right.store.persistent = left.store.persistent
  stage : right.stage = left.stage
  mixer : right.mixer = left.mixer
  backlog : right.box.backlog = left.box.backlog
  active : right.board.active = left.board.active

theorem Update.SameClose.sameState {left right : Update} (same : left.SameClose right) :
    left.world.SameState right.world where
  locals := (congrArg (fun world => world.store.locals) same.world :)
  global := (congrArg (fun world => world.store.global) same.world :)
  persistent := (congrArg (fun world => world.store.persistent) same.world :)
  stage := (congrArg World.stage same.world :)
  mixer := (congrArg World.mixer same.world :)
  backlog := (congrArg (fun world => world.box.backlog) same.world :)
  active := (congrArg (fun world => world.board.active) same.world :)

theorem Thread.PlaysOut.finished {fuel count : Nat} {thread : Thread} {world : World}
    {last : Update} (plays : thread.PlaysOut fuel count world last) :
    last.progress = .finished := by
  induction plays with
  | now _ finished => exact finished
  | later _ _ _ finished => exact finished

/-- Instant skip changes the timing only: a script that ends within one update when waits are
skipped, and whose commands, at any depth of calls, address no temporary variable, also ends
when they are not, with a host that dismisses its messages, and leaves the same behind. -/
theorem Thread.skip_only_hastens {run : Activation} {world : World} {fuel : Nat}
    {update : Update} (once : run.repeats = false) (off : world.config.preview = false)
    (unlimited : world.config.commandBudget = none)
    (updated : Thread.update { root := run.start } fuel
      (world.withSkip { enabled := true, time := 0 }) = some update)
    (finished : update.progress = .finished)
    (avoids : AvoidsTemporaries (Thread.happenings { root := run.start } fuel
      (world.withSkip { enabled := true, time := 0 })))
    (time : Nat) :
    ∃ count last, Thread.PlaysOut fuel count { root := run.start }
        (world.withSkip { enabled := false, time }) last ∧
      last.progress = .finished ∧ update.world.SameState last.world := by
  have poised : run.start.Poised := ⟨Activation.isAwake_start run, rfl, once⟩
  obtain ⟨count, last, plays, sameClose⟩ := calleesPlayOut fuel run.start.callRoom run.start
    (world.withSkip { enabled := true, time := 0 }) update poised rfl off unlimited updated
    finished avoids (world.withSkip { enabled := false, time }) rfl
  exact ⟨count, last, plays, plays.finished, sameClose.sameState⟩

/-- An event that shows a message and plays a sound. -/
def interlude : Script where
  commands := #[{ id := "ShowMessage", params := .record [("text", .text "hush")] },
    { id := "PlaySound", params := .record [("name", .text "harp")] }]
  instructions := #[some (.showMessage (.literal (.text "hush")) none none),
    some (.playSound (.literal (.text "harp")))]
  jumpTargets := #[none, none]

/-- A script that shows a message, waits for some frames and then for the event. -/
def recital : Script where
  commands := #[{ id := "ShowMessage", params := .record [("text", .text "listen")] },
    { id := "WaitCommand", params := .record [("time", .integer 3)] },
    { id := "CallCommonEvent", params := .record [("commonEventId", .text "interlude")] },
    { id := "PlaySound", params := .record [("name", .text "gong")] }]
  instructions := #[some (.showMessage (.literal (.text "listen")) none none),
    some (.wait (.literal (.integer 3))), some (.callEvent "interlude" [] true),
    some (.playSound (.literal (.text "gong")))]
  jumpTargets := #[none, none, none, none]

def reciter : Activation where
  context := { id := "recital" }
  script := recital

def recitalHall : World :=
  World.withBudget (World.empty.addEvent
    { id := "interlude", name := "interlude", parallel := false, script := interlude }) none

/-- Without skipping, the first update shows the first message and waits. -/
theorem recital_only_hastened :
    Script.compile interlude.commands.toList = .ok interlude ∧
      Script.compile recital.commands.toList = .ok recital ∧
      ∃ update, Thread.update { root := reciter.start } 4
          (recitalHall.withSkip { enabled := true, time := 0 }) = some update ∧
        update.progress = .finished ∧ update.world.mixer.sounds = ["harp", "gong"] ∧
        update.world.box.backlog = ["listen", "hush"] ∧
        (∃ first, Thread.update { root := reciter.start } 4
            (recitalHall.withSkip { enabled := false, time := 0 }) = some first ∧
          first.progress = .running ∧ first.world.box.backlog = ["listen"]) ∧
        ∃ count last, Thread.PlaysOut 4 count { root := reciter.start }
            (recitalHall.withSkip { enabled := false, time := 0 }) last ∧
          last.progress = .finished ∧ update.world.SameState last.world := by
  have avoids : AvoidsTemporaries (Thread.happenings { root := reciter.start } 4
      (recitalHall.withSkip { enabled := true, time := 0 })) := by
    unfold AvoidsTemporaries
    decide +kernel
  have swift : (Thread.update { root := reciter.start } 4
      (recitalHall.withSkip { enabled := true, time := 0 })).any (fun update =>
        decide (update.progress = .finished) &&
          decide (update.world.mixer.sounds = ["harp", "gong"]) &&
          decide (update.world.box.backlog = ["listen", "hush"])) = true := by
    decide +kernel
  have slow : (Thread.update { root := reciter.start } 4
      (recitalHall.withSkip { enabled := false, time := 0 })).any (fun first =>
        decide (first.progress = .running) &&
          decide (first.world.box.backlog = ["listen"])) = true := by
    decide +kernel
  simp only [Option.any_eq_true, Bool.and_eq_true, decide_eq_true_eq] at swift slow
  obtain ⟨update, updated, ⟨finished, sounds⟩, spoken⟩ := swift
  refine ⟨rfl, rfl, update, updated, finished, sounds, spoken, slow, ?_⟩
  exact Thread.skip_only_hastens rfl rfl rfl updated finished avoids 0

end NovelEngine
