import NovelEngine.Proofs.Endings

/-!
Contract: what the command budget changes about a script that ends.

Owns:
- threads that end after a number of updates;
- runs that yield and go on;
- the simulation of a run without a budget by the same run with one.

Does not own: scripts that do not end within one update when there is no budget.

A run that has to yield waits for a frame and then stands where it stood. A called script
that has to yield returns in a later update, in which its caller still stands behind the
call. Hence both runs pass through the same states, up to the temporary variables, which
every update resets, and up to the count of commands for the preview.
-/

namespace NovelEngine

/-! ## Threads that end -/

/-- The thread comes to its end in the last of `count` updates, which leads to `last`. -/
inductive Thread.EndsAfter (fuel : Nat) : Nat → Thread → World → Update → Prop where
  | now {thread : Thread} {world : World} {update : Update}
      (updated : thread.update fuel world = some update)
      (finished : update.progress = .finished) : Thread.EndsAfter fuel 1 thread world update
  | later {count : Nat} {thread : Thread} {world : World} {update last : Update}
      (updated : thread.update fuel world = some update)
      (running : update.progress = .running)
      (rest : Thread.EndsAfter fuel count update.thread update.world last) :
      Thread.EndsAfter fuel (count + 1) thread world last

/-- The update has ended its thread, or the thread ends in a later one. -/
inductive Update.LeadsTo (fuel : Nat) (update : Update) : Update → Prop where
  | done (finished : update.progress = .finished) : Update.LeadsTo fuel update update
  | later {count : Nat} {last : Update} (running : update.progress = .running)
      (rest : Thread.EndsAfter fuel count update.thread update.world last) :
      Update.LeadsTo fuel update last

theorem Update.LeadsTo.endsAfter {fuel : Nat} {update last : Update}
    (leads : update.LeadsTo fuel last) {thread : Thread} {world : World}
    (updated : thread.update fuel world = some update) :
    ∃ count, thread.EndsAfter fuel count world last := by
  cases leads with
  | done finished => exact ⟨1, .now updated finished⟩
  | later running rest => exact ⟨_, .later updated running rest⟩

namespace Thread.EndsAfter

variable {fuel count more : Nat} {world : World} {last final : Update}

/-- A caller waits until the script that it called has ended, and goes on from there. -/
theorem under {thread : Thread} (inner : thread.EndsAfter fuel count world last)
    (root : Activation)
    (outer : Thread.EndsAfter fuel more { root := root.clearWait }
      (last.world.deactivate last.thread.root.context.id) final) :
    Thread.EndsAfter fuel (count + more) { root, callees := thread.chain } world final := by
  induction inner with
  | @now thread world update updated finished =>
      rw [Nat.add_comm]
      refine .later (Thread.update_under updated root) rfl ?_
      simp only [receive, finished]
      exact outer
  | @later count thread world update last updated running rest inductionHypothesis =>
      rw [Nat.add_right_comm]
      refine .later (Thread.update_under updated root) rfl ?_
      simp only [receive, running]
      exact inductionHypothesis outer

/-- Without a preview the bookkeeping does not matter. -/
theorem alike {left right : Thread} (ends : left.EndsAfter fuel count world last)
    (alike : left.Alike right) (off : world.config.preview = false) :
    ∃ other, right.EndsAfter fuel count world other ∧ last.Alike other := by
  induction ends generalizing right with
  | now updated finished =>
      obtain ⟨other, ran, same⟩ := alike.update_some off updated
      exact ⟨other, .now ran (same.progress.trans finished), same⟩
  | later updated running _ inductionHypothesis =>
      obtain ⟨other, ran, same⟩ := alike.update_some off updated
      have stays := (congrArg Config.preview (Thread.update_config updated)).trans off
      obtain ⟨final, ends, sameEnd⟩ := inductionHypothesis same.thread stays
      refine ⟨final, .later ran (same.progress.trans running) ?_, sameEnd⟩
      rw [same.world]
      exact ends

end Thread.EndsAfter

/-- Two updates end alike: the runs differ in their bookkeeping only, and the worlds in
their temporary variables and their budget. -/
structure Update.SameEnd (left right : Update) : Prop where
  root : ∃ preview completions,
    right.thread.root = left.thread.root.tallied preview completions
  world : right.world.timeless = left.world.timeless

theorem Update.SameEnd.alike {left middle right : Update} (same : left.SameEnd middle)
    (alike : middle.Alike right) : left.SameEnd right where
  root := alike.root same.root
  world := by
    rw [alike.world]
    exact same.world

/-- A thread that ends in two worlds. -/
theorem Update.SameEnd.finish (thread : Thread) {world other : World}
    (same : other.timeless = world.timeless) (told heard : List Notice) :
    (thread.finish world told).SameEnd (thread.finish other heard) where
  root := ⟨_, _, rfl⟩
  world := congrArg (World.releaseBox · thread.root.context) same

/-- What remains of a called script when its caller goes on. -/
theorem Update.SameEnd.returned {left right : Update} (same : left.SameEnd right) :
    (right.world.deactivate right.thread.root.context.id).timeless =
      (left.world.deactivate left.thread.root.context.id).timeless := by
  obtain ⟨_, _, root⟩ := same.root
  rw [root]
  exact congrArg (World.deactivate · left.thread.root.context.id) same.world

/-! ## The same command in another world -/

section Commands

variable {runCallee : CalleeRunner} {root : Activation} {world other : World}

theorem World.preview_of_timeless (same : other.timeless = world.timeless) :
    other.config.preview = world.config.preview :=
  (congrArg (fun world => world.config.preview) same :)

/-- In worlds that differ in temporary variables and budget only, an instruction that
addresses no temporary variable has the same outcome up to these. -/
theorem Activation.perform_same (root : Activation) (same : other.timeless = world.timeless)
    (id : String) {instruction : Instruction} (avoids : instruction.avoidsTemporaries = true) :
    (root.perform other id instruction).timeless =
      (root.perform world id instruction).timeless := by
  rw [← perform_timeless root other id avoids, ← perform_timeless root world id avoids, same]

variable {command : Command} {instruction : Instruction}
  (found : root.script.command? root.pointer = some command)
  (current : command.indent = root.indent)
  (decoded : root.script.instruction? root.pointer = some instruction)

include found current decoded

/-- An instruction that calls no script and addresses no temporary variable does the same. -/
theorem Thread.handle_perform (same : other.timeless = world.timeless)
    (avoids : instruction.avoidsTemporaries = true)
    (alone : (root.perform world command.id instruction).callee = none) :
    ∃ handled, Thread.handle { root } other runCallee = some handled ∧
      handled.thread = { root := (root.perform world command.id instruction).activation } ∧
      handled.world.timeless =
        (root.perform world command.id instruction).world.timeless := by
  have outcome := root.perform_same same command.id avoids
  have activation : (root.perform other command.id instruction).activation =
      (root.perform world command.id instruction).activation :=
    (congrArg Outcome.activation outcome :)
  have unchanged : (root.perform other command.id instruction).callee = none :=
    (congrArg Outcome.callee outcome).trans alone
  obtain ⟨notices, handles⟩ := Thread.handle_alone found current decoded unchanged
  rw [← activation]
  exact ⟨_, handles, rfl, congrArg Outcome.world outcome⟩

end Commands

/-! ## Going on after a yield -/

/-- The commands of this update end the run as `target` says, or a later update does. -/
def CommandsLead (fuel room more executed : Nat) (root : Activation) (world : World)
    (told : List Notice) (target : Update) : Prop :=
  ∃ update last,
    (runCommands (advance fuel room) more executed { root } world told).map Run.conclude =
      some update ∧ update.LeadsTo fuel last ∧ target.SameEnd last

/-- From here on the commands of the run lead to the same end, whatever temporary variables
and whatever budget there are, and whatever commands the update has executed so far. -/
def EndsFrom (fuel room amount : Nat) (root : Activation) (world : World) (target : Update) :
    Prop :=
  ∀ other, other.timeless = world.timeless → ∀ more, amount ≤ more → ∀ executed told,
    CommandsLead fuel room more executed root other told target

namespace EndsFrom

variable {fuel room amount : Nat} {root : Activation} {world other : World} {target : Update}

/-- A run that is ready ends in one of its next updates. -/
theorem endsAfter (endsFrom : EndsFrom fuel room amount root world target)
    (ready : root.IsReady) (roomy : root.callRoom = room + 1) (enough : amount ≤ fuel)
    (same : other.timeless = world.timeless) :
    ∃ count last, Thread.EndsAfter fuel count { root } other last ∧ target.SameEnd last := by
  obtain ⟨update, last, ran, leads, sameEnd⟩ :=
    endsFrom (other.resetTemporaries root.context) same fuel enough 0 []
  have updated := (Thread.update_of_ready ready roomy fuel other).trans ran
  obtain ⟨count, ends⟩ := leads.endsAfter updated
  exact ⟨count, last, ends, sameEnd⟩

/-- A run that has yielded counts down and then goes on. -/
theorem endsAfter_wait (endsFrom : EndsFrom fuel room amount root world target)
    (ready : root.IsReady) (awake : root.isWaiting = false) (roomy : root.callRoom = room + 1)
    (enough : amount ≤ fuel) (same : other.timeless = world.timeless) :
    ∃ count last, Thread.EndsAfter fuel count { root := root.wait 1 } other last ∧
      target.SameEnd last := by
  have later : (other.resetTemporaries root.context).timeless = world.timeless := same
  have roomyToo : 0 < root.callRoom := by omega
  have updated := Thread.update_wait ready.running roomyToo 0 fuel other
  rw [Activation.wait_zero awake ready.counter] at updated
  obtain ⟨count, last, ends, sameEnd⟩ := endsFrom.endsAfter ready roomy enough later
  exact ⟨count + 1, last, .later updated rfl ends, sameEnd⟩

/-- A run at its end ends, whatever its temporary variables and its budget. -/
theorem of_end (ends : root.endsHere = true) (told : List Notice) :
    EndsFrom fuel room amount root world
      (Run.conclude { thread := { root }, world, notices := told }) := by
  have unable := Activation.canStep_of_isAtEnd (Activation.isAtEnd_of_endsHere ends)
  intro other same more _ executed told
  unfold CommandsLead
  rw [runCommands_of_unable unable]
  simp only [Option.map_some, Run.conclude, ends, if_true]
  exact ⟨_, _, rfl, .done rfl, .finish { root } same _ _⟩

section Commands

variable {next : Activation} (endsFrom : EndsFrom fuel room amount next.stepPast world target)
  (off : world.config.preview = false) (ready : next.IsReady)
  (roomy : next.callRoom = room + 1) (enough : amount ≤ fuel) (able : root.canStep = true)
  (plain : other.config.preview = false) {handled : Run}
  (handles : Thread.handle { root } other (advance fuel room) = some handled)
  {more : Nat}

include endsFrom off ready roomy enough able plain handles

/-- After a command the run goes on, in this update or after it has yielded. -/
theorem command (awake : next.isWaiting = false) (thread : handled.thread = { root := next })
    (same : handled.world.timeless = world.timeless) (ample : amount ≤ more)
    (executed : Nat) (told : List Notice) :
    CommandsLead fuel room (more + 1) executed root other told target := by
  have able : Activation.canStep (Thread.root { root }) = true := able
  have off : handled.world.config.preview = false :=
    (World.preview_of_timeless same).trans off
  have awake : next.stepPast.isWaiting = false := next.stepPast_isWaiting.trans awake
  unfold CommandsLead
  rw [runCommands_step able (Thread.execute_of_handle plain handles), thread]
  rcases Activation.counted_of_awake off awake (executed + 1) with stays | yields
  · simp only [Thread.counted, stays]
    exact endsFrom handled.world same more ample _ _
  · have roomy := next.stepPast_sameRun.callRoom.trans roomy
    obtain ⟨count, last, ends, sameEnd⟩ :=
      endsFrom.endsAfter_wait ready.stepPast awake roomy enough same
    simp only [Thread.counted, yields]
    rw [runCommands_of_waiting rfl]
    exact ⟨_, last, rfl, .later rfl ends, sameEnd⟩

/-- A caller waits for a script that has yielded, and goes on when it has ended. -/
theorem called {caller : Activation} (waiting : caller.isWaiting = true)
    (returns : caller.clearWait = next) (unpaused : caller.preview.waiting = false)
    {callee : Thread} (thread : handled.thread = { root := caller, callees := callee.chain })
    {count : Nat} {last : Update} (rest : callee.EndsAfter fuel count handled.world last)
    (same : (last.world.deactivate last.thread.root.context.id).timeless = world.timeless)
    (executed : Nat) (told : List Notice) :
    CommandsLead fuel room (more + 1) executed root other told target := by
  have able : Activation.canStep (Thread.root { root }) = true := able
  subst returns
  have suspended : caller.stepPast.isWaiting = true := caller.stepPast_isWaiting.trans waiting
  have roomy := caller.clearWait.stepPast_sameRun.callRoom.trans roomy
  obtain ⟨_, _, ends, sameEnd⟩ := endsFrom.endsAfter ready.stepPast roomy enough same
  have alike := Thread.alike_returned waiting unpaused handled.world.config (executed + 1)
  obtain ⟨final, ends, sameToo⟩ :=
    ends.alike alike ((World.preview_of_timeless same).trans off)
  unfold CommandsLead
  rw [runCommands_step able (Thread.execute_of_handle plain handles), thread,
    runCommands_of_waiting (Activation.counted_isWaiting suspended _ _)]
  exact ⟨_, final, rfl, .later rfl (rest.under _ ends), sameEnd.alike sameToo⟩

end Commands

/-- A command that calls a script: the run goes on when the script has ended, be it in this
update or in a later one. -/
theorem call {command : Command} {instruction : Instruction} {callee : Activation}
    {update last : Update} {count more : Nat}
    (endsFrom : EndsFrom fuel room amount (root.waitUntil .callee).clearWait.stepPast
      (update.world.deactivate update.thread.root.context.id) target)
    (off : update.world.config.preview = false) (plain : other.config.preview = false)
    (ready : root.IsReady) (roomy : root.callRoom = room + 1) (enough : amount ≤ fuel)
    (able : root.canStep = true)
    (found : root.script.command? root.pointer = some command)
    (current : command.indent = root.indent)
    (decoded : root.script.instruction? root.pointer = some instruction)
    (called : (root.perform other command.id instruction).callee = some callee)
    (inside : callee.callRoom = room)
    (ends : Thread.EndsAfter fuel count { root := callee }
      (root.perform other command.id instruction).world last)
    (sameEnd : update.SameEnd last) (ample : amount ≤ more) (executed : Nat)
    (told : List Notice) : CommandsLead fuel room (more + 1) executed root other told target := by
  have readyBack : (root.waitUntil .callee).clearWait.IsReady :=
    ⟨ready.running, rfl, ready.free, ready.once⟩
  cases ends with
  | now updated finished =>
      have ran : advance fuel room callee (root.perform other command.id instruction).world =
          some last := inside ▸ updated
      obtain ⟨handled, handles, thread, world⟩ :=
        Thread.handle_call found current decoded called ran
      simp only [receive, finished] at thread world
      exact endsFrom.command off readyBack roomy enough able plain handles rfl thread
        (world ▸ sameEnd.returned) ample executed told
  | @later _ _ _ yielded _ updated running rest =>
      have ran : advance fuel room callee (root.perform other command.id instruction).world =
          some yielded := inside ▸ updated
      obtain ⟨handled, handles, thread, world⟩ :=
        Thread.handle_call found current decoded called ran
      simp only [receive, running] at thread world
      have unpaused : root.preview.waiting = false := Activation.unpaused_of_canStep able
      exact endsFrom.called off readyBack roomy enough able plain handles rfl rfl unpaused
        thread (world ▸ rest) sameEnd.returned executed told

end EndsFrom

/-! ## The simulation -/

/-- A called script that ends within one update when there is no budget ends as well, and
alike, when there is one. -/
def CalleesDelay (fuel room : Nat) : Prop :=
  ∀ callee world update, callee.callRoom = room → world.config.preview = false →
    world.config.commandBudget = none → advance fuel room callee world = some update →
    update.progress = .finished →
    AvoidsTemporaries (advanceHappenings fuel room callee world) →
    ∀ other, other.timeless = world.timeless → ∃ count last,
      Thread.EndsAfter fuel count { root := callee } other last ∧ update.SameEnd last

section Simulation

variable {fuel room : Nat} {root : Activation} {world : World} {target : Update}

/-- The step of the simulation: one command, with the script that it calls. -/
theorem PassesOn.delayed (inner : CalleesDelay fuel room) {next : Activation} {after : World}
    {amount : Nat} (passes : PassesOn fuel room root world next after) (ready : root.IsReady)
    (enough : amount ≤ fuel) (endsFrom : EndsFrom fuel room amount next.stepPast after target) :
    EndsFrom fuel room (amount + 1) root world target := by
  have readyNext : next.IsReady := passes.handling.ready ready passes.awake
  intro other same more ample executed told
  obtain ⟨more, rfl⟩ : ∃ less, more = less + 1 := ⟨more - 1, by omega⟩
  have ample : amount ≤ more := by omega
  have plain : other.config.preview = false := (World.preview_of_timeless same).trans passes.off
  cases passes.handling with
  | @skip command found differs =>
      exact endsFrom.command passes.offAfter readyNext passes.roomyNext enough passes.able plain
        (Thread.handle_skip found differs) passes.awake rfl same ample executed told
  | @ignore command found current unknown =>
      exact endsFrom.command passes.offAfter readyNext passes.roomyNext enough passes.able plain
        (Thread.handle_unknown found current unknown) passes.awake rfl same ample executed told
  | @perform command instruction _ found current decoded performed alone =>
      subst performed
      obtain ⟨handled, handles, thread, world⟩ := Thread.handle_perform found current decoded
        same (passes.avoids_instruction found current decoded) alone
      exact endsFrom.command passes.offAfter readyNext passes.roomyNext enough passes.able plain
        handles passes.awake thread world ample executed told
  | @callThrough command instruction _ callee update found current decoded performed called
      ran finished =>
      subst performed
      have outcome := root.perform_same same command.id
        (passes.avoids_instruction found current decoded)
      have waits := (Activation.perform_call called).2
      have config := root.perform_config world command.id instruction
      have inside := passes.callRoom_callee called
      obtain ⟨count, last, ends, sameEnd⟩ := inner callee _ update inside (config ▸ passes.off)
        (config ▸ passes.unlimited) ran finished
        (passes.avoids_callee found current decoded called)
        (root.perform other command.id instruction).world (congrArg Outcome.world outcome)
      rw [waits] at endsFrom
      exact endsFrom.call passes.offAfter plain ready passes.roomy enough passes.able found
        current decoded ((congrArg Outcome.callee outcome).trans called) inside ends sameEnd ample
        executed told

/-- The commands of an update that ends the run lead to the same end in any other world
that differs in temporary variables and budget only. -/
theorem runCommands_delayed (inner : CalleesDelay fuel room) {amount executed : Nat}
    {told : List Notice} {run : Run} (off : world.config.preview = false)
    (unlimited : world.config.commandBudget = none) (ready : root.IsReady)
    (roomy : root.callRoom = room + 1) (enough : amount ≤ fuel)
    (ran : runCommands (advance fuel room) amount executed { root } world told = some run)
    (ends : run.thread.root.endsHere = true)
    (avoids : AvoidsTemporaries
      ((commandVisits (advance fuel room) amount executed { root } world).flatMap
        (happeningsAt (advanceHappenings fuel room)))) :
    EndsFrom fuel room amount root world run.conclude := by
  refine PassesOn.backwards Activation.IsReady
    (fun amount root world => EndsFrom fuel room amount root world run.conclude) ?_ ?_ ?_ off
    unlimited ready roomy enough ran ends avoids
  · intro root world next after passes ready
    exact (passes.handling.ready ready passes.awake).stepPast
  · intro amount root world told ends same
    rw [same]
    exact .of_end ends told
  · intro amount root world next after passes ready enough rest
    exact passes.delayed inner ready enough rest

/-- The frame of a run that ends in it, in another world. -/
theorem updateFrame_delayed (inner : CalleesDelay fuel room) {other : World} {update : Update}
    (roomy : root.callRoom = room + 1) (off : world.config.preview = false)
    (unlimited : world.config.commandBudget = none)
    (updated : updateFrame fuel (advance fuel room) root world = some update)
    (finished : update.progress = .finished)
    (avoids : AvoidsTemporaries (advanceHappenings fuel (room + 1) root world))
    (same : other.timeless = world.timeless) :
    ∃ first last, updateFrame fuel (advance fuel room) root other = some first ∧
      first.LeadsTo fuel last ∧ update.SameEnd last := by
  have box : other.box = world.box := (congrArg World.box same :)
  rcases updateFrame_cases updated with ⟨ends, rfl⟩ | ⟨goes, rest | ⟨moves, run, ran, rfl⟩⟩
  · have reset : (other.resetTemporaries root.context).timeless =
        (world.resetTemporaries root.context).timeless := same
    refine ⟨Thread.finish { root } (other.resetTemporaries root.context) [], _, ?_, .done rfl,
      .finish { root } reset _ _⟩
    simp [updateFrame, ends]
  · rw [rest.2.1] at finished
    cases finished
  · have ends : run.thread.root.endsHere = true := by
      unfold Run.conclude at finished
      split at finished
      · assumption
      · cases finished
    let entry := root.restarted.unparked
    have sameRun : root.SameRun entry :=
      Activation.sameRun_iff.mpr
        (root.restarted.unparked_identity.trans root.restarted_identity)
    have once : entry.repeats = false := by
      have ended : run.thread.root.repeats = false := by
        simp only [Activation.endsHere, Bool.and_eq_true, Bool.not_eq_true'] at ends
        exact ends.2
      exact (runCommands_sameRun ran).repeats.symm.trans ended
    have ready : entry.IsReady := Activation.unparked_isReady moves once
    -- A run that waits for the message box finds the same box in both worlds.
    have movesToo : root.restarted.rests (other.resetTemporaries root.context) = false := by
      simpa [Activation.rests, Activation.isLockedOut, World.resetTemporaries, box] using moves
    have roomyEntry : entry.callRoom = room + 1 := sameRun.callRoom.trans roomy
    have entered : AvoidsTemporaries ((commandVisits (advance fuel room) fuel 0
        { root := entry } (world.resetTemporaries root.context)).flatMap
          (happeningsAt (advanceHappenings fuel room))) := by
      simp only [advanceHappenings, frameVisits, goes, moves, Bool.or_false, Bool.false_eq_true,
        if_false] at avoids
      exact avoids
    have begun : (world.resetTemporaries root.context).config.preview = false := off
    have endsFrom := runCommands_delayed inner begun unlimited ready roomyEntry (Nat.le_refl _)
      ran ends entered
    obtain ⟨first, last, ranToo, leads, sameEnd⟩ :=
      endsFrom (other.resetTemporaries root.context) same fuel (Nat.le_refl _) 0 []
    refine ⟨first, last, ?_, leads, sameEnd⟩
    rw [updateFrame_of_moves goes movesToo]
    exact ranToo

theorem calleesDelay (fuel room : Nat) : CalleesDelay fuel room := by
  induction room with
  | zero =>
      intro callee world update _ _ _ ran
      cases ran
  | succ room inductionHypothesis =>
      intro callee world update roomy off unlimited ran finished avoids other same
      obtain ⟨first, last, updated, leads, sameEnd⟩ :=
        updateFrame_delayed inductionHypothesis roomy off unlimited ran finished avoids same
      have updated : Thread.update { root := callee } fuel other = some first := by
        simp only [Thread.update, updateFrames, roomy, advance]
        exact updated
      obtain ⟨count, ends⟩ := leads.endsAfter updated
      exact ⟨count, last, ends, sameEnd⟩

end Simulation

/-! ## The budget -/

/-- Two updates leave the same behind: in the world, and of the run itself. -/
structure Update.SameResult (left right : Update) : Prop where
  global : right.world.store.global = left.world.store.global
  persistent : right.world.store.persistent = left.world.store.persistent
  locals : right.world.store.locals = left.world.store.locals
  stage : right.world.stage = left.world.stage
  mixer : right.world.mixer = left.world.mixer
  box : right.world.box = left.world.box
  board : right.world.board = left.world.board
  spawned : right.world.spawned = left.world.spawned
  pointer : right.thread.root.pointer = left.thread.root.pointer
  indent : right.thread.root.indent = left.thread.root.indent
  conditions : right.thread.root.conditions = left.thread.root.conditions
  loops : right.thread.root.loops = left.thread.root.loops
  labels : right.thread.root.labels = left.thread.root.labels
  settings : right.thread.root.settings = left.thread.root.settings

theorem Update.SameEnd.sameResult {left right : Update} (same : left.SameEnd right) :
    left.SameResult right := by
  obtain ⟨⟨preview, completions, root⟩, world⟩ := same
  exact {
    global := (congrArg (fun world => world.store.global) world :)
    persistent := (congrArg (fun world => world.store.persistent) world :)
    locals := (congrArg (fun world => world.store.locals) world :)
    stage := (congrArg World.stage world :)
    mixer := (congrArg World.mixer world :)
    box := (congrArg World.box world :)
    board := (congrArg World.board world :)
    spawned := (congrArg World.spawned world :)
    pointer := (congrArg Activation.pointer root :)
    indent := (congrArg Activation.indent root :)
    conditions := (congrArg Activation.conditions root :)
    loops := (congrArg Activation.loops root :)
    labels := (congrArg Activation.labels root :)
    settings := (congrArg Activation.settings root :) }

/-- A script that ends within one update when there is no budget, and whose commands, at any
depth of calls, address no temporary variable, ends under every budget after finitely many
updates, and leaves the same behind. -/
theorem Thread.budget_only_delays {thread : Thread} {world : World} {fuel : Nat}
    {update : Update} (off : world.config.preview = false)
    (updated : thread.update fuel (world.withBudget none) = some update)
    (finished : update.progress = .finished)
    (avoids : AvoidsTemporaries (thread.happenings fuel (world.withBudget none)))
    (budget : Nat) :
    ∃ count last, thread.EndsAfter fuel count (world.withBudget (some budget)) last ∧
      update.SameResult last := by
  obtain ⟨root, callees⟩ := thread
  cases callees with
  | nil =>
      have same : (world.withBudget (some budget)).timeless = (world.withBudget none).timeless :=
        rfl
      obtain ⟨count, last, ends, sameEnd⟩ := calleesDelay fuel root.callRoom root
        (world.withBudget none) update rfl off rfl updated finished avoids _ same
      exact ⟨count, last, ends, sameEnd.sameResult⟩
  | cons callee rest =>
      -- The update of a thread that waits for a called script does not end it.
      obtain ⟨_, _, running, _⟩ := Thread.update_calling updated
      rw [running] at finished
      cases finished

/-- An event that plays two sounds. -/
def chime : Script where
  commands := #[{ id := "PlaySound", params := .record [("name", .text "ding")] },
    { id := "PlaySound", params := .record [("name", .text "dong")] }]
  instructions := #[some (.playSound (.literal (.text "ding"))),
    some (.playSound (.literal (.text "dong")))]
  jumpTargets := #[none, none]

/-- A script that waits for the event and plays a sound of its own. -/
def toll : Script where
  commands := #[{ id := "CallCommonEvent", params := .record [("commonEventId", .text "chime")] },
    { id := "PlaySound", params := .record [("name", .text "bell")] }]
  instructions := #[some (.callEvent "chime" [] true),
    some (.playSound (.literal (.text "bell")))]
  jumpTargets := #[none, none]

def tolling : Thread where
  root := { context := { id := "toll" }, script := toll : Activation }.start

def tollingWorld : World :=
  World.empty.addEvent { id := "chime", name := "chime", parallel := false, script := chime }

/-- With a budget of one command the first update does not end the script. -/
theorem tolling_only_delayed :
    Script.compile chime.commands.toList = .ok chime ∧
      Script.compile toll.commands.toList = .ok toll ∧
      ∃ update, tolling.update 4 (tollingWorld.withBudget none) = some update ∧
        update.progress = .finished ∧ update.world.mixer.sounds = ["ding", "dong", "bell"] ∧
        (∃ first, tolling.update 4 (tollingWorld.withBudget (some 1)) = some first ∧
          first.progress = .running) ∧
        ∃ count last, tolling.EndsAfter 4 count (tollingWorld.withBudget (some 1)) last ∧
          update.SameResult last := by
  have avoids : AvoidsTemporaries (tolling.happenings 4 (tollingWorld.withBudget none)) := by
    unfold AvoidsTemporaries
    decide +kernel
  refine ⟨rfl, rfl, _, rfl, rfl, rfl, ⟨_, rfl, rfl⟩, ?_⟩
  exact Thread.budget_only_delays rfl rfl rfl avoids 1

end NovelEngine
