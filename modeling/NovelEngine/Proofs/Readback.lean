import NovelEngine.Proofs.Cells
import NovelEngine.Proofs.EventDelivery

/-!
Contract: what a script reads of the answer it was given.

Owns:
- the kinds of variable that a prompt asks for;
- the frames in which a run executes no command, and what they leave of its variables;
- the value of the answered variable where the run executes its next command.

Does not own: which command that is.

An answer is stored between two updates, and each update begins with a reset of the temporary
variables. Hence an answer is read back from everywhere but a temporary variable.
-/

namespace NovelEngine

/-! ## Prompts by kind -/

/-- What is submitted goes to a number or to a text. -/
def WaitReason.IsTyped : WaitReason → Prop
  | .input target => target.kind = .number ∨ target.kind = .text
  | _ => True

/-- If the run waits for an input, the input is a number or a text. -/
def Activation.AsksTyped (activation : Activation) : Prop :=
  ∀ reason, activation.waitingFor = some reason → reason.IsTyped

namespace Activation.AsksTyped

variable {before after : Activation}

theorem of_same (typed : before.AsksTyped) (same : after.waitingFor = before.waitingFor) :
    after.AsksTyped :=
  fun reason waits => typed reason (same ▸ waits)

theorem of_none (silent : after.waitingFor = none) : after.AsksTyped := by
  intro reason waits
  rw [silent] at waits
  cases waits

theorem of_reason {reason : WaitReason} (waits : after.waitingFor = some reason)
    (typed : reason.IsTyped) : after.AsksTyped := by
  intro other same
  rw [waits] at same
  cases same
  exact typed

theorem stepPast (typed : before.AsksTyped) : before.stepPast.AsksTyped := by
  obtain ⟨pointer, indent, equal⟩ := before.stepPast_eq
  exact typed.of_same (by rw [equal])

theorem counted (typed : before.AsksTyped) (config : Config) (executed : Nat) :
    (before.counted config executed).AsksTyped := by
  obtain ⟨_, _, _, equal⟩ := before.counted_eq config executed
  exact typed.of_same (by rw [equal])

/-- A snapshot holds the wait of its run or none. -/
theorem reload (typed : before.AsksTyped) (run : Activation) :
    (run.restore before.save).AsksTyped := by
  have kept : before.save.waitingFor = none ∨ before.save.waitingFor = before.waitingFor := by
    unfold save
    cases before.isToRetry
    · exact .inr rfl
    · exact .inl rfl
  unfold restore
  dsimp only
  split
  · exact .of_none rfl
  · rcases kept with dropped | same
    · exact .of_none dropped
    · exact typed.of_same same

end Activation.AsksTyped

theorem Instruction.answer?_isTyped {instruction : Instruction} {reason : WaitReason}
    (raised : instruction.answer? = some reason) : reason.IsTyped := by
  cases instruction with
  | showChoices choices target =>
      cases raised
      trivial
  | inputNumber target digits =>
      cases raised
      exact .inl rfl
  | inputText target letters =>
      cases raised
      exact .inr rfl
  | _ => cases raised

theorem Effect.asksTyped {activation next : Activation} {instruction : Instruction}
    (effect : Effect activation instruction next) (typed : activation.AsksTyped) :
    next.AsksTyped := by
  cases effect with
  | branch chain holds => cases holds <;> exact typed.of_same rfl
  | branchElse =>
      refine typed.of_same ?_
      unfold Activation.branchElse
      split <;> rfl
  | jump => exact .of_none rfl
  | prompt raised => exact .of_reason rfl (Instruction.answer?_isTyped raised)
  | @suspend _ reason other =>
      refine .of_reason rfl ?_
      cases reason with
      | input target => cases other
      | _ => trivial
  | _ => exact typed.of_same rfl

/-- Every run of the thread asks for numbers and texts only. -/
def Thread.AsksTyped (thread : Thread) : Prop :=
  ∀ run ∈ thread.chain, run.AsksTyped

theorem Thread.asksTyped_cons {root callee : Activation} {rest : List Activation} :
    Thread.AsksTyped { root, callees := callee :: rest } ↔
      root.AsksTyped ∧ Thread.AsksTyped { root := callee, callees := rest } :=
  List.forall_mem_cons

theorem Thread.asksTyped_single {root : Activation} :
    Thread.AsksTyped { root } ↔ root.AsksTyped :=
  List.forall_mem_singleton

section Updates

/-- Called scripts that ask for nothing come to rest with typed prompts. -/
def CalleesAskTyped (runCallee : CalleeRunner) : Prop :=
  ∀ callee world update, callee.AsksTyped → runCallee callee world = some update →
    update.thread.AsksTyped

variable {runCallee : CalleeRunner}

theorem Step.asksTyped (callees : CalleesAskTyped runCallee) {activation : Activation}
    {world after : World} {next : Thread} (typed : activation.AsksTyped)
    (step : Step runCallee { root := activation } world next after) (executed : Nat) :
    (next.counted after.config executed).AsksTyped := by
  have passes {handled : Activation} (typed : handled.AsksTyped) :
      (handled.stepPast.counted after.config executed).AsksTyped :=
    typed.stepPast.counted after.config executed
  cases step with
  | pause =>
      refine Thread.asksTyped_single.mpr (Activation.AsksTyped.counted ?_ _ executed)
      exact typed.of_same rfl
  | move handling =>
      cases handling with
      | skip => exact Thread.asksTyped_single.mpr (passes typed)
      | ignore => exact Thread.asksTyped_single.mpr (passes typed)
      | perform _ _ _ performed =>
          subst performed
          exact Thread.asksTyped_single.mpr
            (passes ((activation.perform_effect world _ _).asksTyped typed))
      | call _ _ _ performed called ran =>
          subst performed
          obtain ⟨⟨context, script, rfl⟩, _⟩ := Activation.perform_call called
          exact Thread.asksTyped_cons.mpr
            ⟨passes ((activation.perform_effect world _ _).asksTyped typed),
              callees _ _ _ (.of_none rfl) ran⟩
      | callThrough => exact Thread.asksTyped_single.mpr (passes (.of_none rfl))

theorem lastsFrame_asksTyped (callees : CalleesAskTyped runCallee) :
    LastsFrame runCallee (fun _ thread _ => thread.AsksTyped) where
  reset := id
  start := fun _ _ _ => Thread.asksTyped_single.mpr (.of_none rfl)
  count := fun typed _ _ =>
    Thread.asksTyped_single.mpr ((Thread.asksTyped_single.mp typed).of_same rfl)
  unpark := fun typed _ _ =>
    Thread.asksTyped_single.mpr ((Thread.asksTyped_single.mp typed).of_same rfl)
  pass := fun typed _ step => step.asksTyped callees (Thread.asksTyped_single.mp typed) _
  finish := fun typed _ =>
    Thread.asksTyped_single.mpr ((Thread.asksTyped_single.mp typed).of_same rfl)

end Updates

theorem calleesAskTyped (fuel room : Nat) : CalleesAskTyped (advance fuel room) := by
  induction room with
  | zero =>
      intro callee world update _ ran
      cases ran
  | succ room inductionHypothesis =>
      intro callee world update typed ran
      exact updateFrame_fact (lastsFrame_asksTyped inductionHypothesis) none
        (Thread.asksTyped_single.mpr typed) ran

namespace Thread.AsksTyped

variable {thread : Thread}

theorem update (typed : thread.AsksTyped) {fuel : Nat} {world : World} {update : Update}
    (updated : thread.update fuel world = some update) : update.thread.AsksTyped := by
  obtain ⟨root, callees⟩ := thread
  induction callees generalizing root update with
  | nil =>
      exact calleesAskTyped fuel root.callRoom root world update
        (asksTyped_single.mp typed) updated
  | cons callee rest inductionHypothesis =>
      obtain ⟨outer, inner⟩ := asksTyped_cons.mp typed
      obtain ⟨inside, ran, _, ⟨_, thread, _⟩ | ⟨_, thread, _⟩⟩ := Thread.update_calling updated
      · rw [thread]
        exact asksTyped_cons.mpr ⟨outer, inductionHypothesis callee inner ran⟩
      · rw [thread]
        exact asksTyped_single.mpr (.of_none rfl)

theorem notify (typed : thread.AsksTyped) {world : World} {event : HostEvent} {run : Run}
    (heard : thread.notify? world event = some run) : run.thread.AsksTyped := by
  obtain ⟨⟨callers, before, after⟩, delivered⟩ := notify?_deliver heard
  have answered := Activation.deliver?_answered delivered
  unfold Thread.AsksTyped at typed ⊢
  rw [before, List.forall_mem_append] at typed
  rw [after, List.forall_mem_append, List.forall_mem_singleton]
  exact ⟨typed.1, .of_none answered.waitingFor⟩

theorem replaceRoot (typed : thread.AsksTyped) {root : Activation} (asks : root.AsksTyped) :
    Thread.AsksTyped { thread with root } :=
  List.forall_mem_cons.mpr ⟨asks, (List.forall_mem_cons.mp typed).2⟩

theorem root (typed : thread.AsksTyped) : thread.root.AsksTyped :=
  (List.forall_mem_cons.mp typed).1

end Thread.AsksTyped

/-- The states that the calls of a host reach from a new run, with jumps and with snapshots that
were taken of such states. Each call may find another world and grant another number of
commands. -/
inductive Attended (run : Activation) : Thread → Prop where
  | anew : Attended run { root := run.anew }
  | start {thread : Thread} (attended : Attended run thread) : Attended run thread.start
  | stop {thread : Thread} (attended : Attended run thread) :
      Attended run (thread.mapRoot Activation.stop)
  | resume {thread : Thread} (attended : Attended run thread) :
      Attended run (thread.mapRoot Activation.resume)
  | update {thread : Thread} {fuel : Nat} {world : World} {update : Update}
      (attended : Attended run thread) (updated : thread.update fuel world = some update) :
      Attended run update.thread
  | notify {thread : Thread} {world : World} {event : HostEvent} {notified : Run}
      (attended : Attended run thread)
      (accepted : thread.notify? world event = some notified) : Attended run notified.thread
  | jumpTo {thread : Thread} (attended : Attended run thread) (index : Nat) :
      Attended run (thread.mapRoot (Activation.jumpTo · index))
  | jumpToLabel {thread : Thread} {name : String} {jumped : Activation}
      (attended : Attended run thread) (found : thread.root.jumpToLabel name = .ok jumped) :
      Attended run { thread with root := jumped }
  | restore {thread saved : Thread} (attended : Attended run thread)
      (earlier : Attended run saved) : Attended run (thread.restore saved.root.save)

theorem Attended.asksTyped {run : Activation} {thread : Thread}
    (attended : Attended run thread) : thread.AsksTyped := by
  induction attended with
  | anew => exact Thread.asksTyped_single.mpr (.of_none rfl)
  | start => exact Thread.asksTyped_single.mpr (.of_none rfl)
  | stop _ typed => exact typed.replaceRoot (typed.root.of_same rfl)
  | resume _ typed => exact typed.replaceRoot (typed.root.of_same rfl)
  | update _ updated typed => exact typed.update updated
  | notify _ accepted typed => exact typed.notify accepted
  | jumpTo _ _ typed => exact typed.replaceRoot (.of_none rfl)
  | jumpToLabel _ found typed =>
      obtain ⟨labels, index, rfl⟩ := Activation.jumpToLabel_eq found
      exact typed.replaceRoot (.of_none rfl)
  | restore _ _ _ typed => exact Thread.asksTyped_single.mpr (typed.root.reload _)

/-! ## Frames without a command -/

/-- The state in which the first of the visited commands runs; the others before it are stepped
over. -/
def firstRun? (visits : List (Thread × World)) : Option (Thread × World) :=
  visits.find? (fun visit => visit.1.root.runsNext visit.2)

section Commands

variable {runCallee : CalleeRunner} {fuel executed : Nat} {thread : Thread} {world : World}

/-- A command that does not run changes nothing outside of its run. -/
theorem Thread.execute_silent {run : Run} (silent : thread.root.runsNext world = false)
    (executes : thread.execute world runCallee thread.root.pointer = some run) :
    run.world = world ∧ run.thread.callees = thread.callees ∧
      run.thread.root.context = thread.root.context := by
  unfold Thread.execute at executes
  dsimp only at executes
  split at executes
  · cases executes
    exact ⟨rfl, rfl, rfl⟩
  · rename_i command found
    split at executes
    · cases executes
      exact ⟨rfl, rfl, rfl⟩
    · rename_i unpaused
      have differs : command.indent ≠ thread.root.indent := by
        intro current
        simp [Activation.runsNext, found, current] at silent
        simp [silent] at unpaused
      rw [if_neg differs] at executes
      cases executes
      exact ⟨rfl, rfl, thread.root.stepPast_sameRun.context⟩

/-- The first command that runs finds the world in which the frame has begun to execute
commands. -/
theorem firstRun?_commandVisits {visit : Thread × World}
    (first : firstRun? (commandVisits runCallee fuel executed thread world) = some visit) :
    visit.2 = world ∧ visit.1.root.context = thread.root.context := by
  induction fuel generalizing executed thread with
  | zero => cases first
  | succ fuel inductionHypothesis =>
      unfold commandVisits at first
      split at first
      · unfold firstRun? at first
        rw [List.find?_cons] at first
        split at first
        · cases first
          exact ⟨rfl, rfl⟩
        · rename_i silent
          split at first
          · cases first
          · rename_i run executes
            obtain ⟨same, _, context⟩ := Thread.execute_silent silent executes
            rw [same] at first
            obtain ⟨found, kept⟩ := inductionHypothesis first
            have counted := (run.thread.root.counted_sameRun world.config (executed + 1)).context
            exact ⟨found, kept.trans (counted.trans context)⟩
      · cases first

/-- Commands none of which runs leave the world as it is. -/
theorem runCommands_silent {reported : List Notice} {run : Run}
    (silent : firstRun? (commandVisits runCallee fuel executed thread world) = none)
    (ran : runCommands runCallee fuel executed thread world reported = some run) :
    run.world = world ∧ run.thread.callees = thread.callees ∧
      run.thread.root.context = thread.root.context := by
  induction fuel generalizing executed thread reported with
  | zero =>
      unfold runCommands at ran
      split at ran
      · cases ran
      · cases ran
        exact ⟨rfl, rfl, rfl⟩
  | succ fuel inductionHypothesis =>
      by_cases able : thread.root.canStep = true
      · cases executes : thread.execute world runCallee thread.root.pointer with
        | none => simp [runCommands, able, executes] at ran
        | some next =>
            rw [commandVisits_step able executes] at silent
            rw [runCommands_step able executes] at ran
            unfold firstRun? at silent
            rw [List.find?_cons] at silent
            split at silent
            · cases silent
            · rename_i still
              obtain ⟨same, callees, context⟩ := Thread.execute_silent still executes
              rw [same] at silent ran
              obtain ⟨found, kept, ended⟩ := inductionHypothesis silent ran
              have counted :=
                (next.thread.root.counted_sameRun world.config (executed + 1)).context
              exact ⟨found, kept.trans callees, ended.trans (counted.trans context)⟩
      · have unable : thread.root.canStep = false := by simpa using able
        rw [runCommands_of_unable unable] at ran
        cases ran
        exact ⟨rfl, rfl, rfl⟩

end Commands

namespace Activation

@[simp] theorem restarted_context (activation : Activation) :
    activation.restarted.context = activation.context := by
  unfold restarted
  split <;> rfl

@[simp] theorem unparked_context (activation : Activation) :
    activation.unparked.context = activation.context := by
  unfold unparked
  split <;> rfl

end Activation

theorem Run.conclude_silent (run : Run) (alone : run.thread.callees = []) :
    run.conclude.world.store = run.world.store ∧ run.conclude.thread.callees = [] ∧
      run.conclude.thread.root.context = run.thread.root.context := by
  unfold Run.conclude
  split
  · exact ⟨rfl, alone, rfl⟩
  · unfold Thread.restartAtEnd
    dsimp only
    split
    · exact ⟨rfl, rfl, rfl⟩
    · exact ⟨rfl, alone, rfl⟩

section Frames

variable {fuel : Nat} {runCallee : CalleeRunner} {activation : Activation} {world : World}

/-- The first command of a frame finds the variables as they were, except for the temporary
ones. -/
theorem firstRun?_frameVisits {visit : Thread × World}
    (first : firstRun? (frameVisits fuel runCallee activation world) = some visit) :
    visit.2.store = world.store.resetTemporaries activation.context ∧
      visit.1.root.context = activation.context := by
  unfold frameVisits at first
  dsimp only at first
  split at first
  · cases first
  · obtain ⟨same, context⟩ := firstRun?_commandVisits first
    rw [same, context]
    exact ⟨rfl, by simp⟩

/-- A frame in which no command runs resets the temporary variables and leaves all others
alone. -/
theorem updateFrame_silent {update : Update}
    (silent : firstRun? (frameVisits fuel runCallee activation world) = none)
    (updated : updateFrame fuel runCallee activation world = some update) :
    update.world.store = world.store.resetTemporaries activation.context ∧
      update.thread.callees = [] ∧ update.thread.root.context = activation.context := by
  rcases updateFrame_cases updated with ⟨_, rfl⟩ | ⟨goes, rest | ⟨moves, run, ran, rfl⟩⟩
  · exact ⟨rfl, rfl, rfl⟩
  · obtain ⟨_, _, same, thread⟩ := rest
    rw [same]
    rcases thread with thread | ⟨_, _, thread⟩
    · rw [thread]
      exact ⟨rfl, rfl, activation.restarted_context⟩
    · rw [thread]
      exact ⟨rfl, rfl, activation.restarted_context⟩
  · unfold frameVisits at silent
    dsimp only at silent
    rw [goes, moves, Bool.or_false, if_neg Bool.false_ne_true] at silent
    obtain ⟨same, alone, context⟩ := runCommands_silent silent ran
    obtain ⟨store, callees, kept⟩ := run.conclude_silent alone
    rw [store, same, kept, context]
    exact ⟨rfl, callees, by simp⟩

end Frames

/-- An update in which the innermost run of a thread executes nothing, and after which it is
still the innermost one, resets the temporary variables of this run and leaves all others
alone. -/
theorem Thread.update_silent {thread : Thread} {fuel : Nat} {world : World} {update : Update}
    (silent : firstRun? (Thread.visits { root := thread.innermost } fuel world) = none)
    (updated : thread.update fuel world = some update)
    (stays : update.thread.chain.length = thread.chain.length) :
    update.world.store = world.store.resetTemporaries thread.innermost.context ∧
      update.thread.innermost.context = thread.innermost.context := by
  obtain ⟨root, callees⟩ := thread
  induction callees generalizing root update with
  | nil =>
      obtain ⟨store, alone, context⟩ :=
        updateFrame_silent silent (Thread.update_single updated).2
      refine ⟨store, ?_⟩
      unfold innermost
      rw [alone]
      exact context
  | cons callee rest inductionHypothesis =>
      rw [innermost_cons] at silent ⊢
      obtain ⟨inner, ran, _, ⟨_, thread, same⟩ | ⟨_, thread, _⟩⟩ := Thread.update_calling updated
      · rw [thread] at stays ⊢
        rw [innermost_cons, same]
        exact inductionHypothesis callee silent ran (by simpa [chain] using stays)
      · rw [thread] at stays
        simp [chain] at stays

/-! ## From the answer to the next command -/

/-- How a thread and its world go on while the innermost run executes no command: by updates,
and by whatever the host does to the outermost run. -/
inductive Idles (told : Thread) (world : World) : Thread → World → Prop where
  | here : Idles told world told world
  | update {thread : Thread} {before : World} {fuel : Nat} {update : Update}
      (idles : Idles told world thread before)
      (silent : firstRun? (Thread.visits { root := thread.innermost } fuel before) = none)
      (updated : thread.update fuel before = some update)
      (stays : update.thread.chain.length = thread.chain.length) :
      Idles told world update.thread update.world
  | host {thread : Thread} {before : World} {root : Activation}
      (idles : Idles told world thread before)
      (same : root.context = thread.root.context) :
      Idles told world { thread with root } before

theorem Thread.innermost_context_of_root {thread : Thread} {root : Activation}
    (same : root.context = thread.root.context) :
    (Thread.innermost { thread with root }).context = thread.innermost.context := by
  obtain ⟨outer, callees⟩ := thread
  cases callees with
  | nil => exact same
  | cons callee rest => rw [innermost_cons, innermost_cons]

/-- Meanwhile the run keeps its context, and all variables but the temporary ones keep their
values. -/
theorem Idles.keeps {told later : Thread} {world after : World}
    (idles : Idles told world later after) :
    later.innermost.context = told.innermost.context ∧
      ∀ reference : VariableRef, reference.scope ≠ .temporary →
        after.store.get told.innermost.context reference =
          world.store.get told.innermost.context reference := by
  induction idles with
  | here => exact ⟨rfl, fun _ _ => rfl⟩
  | update _ silent updated stays inductionHypothesis =>
      obtain ⟨context, kept⟩ := inductionHypothesis
      obtain ⟨store, same⟩ := Thread.update_silent silent updated stays
      refine ⟨same.trans context, fun reference lasting => ?_⟩
      rw [store, context, Store.get_resetTemporaries, if_neg lasting]
      exact kept reference lasting
  | host _ same inductionHypothesis =>
      exact ⟨(Thread.innermost_context_of_root same).trans inductionHypothesis.1,
        inductionHypothesis.2⟩

/-! ## Answers and the variables that they go to -/

namespace Kind

/-- What a variable of this kind holds until it is written. -/
def unset : Kind → Value
  | .number => .float 0.0
  | .text => .text ""
  | .boolean => .boolean false
  | .list => .integer 0

/-- A value in the form in which a variable of this kind holds it. A list holds any value. -/
def convert (kind : Kind) (value : Value) : Value :=
  match kind with
  | .number => .float value.toFloat
  | .text => .text value.toText
  | .boolean => .boolean value.toBool
  | .list => value

end Kind

theorem Store.get_empty (context : Context) (reference : VariableRef) :
    ({} : Store).get context reference = reference.kind.unset := by
  have blank (scope : Scope) : ({} : Store).bank context scope = {} := by cases scope <;> rfl
  unfold Store.get Store.number Store.text Store.boolean Store.list
  rw [blank]
  cases reference.kind <;> rfl

/-- The variable that an answer goes to. -/
def WaitReason.target? : WaitReason → Option VariableRef
  | .choice _ target => target
  | .input target => some target
  | _ => none

/-- The number of a choice is stored as a number, so its variable should be one. -/
def WaitReason.KeepsKind : WaitReason → Prop
  | .choice _ (some target) => target.kind = .number
  | _ => True

/-- What the player answers: the number of a choice, or what was submitted. -/
def HostEvent.answer? : HostEvent → Option Value
  | .choiceSelected index => some (.float (Decimal.ofInt index))
  | .inputSubmitted value => some value
  | _ => none

/-- An accepted answer stands in its variable, in the form of the variable's kind. -/
theorem Activation.deliver?_stores {activation : Activation} {world : World} {event : HostEvent}
    {delivery : Delivery} (delivered : activation.deliver? world event = some delivery)
    {reason : WaitReason} (waits : activation.waitingFor = some reason)
    (typed : reason.IsTyped) (kept : reason.KeepsKind) {target : VariableRef}
    (asks : reason.target? = some target) {value : Value}
    (answers : event.answer? = some value) :
    delivery.world.store.get activation.context target = target.kind.convert value := by
  unfold deliver? at delivered
  rw [waits] at delivered
  split at delivered
  · cases answers
  · rename_i labels stored index same
    cases same
    cases answers
    split at delivered
    · cases delivered
    · cases delivered
      cases asks
      obtain ⟨scope, kind, slot⟩ := target
      cases (show kind = .number from kept)
      rw [takeChoice_writes]
      exact Store.get_setNumber _ activation.context ⟨scope, .number, slot⟩ _
  · rename_i stored submitted same
    cases same
    cases answers
    cases asks
    cases delivered
    rcases (show target.kind = .number ∨ target.kind = .text from typed) with number | text
    · rw [number]
      exact Store.get_assign_number _ _ number value
    · rw [text]
      exact Store.get_assign_text _ _ text value
  · cases answers
  · cases delivered

/-- Wherever the run that was told executes its next command, the variable reads as `value`. -/
def ReadBack (told : Run) (target : VariableRef) (value : Value) : Prop :=
  ∀ (later : Thread) (after : World) (fuel : Nat) (executing : Thread × World),
    Idles told.thread told.world later after →
    firstRun? (Thread.visits { root := later.innermost } fuel after) = some executing →
    (Operand.slot target).value executing.2.store executing.1.root.context = value

/-- The next command finds what the answer has left, except for temporary variables. -/
theorem readBack_of_store (told : Run) (target : VariableRef) :
    ReadBack told target
      (if target.scope = .temporary then target.kind.unset
        else told.world.store.get told.thread.innermost.context target) := by
  intro later after fuel executing idles first
  obtain ⟨context, kept⟩ := idles.keeps
  obtain ⟨store, same⟩ := firstRun?_frameVisits first
  show executing.2.store.get executing.1.root.context target = _
  rw [store, same, context, Store.get_resetTemporaries, Store.get_empty]
  split
  · rfl
  · rename_i lasting
    exact kept target lasting

/-- The next command of a run that was given an answer reads it from the variable that it went
to, in the form of the variable's kind. For a choice this takes a variable for numbers. A
temporary variable reads as if it had not been written. -/
theorem Attended.answer_read_back {run : Activation} {thread : Thread}
    (attended : Attended run thread) {world : World} {event : HostEvent} {told : Run}
    (accepted : thread.notify? world event = some told) {reason : WaitReason}
    (waits : thread.innermost.waitingFor = some reason) {target : VariableRef}
    (asks : reason.target? = some target) {value : Value}
    (answers : event.answer? = some value) :
    (target.scope ≠ .temporary → reason.KeepsKind →
      ReadBack told target (target.kind.convert value)) ∧
    (target.scope = .temporary → ReadBack told target target.kind.unset) := by
  have found := readBack_of_store told target
  obtain ⟨⟨callers, chain, _⟩, delivered⟩ := Thread.notify?_deliver accepted
  have typed : reason.IsTyped := by
    refine attended.asksTyped thread.innermost ?_ reason waits
    rw [chain]
    exact List.mem_append_right _ List.mem_cons_self
  have context : told.thread.innermost.context = thread.innermost.context :=
    (Activation.deliver?_sameRun delivered).context
  refine ⟨fun lasting kept => ?_, fun temporary => ?_⟩
  · rw [if_neg lasting, context,
      Activation.deliver?_stores delivered waits typed kept asks answers] at found
    exact found
  · rw [if_pos temporary] at found
    exact found

/-! ## Answers that are and are not found again -/

private def slotDocument (scope : String) : Document :=
  .record [("scope", .text scope), ("kind", .text "string"), ("index", .integer 0)]

/-- Asks for a text. -/
private def askText (scope : String) : Command :=
  { id := "InputText", params := .record [("variable", slotDocument scope)] }

/-- Offers one choice, whose number is to go to a text. -/
private def offerOne : Command :=
  { id := "ShowChoices"
    params := .record [("choices", .list [.record [("text", .text "go")]]),
      ("variable", slotDocument "local")] }

/-- A run that asks the player something in front of a label. -/
private def scribe (command : Command) (instruction : Instruction) : Activation where
  context := { id := "scribe" }
  script := {
    commands := #[command, { id := "Label" }]
    instructions := #[some instruction, some .label]
    jumpTargets := #[none, none] }

private def asked? (command : Command) (instruction : Instruction) : Option Update :=
  Thread.update { root := (scribe command instruction).anew.start } 1 .empty

private theorem attended_asked {command : Command} {instruction : Instruction} {update : Update}
    (asked : asked? command instruction = some update) :
    Attended (scribe command instruction) update.thread :=
  .update (.start .anew) asked

private def nameSlot : VariableRef :=
  { kind := .text, index := 0 }

/-- The run is stopped when it has been given a name, and reads it when it goes on. -/
theorem stoppedScribe_reads_name :
    ∃ thread world told later after executing,
      Attended (scribe (askText "local") (.inputText nameSlot 8)) thread ∧
      thread.innermost.waitingFor = some (.input nameSlot) ∧
      thread.notify? world (.inputSubmitted (.text "Ada")) = some told ∧
      Idles told.thread told.world later after ∧
      firstRun? (Thread.visits { root := later.innermost } 1 after) = some executing ∧
      (Operand.slot nameSlot).value executing.2.store executing.1.root.context =
        .text "Ada" := by
  have ran : (asked? (askText "local") (.inputText nameSlot 8)).any (fun update =>
      decide (update.thread.innermost.waitingFor = some (.input nameSlot)) &&
      (update.thread.notify? update.world (.inputSubmitted (.text "Ada"))).any (fun told =>
        let stopped := told.thread.mapRoot Activation.stop
        (firstRun? (Thread.visits { root := stopped.innermost } 1 told.world)).isNone &&
        (stopped.update 1 told.world).any (fun passed =>
          decide (passed.thread.chain.length = stopped.chain.length) &&
          (firstRun? (Thread.visits
            { root := (passed.thread.mapRoot Activation.resume).innermost } 1
            passed.world)).isSome))) = true := by
    decide +kernel
  obtain ⟨update, asked, facts⟩ := (Option.any_eq_true _ _).mp ran
  simp only [Bool.and_eq_true, decide_eq_true_eq, Option.any_eq_true, Option.isNone_iff_eq_none,
    Option.isSome_iff_exists] at facts
  obtain ⟨waits, told, accepted, silent, passed, updated, stays, executing, first⟩ := facts
  have attended := attended_asked asked
  have stopped : Idles told.thread told.world (told.thread.mapRoot Activation.stop) told.world :=
    .host .here rfl
  have idles : Idles told.thread told.world (passed.thread.mapRoot Activation.resume)
      passed.world :=
    .host (.update stopped silent updated stays) rfl
  have reads := (Attended.answer_read_back attended accepted waits rfl rfl).1 nofun trivial
  exact ⟨update.thread, update.world, told, _, _, executing, attended, waits, accepted, idles,
    first, reads _ _ _ _ idles first⟩

/-- In prepared scripts every accepted answer is read back in the form of its variable's kind, if
the wait and the variable fit. -/
def AlwaysReadBack (Fits : WaitReason → VariableRef → Prop) : Prop :=
  ∀ (run : Activation) (commands : List Command) (thread : Thread) (world : World)
    (event : HostEvent) (told : Run) (reason : WaitReason) (target : VariableRef)
    (value : Value),
    Script.compile commands = .ok run.script → Attended run thread →
    thread.notify? world event = some told → thread.innermost.waitingFor = some reason →
    reason.target? = some target → event.answer? = some value → Fits reason target →
    ReadBack told target (target.kind.convert value)

/-- The text that the label finds in `target` after the run was given an answer. -/
private def foundText? (command : Command) (instruction : Instruction) (reason : WaitReason)
    (event : HostEvent) (target : VariableRef) : Option String := do
  let update ← asked? command instruction
  if update.thread.innermost.waitingFor ≠ some reason then none
  else
    let told ← update.thread.notify? update.world event
    let executing ← firstRun? (Thread.visits { root := told.thread.innermost } 1 told.world)
    return ((Operand.slot target).value executing.2.store executing.1.root.context).toText

private theorem foundText_of_always {Fits : WaitReason → VariableRef → Prop}
    (always : AlwaysReadBack Fits) {command : Command} {instruction : Instruction}
    (compiled : Script.compile [command, { id := "Label" }] =
      .ok (scribe command instruction).script)
    {reason : WaitReason} {event : HostEvent} {target : VariableRef} {text : String}
    (found : foundText? command instruction reason event target = some text)
    (asks : reason.target? = some target) {value : Value} (answers : event.answer? = some value)
    (fits : Fits reason target) : text = (target.kind.convert value).toText := by
  simp only [foundText?, Option.bind_eq_bind, Option.bind_eq_some_iff] at found
  obtain ⟨update, asked, found⟩ := found
  split at found
  · cases found
  · rename_i waits
    simp only [Option.bind_eq_some_iff, Option.pure_def, Option.some.injEq] at found
    obtain ⟨told, accepted, executing, first, rfl⟩ := found
    have reads := always _ _ _ _ _ told reason target value compiled (attended_asked asked)
      accepted (Decidable.not_not.mp waits) asks answers fits
    rw [reads _ _ _ executing .here first]

private def temporaryName : VariableRef :=
  { nameSlot with scope := .temporary }

/-- A text that goes to a temporary variable is lost, and so is the number of a choice that goes
to a variable for texts. -/
theorem not_always_read_back :
    ¬ AlwaysReadBack (fun _ _ => True) ∧
    ¬ AlwaysReadBack (fun reason _ => reason.KeepsKind) ∧
    ¬ AlwaysReadBack (fun _ target => target.scope ≠ .temporary) := by
  have reset : ¬ AlwaysReadBack (fun reason _ => reason.KeepsKind) := by
    intro always
    have compiled : Script.compile [askText "temp", { id := "Label" }] =
        .ok (scribe (askText "temp") (.inputText temporaryName 8)).script := by
      rfl
    have found : foundText? (askText "temp") (.inputText temporaryName 8) (.input temporaryName)
        (.inputSubmitted (.text "Ada")) temporaryName = some "" := by
      decide +kernel
    exact absurd (foundText_of_always always compiled found rfl rfl trivial) (by decide)
  have mistyped : ¬ AlwaysReadBack (fun _ target => target.scope ≠ .temporary) := by
    intro always
    have compiled : Script.compile [offerOne, { id := "Label" }] =
        .ok (scribe offerOne (.showChoices [⟨.literal (.text "go"), none⟩] nameSlot)).script := by
      rfl
    have found : foundText? offerOne (.showChoices [⟨.literal (.text "go"), none⟩] nameSlot)
        (.choice [none] nameSlot) (.choiceSelected 0) nameSlot = some "" := by
      decide +kernel
    exact absurd (foundText_of_always always compiled found rfl rfl nofun) (by decide +kernel)
  refine ⟨fun always => reset ?_, reset, mistyped⟩
  intro run commands thread world event told reason target value compiled attended accepted waits
    asks answers _
  exact always run commands thread world event told reason target value compiled attended
    accepted waits asks answers trivial

end NovelEngine
