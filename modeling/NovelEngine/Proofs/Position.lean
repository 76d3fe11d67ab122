import NovelEngine.Proofs.CommandBudget
import NovelEngine.Proofs.Decoding

/-!
Contract: the position of every run of a thread, wherever its host sends it.

Owns:
- the states that the calls of a host reach from a new run, jumps included;
- how pointer, indent and registered loops fit the script in these states and in all
  states in which an update executes a command;
- where a run lands that goes back to a loop.

Does not own: which loop it goes back to.

A jump of the host leaves the loops registered that surround the old position, and it may
come while a called script is running. Neither matters here: a registered loop is sound by
itself, and a jump takes over the indent of the command that it goes to.
-/

namespace NovelEngine

/-! ## Updates -/

/-- Every run of the thread is in place. -/
def Thread.InPlaceThroughout (thread : Thread) : Prop :=
  ∀ run ∈ thread.chain, run.InPlace

namespace Thread.InPlaceThroughout

variable {thread : Thread}

theorem root (throughout : thread.InPlaceThroughout) : thread.root.InPlace :=
  throughout thread.root List.mem_cons_self

theorem single {activation : Activation} (inPlace : activation.InPlace) :
    InPlaceThroughout { root := activation } :=
  List.forall_mem_singleton.mpr inPlace

theorem replaceRoot (throughout : thread.InPlaceThroughout) {root : Activation}
    (inPlace : root.InPlace) : InPlaceThroughout { thread with root } :=
  List.forall_mem_cons.mpr ⟨inPlace, (List.forall_mem_cons.mp throughout).2⟩

theorem innermost (throughout : thread.InPlaceThroughout) : thread.innermost.InPlace := by
  unfold Thread.innermost
  cases last : thread.callees.getLast? with
  | none => exact throughout.root
  | some run =>
      exact throughout run (List.mem_cons_of_mem _ (List.mem_of_getLast? last))

end Thread.InPlaceThroughout

/-- A called script begins in place. -/
theorem Activation.inPlace_of_called {activation : Activation} {world : World} {id : String}
    {instruction : Instruction} {callee : Activation}
    (called : (activation.perform world id instruction).callee = some callee) :
    callee.InPlace := by
  obtain ⟨⟨context, script, rfl⟩, _⟩ := Activation.perform_call called
  exact Activation.inPlace_start _

/-- Called scripts come to rest in place. -/
def CalleesInPlace (runCallee : CalleeRunner) : Prop :=
  ∀ callee world update, callee.InPlace → runCallee callee world = some update →
    update.thread.InPlaceThroughout

section Updates

variable {runCallee : CalleeRunner} {activation : Activation} {world : World}

theorem Handling.calleesInPlace (inner : CalleesInPlace runCallee) {next : Thread}
    {after : World} (handling : Handling runCallee { root := activation } world next after) :
    ∀ run ∈ next.callees, run.InPlace := by
  cases handling with
  | skip => exact List.forall_mem_nil _
  | ignore => exact List.forall_mem_nil _
  | perform => exact List.forall_mem_nil _
  | callThrough => exact List.forall_mem_nil _
  | call _ _ _ performed called ran =>
      subst performed
      exact inner _ _ _ (Activation.inPlace_of_called called) ran

theorem Step.inPlaceThroughout (inner : CalleesInPlace runCallee)
    (inPlace : activation.InPlace) {next : Thread} {after : World}
    (step : Step runCallee { root := activation } world next after) (executed : Nat) :
    (next.counted after.config executed).InPlaceThroughout := by
  refine List.forall_mem_cons.mpr ⟨(step.inPlace inPlace).counted after.config executed, ?_⟩
  cases step with
  | pause => exact List.forall_mem_nil _
  | move handling => exact handling.calleesInPlace inner

theorem lastsFrame_inPlaceThroughout (inner : CalleesInPlace runCallee) :
    LastsFrame runCallee (fun _ thread _ => thread.InPlaceThroughout) where
  reset := id
  start := fun _ _ _ => .single (Activation.inPlace_start _)
  count := fun throughout _ _ => .single (throughout.root.congr rfl rfl rfl rfl rfl)
  unpark := fun throughout _ _ => .single (throughout.root.congr rfl rfl rfl rfl rfl)
  pass := fun throughout _ step => step.inPlaceThroughout inner throughout.root _
  finish := fun throughout _ => .single (throughout.root.congr rfl rfl rfl rfl rfl)

end Updates

theorem calleesInPlace (fuel room : Nat) : CalleesInPlace (advance fuel room) := by
  induction room with
  | zero =>
      intro callee world update _ ran
      cases ran
  | succ room inductionHypothesis =>
      intro callee world update inPlace ran
      exact updateFrame_fact (lastsFrame_inPlaceThroughout inductionHypothesis) none
        (.single inPlace) ran

/-- An update leaves every run in place, also those that wait for called scripts. -/
theorem Thread.InPlaceThroughout.update {thread : Thread}
    (throughout : thread.InPlaceThroughout) {fuel : Nat} {world : World} {update : Update}
    (updated : thread.update fuel world = some update) :
    update.thread.InPlaceThroughout := by
  obtain ⟨root, callees⟩ := thread
  induction callees generalizing root update with
  | nil => exact calleesInPlace fuel _ root world update throughout.root updated
  | cons callee rest inductionHypothesis =>
      obtain ⟨here, others⟩ := List.forall_mem_cons.mp throughout
      obtain ⟨inner, ran, _, outcome⟩ := Thread.update_calling updated
      rcases outcome with ⟨_, thread, _⟩ | ⟨_, thread, _⟩
      · rw [thread]
        exact List.forall_mem_cons.mpr ⟨here, inductionHypothesis callee others ran⟩
      · rw [thread]
        exact .single (here.congr rfl rfl rfl rfl rfl)

theorem Activation.InPlace.deliver {activation : Activation} (inPlace : activation.InPlace)
    {world : World} {event : HostEvent} {delivery : Delivery}
    (delivered : activation.deliver? world event = some delivery) :
    delivery.activation.InPlace := by
  obtain ⟨_, same | ⟨labels, index, jumped⟩⟩ := Activation.deliver?_cases delivered
  · rw [same]
    exact inPlace.congr rfl rfl rfl rfl rfl
  · rw [jumped]
    apply Activation.InPlace.jumpTo
    exact inPlace.congr rfl rfl rfl rfl rfl

theorem Thread.InPlaceThroughout.notify {thread : Thread}
    (throughout : thread.InPlaceThroughout) {world : World} {event : HostEvent} {run : Run}
    (accepted : thread.notify? world event = some run) : run.thread.InPlaceThroughout := by
  obtain ⟨root, callees⟩ := thread
  induction callees generalizing root run with
  | nil =>
      obtain ⟨delivery, delivered, rfl⟩ := Option.map_eq_some_iff.mp accepted
      exact .single (throughout.root.deliver delivered)
  | cons callee rest inductionHypothesis =>
      obtain ⟨here, others⟩ := List.forall_mem_cons.mp throughout
      obtain ⟨inner, reached, rfl⟩ := Option.map_eq_some_iff.mp accepted
      exact List.forall_mem_cons.mpr ⟨here, inductionHypothesis callee others reached⟩

/-! ## The states inside an update -/

/-- Wherever an update executes a command, at any depth of calls, the run is in place. -/
theorem advanceLoops_inPlace (fuel room : Nat) {activation : Activation} {world : World}
    (inPlace : activation.InPlace) {loop : List (Thread × World)}
    (inside : loop ∈ advanceLoops fuel room activation world) {visit : Thread × World}
    (visited : visit ∈ loop) : visit.1.root.InPlace := by
  induction room generalizing activation world with
  | zero => cases inside
  | succ room inductionHypothesis =>
      rcases List.mem_cons.mp inside with own | called
      · rw [own] at visited
        have lasts := lastsFrame_inPlaceThroughout (calleesInPlace fuel room)
        obtain ⟨⟨_, throughout⟩, _⟩ := frameVisits_fact lasts none (.single inPlace) visited
        exact throughout.root
      · obtain ⟨caller, _, inside⟩ := List.mem_flatMap.mp called
        unfold loopsAt at inside
        split at inside
        · cases inside
        · rename_i deed due
          obtain ⟨callee, calls, inside⟩ := List.mem_flatMap.mp inside
          have began : callee.InPlace :=
            Activation.inPlace_of_called (Option.mem_toList.mp calls)
          exact inductionHypothesis began inside

/-! ## The calls of a host -/

/-- The states that the calls of a host reach from a new run, jumps included. Each call may
find another world and grant another number of commands. -/
inductive Steered (run : Activation) : Thread → Prop where
  | anew : Steered run { root := run.anew }
  | start {thread : Thread} (steered : Steered run thread) : Steered run thread.start
  | update {thread : Thread} {fuel : Nat} {world : World} {update : Update}
      (steered : Steered run thread) (updated : thread.update fuel world = some update) :
      Steered run update.thread
  | notify {thread : Thread} {world : World} {event : HostEvent} {notified : Run}
      (steered : Steered run thread) (accepted : thread.notify? world event = some notified) :
      Steered run notified.thread
  | jumpTo {thread : Thread} (steered : Steered run thread) (index : Nat) :
      Steered run (thread.mapRoot (Activation.jumpTo · index))
  | jumpToLabel {thread : Thread} {name : String} {jumped : Activation}
      (steered : Steered run thread) (found : thread.root.jumpToLabel name = .ok jumped) :
      Steered run { thread with root := jumped }

theorem Steered.inPlaceThroughout {run : Activation} {thread : Thread}
    (steered : Steered run thread) : thread.InPlaceThroughout := by
  induction steered with
  | anew => exact .single (consistent_anew run).inPlace
  | start => exact .single (Activation.inPlace_start _)
  | update _ updated throughout => exact throughout.update updated
  | notify _ accepted throughout => exact throughout.notify accepted
  | jumpTo _ index throughout => exact throughout.replaceRoot (throughout.root.jumpTo index)
  | jumpToLabel _ found throughout =>
      obtain ⟨labels, index, rfl⟩ := Activation.jumpToLabel_eq found
      apply throughout.replaceRoot
      apply Activation.InPlace.jumpTo
      exact throughout.root.congr rfl rfl rfl rfl rfl

/-! ## The position in a prepared script -/

/-- A loop instruction of a prepared script belongs to a loop command. -/
theorem Script.id_of_loop {commands : List Command} {script : Script}
    (compiled : Script.compile commands = .ok script) {index : Nat} {command : Command}
    (found : script.command? index = some command)
    (decoded : script.instruction? index = some .loop) : command.id = "Loop" := by
  have named : ∀ entry ∈ Opcode.table, entry.2 = .loop → entry.1 = "Loop" := by decide
  have entry : Opcode.table.lookup command.id = some .loop :=
    Script.ofId?_of_opcode compiled found decoded rfl
  obtain ⟨before, after, split, _⟩ := List.lookup_eq_some_iff.mp entry
  exact named (command.id, .loop) (by rw [split]; simp) rfl

namespace Activation

/-- The command at `index` is a loop at the given indent. -/
def HasLoopAt (activation : Activation) (index indent : Nat) : Prop :=
  index < activation.script.size ∧ ∃ command, activation.script.command? index = some command ∧
    command.id = "Loop" ∧ command.indent = indent

/-- The position fits the script: registered loops are loops, and the run is not indented
deeper than the command at its pointer. -/
structure FitsScript (activation : Activation) : Prop where
  loops : ∀ indent start, activation.loopStart? indent = some start →
    activation.HasLoopAt start indent
  indent : activation.pointer < activation.script.size →
    activation.indent ≤ activation.script.indentAt activation.pointer

/-- The run one command further, before it leaves any block. -/
def onward (activation : Activation) : Activation :=
  { activation with pointer := activation.pointer + 1 }

/-- When the step past the current command goes back to the loop at `start`: a block ends
behind the command, and the loop is registered at the indent that the run falls back to. -/
def FallsBackTo (activation : Activation) (start : Nat) : Prop :=
  activation.holdPointer = false ∧ activation.onward.nextIndent < activation.indent ∧
    activation.loopStart? activation.onward.nextIndent = some start

instance (activation : Activation) (start : Nat) : Decidable (activation.FallsBackTo start) :=
  inferInstanceAs (Decidable (_ ∧ _ ∧ _))

/-- What a step past the current command does: it goes to the next command or falls back to
a loop. There it stands on a loop command at its own indent, which runs next in every world
whose preview does not stop before it. -/
structure LandsOnLoop (activation : Activation) : Prop where
  falls : activation.holdPointer = false →
    activation.stepPast.pointer ≠ activation.pointer + 1 →
    ∃ start, activation.FallsBackTo start
  lands : ∀ start, activation.FallsBackTo start →
    activation.stepPast.pointer = start ∧
      activation.stepPast.HasLoopAt start activation.stepPast.indent ∧
      activation.script.instruction? start = some .loop ∧
      ∀ world : World,
        (world.config.preview = true → activation.preview.cursor ≠ some start) →
        activation.stepPast.runsNext world = true

variable {activation : Activation} {commands : List Command}

theorem LoopsSound.hasLoopAt (sound : activation.LoopsSound)
    (compiled : Script.compile commands = .ok activation.script) {indent start : Nat}
    (registered : activation.loopStart? indent = some start) :
    activation.HasLoopAt start indent := by
  obtain ⟨command, found, same, decoded⟩ := sound indent start registered
  obtain ⟨inside, _⟩ := Array.getElem?_eq_some_iff.mp found
  exact ⟨inside, command, found, Script.id_of_loop compiled found decoded, same⟩

theorem InPlace.fitsScript (inPlace : activation.InPlace)
    (compiled : Script.compile commands = .ok activation.script) : activation.FitsScript where
  loops := fun _ _ registered => inPlace.loops.hasLoopAt compiled registered
  indent := by
    intro inside
    obtain ⟨command, found⟩ := Script.command?_of_lt inside
    rw [Script.indentAt_eq found]
    exact inPlace.indent found

/-- Where a step that is not held back ends. -/
theorem stepPast_cases (free : activation.holdPointer = false) :
    activation.onward.nextIndent < activation.indent ∧
        activation.stepPast = { activation with
          pointer := (activation.loopStart? activation.onward.nextIndent).getD
            (activation.pointer + 1)
          indent := activation.onward.nextIndent } ∨
      ¬ activation.onward.nextIndent < activation.indent ∧
        activation.stepPast = activation.onward := by
  have step : activation.stepPast = activation.onward.settleIndent := stepPast_of_free free
  rw [step]
  unfold settleIndent
  dsimp only
  split
  · rename_i lower
    exact .inl ⟨lower, rfl⟩
  · rename_i deeper
    exact .inr ⟨deeper, rfl⟩

/-- The position behind a step that falls back to a loop. -/
theorem FallsBackTo.stepPast_eq {start : Nat} (falls : activation.FallsBackTo start) :
    activation.stepPast =
      { activation with pointer := start, indent := activation.onward.nextIndent } := by
  obtain ⟨free, lower, registered⟩ := falls
  rcases stepPast_cases free with ⟨_, settled⟩ | ⟨deeper, _⟩
  · rw [settled, registered, Option.getD_some]
  · exact absurd lower deeper

/-- A step that does not go to the next command falls back to a loop. -/
theorem fallsBackTo_of_apart (free : activation.holdPointer = false)
    (apart : activation.stepPast.pointer ≠ activation.pointer + 1) :
    ∃ start, activation.FallsBackTo start := by
  rcases stepPast_cases free with ⟨lower, settled⟩ | ⟨_, same⟩
  · cases registered : activation.loopStart? activation.onward.nextIndent with
    | none =>
        rw [settled, registered] at apart
        exact absurd rfl apart
    | some start => exact ⟨start, free, lower, registered⟩
  · rw [same] at apart
    exact absurd rfl apart

theorem LoopsSound.landsOnLoop (sound : activation.LoopsSound)
    (compiled : Script.compile commands = .ok activation.script) :
    activation.LandsOnLoop where
  falls := fallsBackTo_of_apart
  lands := by
    intro start falls
    have position := falls.stepPast_eq
    obtain ⟨_, _, registered⟩ := falls
    obtain ⟨command, found, indent, decoded⟩ := sound _ start registered
    have loop := sound.hasLoopAt compiled registered
    rw [position]
    refine ⟨rfl, loop, decoded, ?_⟩
    intro world plays
    simp only [runsNext, found, indent, decide_true, Bool.true_and, Bool.not_eq_true']
    simpa using plays

end Activation

/-- Whatever its host does, a run of a prepared script and every script behind it stands
where its position fits the script, between the calls of the host and in every state in
which an update executes a command. When it steps past a command and goes back to a loop,
it lands on a loop command at its own indent, which runs next. -/
theorem Steered.fits_throughout {run : Activation} {thread : Thread}
    (steered : Steered run thread) :
    (∀ member ∈ thread.chain, ∀ commands, Script.compile commands = .ok member.script →
        member.FitsScript) ∧
      ∀ fuel world, ∀ loop ∈ thread.loops fuel world, ∀ visit ∈ loop, ∀ commands,
        Script.compile commands = .ok visit.1.root.script →
        visit.1.root.FitsScript ∧
          ∀ runCallee handled, visit.1.handle visit.2 runCallee = some handled →
            handled.thread.root.LandsOnLoop := by
  have throughout := steered.inPlaceThroughout
  constructor
  · intro member inside commands compiled
    exact (throughout member inside).fitsScript compiled
  · intro fuel world loop inside visit visited commands compiled
    have inPlace : visit.1.root.InPlace :=
      advanceLoops_inPlace fuel _ throughout.innermost inside visited
    refine ⟨inPlace.fitsScript compiled, ?_⟩
    intro runCallee handled handles
    have handling := Thread.handle_cases handles
    have sound := handling.loopsSound inPlace.loops
    have script := handling.sameRun.script
    exact sound.landsOnLoop (script ▸ compiled)

/-- A loop that shows a message in each round. -/
def chatter : Script where
  commands := #[{ id := "Loop" },
    { id := "ShowMessage", indent := 1, params := .record [("text", .text "Hello")] }]
  instructions := #[some .loop, some (.showMessage (.literal (.text "Hello")) none none)]
  jumpTargets := #[none, none]

/-- A run of the script that was sent back to the message while it showed it. -/
def chattering : Thread where
  root := {
    context := { id := "hall" }
    script := chatter
    pointer := 1
    indent := 1
    loops := #[some 0]
    isRunning := true }

/-- The loop is still registered after the jump, and the run lands on it when the message is
shown again. -/
theorem chattering_fitsScript :
    Script.compile chatter.commands.toList = .ok chatter ∧
      Steered { context := { id := "hall" }, script := chatter } chattering ∧
      chattering.root.loopStart? 0 = some 0 ∧ chattering.root.FitsScript ∧
      ∃ loop ∈ chattering.loops 2 .empty, ∃ visit ∈ loop, ∃ handled,
        visit.1.handle visit.2 (fun _ _ => none) = some handled ∧
        handled.thread.root.FallsBackTo 0 ∧ handled.thread.root.LandsOnLoop := by
  have compiled : Script.compile chatter.commands.toList = .ok chatter := rfl
  have started : Steered { context := { id := "hall" }, script := chatter }
      { root := Activation.start { context := { id := "hall" }, script := chatter } } :=
    .start .anew
  have steered : Steered { context := { id := "hall" }, script := chatter } chattering := by
    have updated : ∃ update, Thread.update
        { root := Activation.start { context := { id := "hall" }, script := chatter } } 2 .empty =
          some update ∧ update.thread.mapRoot (Activation.jumpTo · 1) = chattering :=
      ⟨_, rfl, rfl⟩
    obtain ⟨update, updated, jumped⟩ := updated
    rw [← jumped]
    exact .jumpTo (.update started updated) 1
  obtain ⟨between, during⟩ := Steered.fits_throughout steered
  refine ⟨compiled, steered, rfl, between _ List.mem_cons_self _ compiled, ?_⟩
  let world : World := World.empty.resetTemporaries { id := "hall" }
  have handled : ∃ handled, chattering.handle world (fun _ _ => none) = some handled ∧
      handled.thread.root.FallsBackTo 0 := ⟨_, rfl, by decide⟩
  obtain ⟨handled, handles, falls⟩ := handled
  have inside : commandVisits (advance 2 63) 2 0 chattering world ∈ chattering.loops 2 .empty :=
    List.mem_cons_self
  have visited : (chattering, world) ∈ commandVisits (advance 2 63) 2 0 chattering world :=
    List.mem_cons_self
  have lands := (during 2 .empty _ inside _ visited _ compiled).2 _ handled handles
  exact ⟨_, inside, _, visited, handled, handles, falls, lands⟩

end NovelEngine
