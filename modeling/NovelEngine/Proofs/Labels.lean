import NovelEngine.Proofs.Decoding
import NovelEngine.Proofs.EventDelivery
import NovelEngine.Proofs.Upkeep

/-!
Contract: the ways in which a run finds a label agree.

Owns:
- the index of labels and the targets of jumps, which preparing a script computes;
- the labels that runs note, which are right in every state that the calls of a host reach;
- jumps by name and jumps by command.

Does not own: what happens behind a label.

There are four answers to the question where a name leads: the index, the target of a jump
command, a search through the commands, and the note of an earlier jump. The search is the one
that the others are measured by.
-/

namespace NovelEngine

/-! ## Prepared scripts -/

namespace Script

/-- The command at `index` is a label of the given name. -/
def DeclaresAt (script : Script) (name : String) (index : Nat) : Prop :=
  ∃ command, script.command? index = some command ∧ command.id = "Label" ∧
    command.labelName? = some name

theorem declaredLabel?_iff {command : Command} {name : String} :
    declaredLabel? command = some name ↔
      command.id = "Label" ∧ command.labelName? = some name := by
  unfold declaredLabel?
  split
  · rename_i label
    simp [label]
  · rename_i other
    simp [other]

theorem declaresAt_iff {script : Script} {name : String} {index : Nat}
    (inside : index < script.commands.size) :
    script.DeclaresAt name index ↔ declaredLabel? script.commands[index] = some name := by
  unfold DeclaresAt Script.command?
  simp [Array.getElem?_eq_getElem inside, declaredLabel?_iff]

/-- The search finds the first label of a name. -/
theorem findLabel?_iff {script : Script} {name : String} {index : Nat} :
    script.findLabel? name = some index ↔
      script.DeclaresAt name index ∧ ∀ earlier < index, ¬ script.DeclaresAt name earlier := by
  unfold findLabel?
  rw [Array.findIdx?_eq_some_iff_getElem]
  constructor
  · rintro ⟨inside, here, before⟩
    refine ⟨(declaresAt_iff inside).mpr (of_decide_eq_true here), fun earlier less => ?_⟩
    rw [declaresAt_iff (Nat.lt_trans less inside)]
    simpa using before earlier less
  · rintro ⟨here, before⟩
    have inside : index < script.commands.size := by
      obtain ⟨command, found, _⟩ := here
      exact (Array.getElem?_eq_some_iff.mp found).1
    refine ⟨inside, decide_eq_true ((declaresAt_iff inside).mp here), fun earlier less => ?_⟩
    have other := before earlier less
    rw [declaresAt_iff (Nat.lt_trans less inside)] at other
    simpa using other

/-- The index adds to what it knows the first label of each other name. -/
theorem find?_indexLabels (labels : Registry String Nat) (index : Nat) (commands : List Command)
    (name : String) : (indexLabels labels index commands).find? name =
      (labels.find? name <|>
        (commands.findIdx? (fun command => declaredLabel? command = some name)).map
          (· + index)) := by
  induction commands generalizing labels index with
  | nil => simp [indexLabels]
  | cons command rest inductionHypothesis =>
      have shifted (found : Option Nat) :
          (found.map (· + 1)).map (· + index) = found.map (· + (index + 1)) := by
        cases found with
        | none => rfl
        | some position => simp only [Option.map_some, Option.some.injEq]; omega
      unfold indexLabels
      rw [inductionHypothesis, List.findIdx?_cons]
      cases declares : declaredLabel? command with
      | none => simp only [reduceCtorEq, decide_false, Bool.false_eq_true, if_false, shifted]
      | some label =>
          by_cases same : label = name
          · subst same
            cases known : labels.find? label with
            | none => simp [Registry.contains, known]
            | some earlier => simp [Registry.contains, known]
          · have kept : (if labels.contains label then labels else labels.insert label index).find?
                name = labels.find? name := by
              split
              · rfl
              · exact Registry.find?_insert_other labels index (Ne.symm same)
            simp only [kept, Option.some.injEq, same, decide_false, Bool.false_eq_true, if_false,
              shifted]

theorem label?_of_compile {commands : List Command} {script : Script}
    (compiled : Script.compile commands = .ok script) (name : String) :
    script.label? name = script.findLabel? name := by
  unfold Script.compile at compiled
  split at compiled
  · cases compiled
  · cases compiled
    simp [label?, findLabel?, find?_indexLabels]

theorem jumpTarget?_eq_of_compile {commands : List Command} {script : Script}
    (compiled : Script.compile commands = .ok script) (index : Nat) :
    script.jumpTarget? index = (script.command? index).bind (targetOf script.labels) := by
  unfold Script.compile at compiled
  split at compiled
  · cases compiled
  · cases compiled
    simp only [Script.jumpTarget?, Script.command?, List.getElem?_toArray, List.getElem?_map]
    cases commands[index]? <;> rfl

theorem jumpTarget?_of_compile {commands : List Command} {script : Script}
    (compiled : Script.compile commands = .ok script) {index : Nat} {command : Command}
    (found : script.command? index = some command) :
    script.jumpTarget? index = targetOf script.labels command := by
  rw [jumpTarget?_eq_of_compile compiled, found, Option.bind_some]

/-- Of a command that carries a name in a record, both readings give that name. -/
theorem labelName?_unique {command : Command} {name other : String}
    (carried : command.labelName? = some other)
    (read : Instruction.labelName? command.params = some name) : other = name := by
  obtain ⟨document, found, text⟩ := Option.bind_eq_some_iff.mp carried
  unfold Document.get? at found
  split at found
  · rename_i entries record
    have member : ("name", document) ∈ entries := by
      obtain ⟨before, after, split, _⟩ := List.lookup_eq_some_iff.mp found
      simp [split]
    have listed : ("name", document) ∈ entries.filter (fun entry => entry.1 = "name") :=
      List.mem_filter.mpr ⟨member, by simp⟩
    rw [record] at read
    cases shape : entries.filter (fun entry => entry.1 = "name") with
    | nil =>
        rw [shape] at listed
        cases listed
    | cons entry rest =>
        rw [shape] at listed
        cases rest with
        | nil =>
            have same : ("name", document) = entry := List.mem_singleton.mp listed
            subst same
            have read : document.text? = some name := by
              simpa [Instruction.labelName?, Document.fields?, Document.recordFields?, shape,
                Document.Field.required?] using read
            exact Option.some.inj (text.symm.trans read)
        | cons second rest =>
            simp [Instruction.labelName?, Document.fields?, Document.recordFields?, shape] at read
  · cases found

/-- A jump command of a prepared script that has a target in advance and names a label leads
to that label. -/
theorem label?_of_jumpTarget? {commands : List Command} {script : Script}
    (compiled : Script.compile commands = .ok script) {index : Nat} {command : Command}
    (found : script.command? index = some command) {name : String}
    (decoded : script.instruction? index = some (.jumpToLabel (some name))) {target : Nat}
    (leads : script.jumpTarget? index = some target) : script.label? name = some target := by
  rw [jumpTarget?_of_compile compiled found] at leads
  rw [instruction?_of_compile compiled found] at decoded
  unfold targetOf at leads
  split at leads
  · rename_i jump
    obtain ⟨other, carried, known⟩ := Option.bind_eq_some_iff.mp leads
    have named : instructionOf command = some (.jumpToLabel (Instruction.labelName?
        (if command.params.isNull then .record [] else command.params))) := by
      unfold instructionOf
      rw [jump]
      rfl
    have written : command.params.isNull = false := by
      cases null : command.params with
      | null => simp [Command.labelName?, Document.get?, null] at carried
      | _ => rfl
    rw [named, written] at decoded
    injection decoded with decoded
    injection decoded with read
    rw [← labelName?_unique carried read]
    exact known
  · cases leads

end Script

/-! ## Notes of earlier jumps -/

namespace Activation

/-- The labels that the run has noted are where a search would find them. -/
def NotesTruly (activation : Activation) : Prop :=
  ∀ name index, activation.labels.find? name = some index →
    activation.script.findLabel? name = some index

theorem NotesTruly.label?_eq {activation : Activation} (noted : activation.NotesTruly)
    (name : String) : activation.label? name = activation.script.findLabel? name := by
  unfold label?
  cases known : activation.labels.find? name with
  | none => rfl
  | some index => exact (noted name index known).symm

/-- With right notes, a jump by name goes where a search would. -/
theorem NotesTruly.jumps {activation : Activation} (noted : activation.NotesTruly)
    {name : String} {index : Nat} (found : activation.script.findLabel? name = some index) :
    ∃ labels, activation.jumpToLabel name = .ok ({ activation with labels }.jumpTo index) := by
  rcases activation.jumpToLabel_label? name with ⟨missing, _⟩ | ⟨position, labels, here, jumped⟩
  · rw [noted.label?_eq, found] at missing
    cases missing
  · rw [noted.label?_eq, found] at here
    cases here
    exact ⟨labels, jumped⟩

theorem NotesTruly.fails {activation : Activation} (noted : activation.NotesTruly)
    {name : String} (missing : activation.script.findLabel? name = none) :
    activation.jumpToLabel name = .error (.unknownLabel name) := by
  rcases activation.jumpToLabel_label? name with ⟨_, failed⟩ | ⟨position, _, here, _⟩
  · exact failed
  · rw [noted.label?_eq, missing] at here
    cases here

theorem notesTruly_empty {activation : Activation} (empty : activation.labels = {}) :
    activation.NotesTruly := by
  intro name index known
  rw [empty] at known
  cases known

theorem NotesTruly.jumpToLabel {activation jumped : Activation} (noted : activation.NotesTruly)
    {name : String} (found : activation.jumpToLabel name = .ok jumped) : jumped.NotesTruly := by
  unfold Activation.jumpToLabel at found
  split at found
  · cases found
    exact noted
  · split at found
    · rename_i position here
      cases found
      intro other index known
      by_cases same : other = name
      · subst same
        have known : (activation.labels.insert other position).find? other = some index := known
        rw [Registry.find?_insert_same] at known
        cases known
        exact here
      · have known : (activation.labels.insert name position).find? other = some index := known
        rw [Registry.find?_insert_other _ _ same] at known
        exact noted other index known
    · cases found

end Activation

/-- Only jumps note labels. -/
theorem Effect.labels {activation next : Activation} {instruction : Instruction}
    (effect : Effect activation instruction next)
    (stays : ∀ name, instruction ≠ .jumpToLabel name) : next.labels = activation.labels := by
  cases effect with
  | branch _ holds => cases holds <;> rfl
  | branchElse =>
      unfold Activation.branchElse
      split <;> rfl
  | jump name => exact absurd rfl (stays name)
  | _ => rfl

theorem Activation.NotesTruly.followJump {activation : Activation}
    (noted : activation.NotesTruly) (world : World) (id : String) (name : Option String) :
    (activation.followJump world id name).activation.NotesTruly := by
  unfold Activation.followJump
  split
  · exact noted
  · split
    · exact noted
    · rename_i label
      split
      · rename_i jumped found
        exact noted.jumpToLabel found
      · exact noted

theorem Activation.NotesTruly.perform {activation : Activation} (noted : activation.NotesTruly)
    (world : World) (id : String) (instruction : Instruction) :
    (activation.perform world id instruction).activation.NotesTruly := by
  have effect := activation.perform_effect world id instruction
  by_cases jumps : ∃ name, instruction = .jumpToLabel name
  · obtain ⟨name, rfl⟩ := jumps
    exact noted.followJump world id name
  · have labels := effect.labels (fun name same => jumps ⟨name, same⟩)
    intro name index known
    rw [labels] at known
    rw [effect.sameRun.script]
    exact noted name index known

theorem Activation.NotesTruly.takeChoice {activation : Activation}
    (noted : activation.NotesTruly) (world : World) (index : Nat) (label : Option String)
    (target : Option VariableRef) :
    (activation.takeChoice world index label target).activation.NotesTruly := by
  unfold Activation.takeChoice
  cases label with
  | none => exact noted
  | some name =>
      dsimp only
      split
      · rename_i jumped found
        exact noted.jumpToLabel found
      · exact noted

theorem Activation.NotesTruly.deliver {activation : Activation} (noted : activation.NotesTruly)
    {world : World} {event : HostEvent} {delivery : Delivery}
    (delivered : activation.deliver? world event = some delivery) :
    delivery.activation.NotesTruly := by
  have cleared : activation.clearWait.NotesTruly := noted
  unfold Activation.deliver? at delivered
  split at delivered
  · cases delivered
    exact cleared
  · split at delivered
    · cases delivered
    · cases delivered
      exact cleared.takeChoice _ _ _ _
  · cases delivered
    exact cleared
  · cases delivered
    exact cleared
  · cases delivered

/-- A snapshot carries right notes over to another run of the same script. -/
theorem Activation.NotesTruly.restore {source run : Activation} (noted : source.NotesTruly)
    (same : source.script = run.script) : (run.restore source.save).NotesTruly := by
  have kept : (run.restore source.save).labels = source.labels ∧
      (run.restore source.save).script = run.script := by
    unfold Activation.restore
    dsimp only
    split <;> exact ⟨rfl, rfl⟩
  intro name index known
  rw [kept.1] at known
  rw [kept.2, ← same]
  exact noted name index known

/-- The notes of a thread stay right, whatever its commands do. -/
theorem upkeep_notesTruly :
    Upkeep (fun _ => True) Activation.NotesTruly (fun _ => True) where
  congr := by
    intro run other noted script labels _ name index known
    rw [labels] at known
    rw [script]
    exact noted name index known
  reset := fun _ _ => trivial
  release := fun _ _ => trivial
  deactivate := fun _ _ => trivial
  deed := by
    intro deed _ _ noted _
    refine ⟨noted.perform _ _ _, trivial, fun callee called => ?_⟩
    obtain ⟨⟨context, script, rfl⟩, _⟩ := Activation.perform_call called
    exact Activation.notesTruly_empty rfl
  deliver := fun noted _ delivered => ⟨noted.deliver delivered, trivial⟩

/-! ## The calls of a host -/

/-- The states that the calls of a host reach from new runs: starts, stops, updates, events,
jumps, and snapshots of other runs of the same script. Each call may find another world and
grant another number of commands. -/
inductive Guided : Thread → Prop where
  | anew (run : Activation) : Guided { root := run.anew }
  | start {thread : Thread} (guided : Guided thread) : Guided thread.start
  | stop {thread : Thread} (guided : Guided thread) : Guided (thread.mapRoot Activation.stop)
  | resume {thread : Thread} (guided : Guided thread) :
      Guided (thread.mapRoot Activation.resume)
  | update {thread : Thread} {fuel : Nat} {world : World} {update : Update}
      (guided : Guided thread) (updated : thread.update fuel world = some update) :
      Guided update.thread
  | notify {thread : Thread} {world : World} {event : HostEvent} {notified : Run}
      (guided : Guided thread) (accepted : thread.notify? world event = some notified) :
      Guided notified.thread
  | jumpTo {thread : Thread} (guided : Guided thread) (index : Nat) :
      Guided (thread.mapRoot (Activation.jumpTo · index))
  | jumpToLabel {thread : Thread} {name : String} {jumped : Activation} (guided : Guided thread)
      (found : thread.root.jumpToLabel name = .ok jumped) :
      Guided { thread with root := jumped }
  | restore {thread saved : Thread} {source : Activation} (guided : Guided thread)
      (earlier : Guided saved) (member : source ∈ saved.chain)
      (same : source.script = thread.root.script) : Guided (thread.restore source.save)

theorem Guided.notesTruly {thread : Thread} (guided : Guided thread) :
    ∀ run ∈ thread.chain, run.NotesTruly := by
  have root {thread : Thread} (noted : ∀ run ∈ thread.chain, run.NotesTruly) :
      thread.root.NotesTruly := noted thread.root List.mem_cons_self
  have replace {thread : Thread} (noted : ∀ run ∈ thread.chain, run.NotesTruly)
      {other : Activation} (here : other.NotesTruly) :
      ∀ run ∈ Thread.chain { thread with root := other }, run.NotesTruly :=
    List.forall_mem_cons.mpr ⟨here, (List.forall_mem_cons.mp noted).2⟩
  induction guided with
  | anew run => exact List.forall_mem_singleton.mpr (Activation.notesTruly_empty rfl)
  | @start thread _ noted =>
      have here : thread.root.start.NotesTruly := root noted
      exact List.forall_mem_singleton.mpr here
  | stop _ noted => exact replace noted (root noted)
  | resume _ noted => exact replace noted (root noted)
  | update _ updated noted =>
      exact (upkeep_notesTruly.update updated noted trivial (fun _ _ => trivial)).fits
  | notify _ accepted noted => exact (upkeep_notesTruly.notify accepted noted trivial).1
  | jumpTo _ _ noted => exact replace noted (root noted)
  | jumpToLabel _ found noted => exact replace noted ((root noted).jumpToLabel found)
  | @restore thread _ source _ _ member same _ noted =>
      exact List.forall_mem_singleton.mpr ((noted source member).restore same)

/-! ## The ways to a label -/

/-- All ways in which a run finds a label lead to the same place. -/
structure Activation.ResolvesLabels (run : Activation) : Prop where
  /-- The index gives the first label of a name. -/
  first : ∀ name index, run.script.label? name = some index ↔
    run.script.DeclaresAt name index ∧
      ∀ earlier < index, ¬ run.script.DeclaresAt name earlier
  noted : ∀ name index, run.labels.find? name = some index →
    run.script.label? name = some index
  /-- A jump by name goes to the label and takes over its indent. -/
  known : ∀ name index, run.script.label? name = some index →
    ∃ jumped command, run.jumpToLabel name = .ok jumped ∧ jumped.pointer = index ∧
      run.script.command? index = some command ∧ jumped.indent = command.indent
  unknown : ∀ name, run.script.label? name = none →
    run.jumpToLabel name = .error (.unknownLabel name)
  /-- A jump by command does to the run what a jump by name does, but for the note. -/
  performed : ∀ world command name,
    run.script.command? run.pointer = some command →
    run.script.instruction? run.pointer = some (.jumpToLabel (some name)) →
    (∃ jumped labels, run.jumpToLabel name = .ok jumped ∧
        run.perform world command.id (.jumpToLabel (some name)) =
          .ofActivation world { jumped with labels }) ∨
      run.jumpToLabel name = .error (.unknownLabel name) ∧
        run.perform world command.id (.jumpToLabel (some name)) =
          .failed run world (.unknownLabel name)

/-- A jump by command, whether its target is known in advance or not. -/
theorem Activation.NotesTruly.followJump_eq {run : Activation} (noted : run.NotesTruly)
    {commands : List Command} (compiled : Script.compile commands = .ok run.script)
    {command : Command} (here : run.script.command? run.pointer = some command) {name : String}
    (decoded : run.script.instruction? run.pointer = some (.jumpToLabel (some name)))
    (world : World) :
    (∃ jumped labels, run.jumpToLabel name = .ok jumped ∧
        run.followJump world command.id (some name) = .ofActivation world { jumped with labels }) ∨
      run.jumpToLabel name = .error (.unknownLabel name) ∧
        run.followJump world command.id (some name) =
          .failed run world (.unknownLabel name) := by
  unfold Activation.followJump
  cases leads : run.script.jumpTarget? run.pointer with
  | some target =>
      have found := Script.label?_of_jumpTarget? compiled here decoded leads
      rw [Script.label?_of_compile compiled] at found
      obtain ⟨labels, jumped⟩ := noted.jumps found
      exact .inl ⟨_, run.labels, jumped, rfl⟩
  | none =>
      cases found : run.script.findLabel? name with
      | some index =>
          obtain ⟨labels, jumped⟩ := noted.jumps found
          exact .inl ⟨_, labels, jumped, by simp only [jumped]; rfl⟩
      | none =>
          have failed := noted.fails found
          exact .inr ⟨failed, by simp only [failed]⟩

/-- In a prepared script, all runs that the calls of a host reach find labels in the same way. -/
theorem Guided.resolvesLabels {thread : Thread} (guided : Guided thread) {run : Activation}
    (member : run ∈ thread.chain) {commands : List Command}
    (compiled : Script.compile commands = .ok run.script) : run.ResolvesLabels := by
  have noted := guided.notesTruly run member
  have indexed := Script.label?_of_compile compiled
  constructor
  · intro name index
    rw [indexed]
    exact Script.findLabel?_iff
  · intro name index here
    rw [indexed]
    exact noted name index here
  · intro name index found
    rw [indexed] at found
    obtain ⟨labels, jumped⟩ := noted.jumps found
    obtain ⟨⟨command, here, _⟩, _⟩ := Script.findLabel?_iff.mp found
    refine ⟨_, command, jumped, rfl, here, ?_⟩
    simp [Activation.jumpTo, Activation.clearWait, here]
  · intro name missing
    rw [indexed] at missing
    exact noted.fails missing
  · intro world command name here decoded
    exact noted.followJump_eq compiled here decoded world

/-- A jump to a name that two labels carry. -/
private def twoEnds : Script where
  commands := #[{ id := "JumpToLabel", params := .record [("name", .text "end")] },
    { id := "Label", params := .record [("name", .text "end")] },
    { id := "Label", params := .record [("name", .text "end")] }]
  instructions := #[some (.jumpToLabel (some "end")), some .label, some .label]
  labels := .ofList [("end", 1)]
  jumpTargets := #[some 1, none, none]

/-- A run that has taken over the snapshot of another one, which had jumped to the label, has
its note and finds all labels alike. -/
theorem twoEnds_resolvesLabels :
    Script.compile twoEnds.commands.toList = .ok twoEnds ∧
      ∃ thread, Guided thread ∧ thread.root.script = twoEnds ∧
        thread.root.labels.find? "end" = some 1 ∧ thread.root.ResolvesLabels := by
  let reader : Activation := { context := { id := "reader" }, script := twoEnds }
  let copyist : Activation := { context := { id := "copyist" }, script := twoEnds }
  have compiled : Script.compile twoEnds.commands.toList = .ok twoEnds := rfl
  have first : reader.anew.script.findLabel? "end" = some 1 := by decide +kernel
  have found : reader.anew.jumpToLabel "end" =
      .ok ({ reader.anew with labels := .ofList [("end", 1)] }.jumpTo 1) := by
    unfold Activation.jumpToLabel
    rw [first]
    rfl
  have guided := Guided.restore (.anew copyist) (.jumpToLabel (.anew reader) found)
    List.mem_cons_self rfl
  exact ⟨compiled, _, guided, rfl, rfl, guided.resolvesLabels List.mem_cons_self compiled⟩

end NovelEngine
