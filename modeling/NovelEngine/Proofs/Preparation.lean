import NovelEngine.Proofs.Labels

/-!
Contract: what preparing a command list accepts, and what it finds out about the list.

Owns:
- well indented lists, and the first command of any other list that is indented too deep;
- the labels, the targets of jumps and the known commands, said of the list itself.

Does not own: how a run moves through a prepared script.

The check of the indents carries along the indent of the command that it has passed last. An
induction over the rest of the list therefore has to know what stands in front of the rest.
-/

namespace NovelEngine

namespace Script

/-! ## Indents -/

/-- The command at `index` is indented too deep: the first one if it is indented at all, any
other if it stands more than one level below the command before it. -/
inductive TooDeep (commands : List Command) : (index indent previous : Nat) → Prop where
  | first {command : Command} (here : commands[0]? = some command) (deep : 0 < command.indent) :
      TooDeep commands 0 command.indent 0
  | later {index : Nat} {predecessor command : Command}
      (before : commands[index]? = some predecessor)
      (here : commands[index + 1]? = some command)
      (deep : predecessor.indent + 1 < command.indent) :
      TooDeep commands (index + 1) command.indent predecessor.indent

structure FirstTooDeep (commands : List Command) (index indent previous : Nat) : Prop where
  deep : TooDeep commands index indent previous
  first : ∀ earlier < index, ∀ indent previous, ¬ TooDeep commands earlier indent previous

/-- The first command stands at indent 0, and any other at most one level below the command
before it. -/
structure WellIndented (commands : List Command) : Prop where
  first : ∀ command, commands[0]? = some command → command.indent = 0
  later : ∀ index predecessor command, commands[index]? = some predecessor →
    commands[index + 1]? = some command → command.indent ≤ predecessor.indent + 1

/-- The indent that the command at `index` is measured by: that of the command before it. -/
inductive FollowsIndent (commands : List Command) : (index previous : Nat) → Prop where
  | top : FollowsIndent commands 0 0
  | behind {index : Nat} {predecessor : Command}
      (before : commands[index]? = some predecessor) :
      FollowsIndent commands (index + 1) predecessor.indent

section Indents

variable {commands : List Command} {index indent previous : Nat}

theorem wellIndented_iff :
    WellIndented commands ↔
      ∀ index indent previous, ¬ TooDeep commands index indent previous := by
  constructor
  · intro fits index indent previous deep
    cases deep with
    | first here deep => exact Nat.ne_of_gt deep (fits.first _ here)
    | later before here deep => exact Nat.not_lt.mpr (fits.later _ _ _ before here) deep
  · intro fits
    constructor
    · intro command here
      exact Nat.eq_zero_of_not_pos (fun deep => fits _ _ _ (.first here deep))
    · intro index predecessor command before here
      exact Nat.not_lt.mp (fun deep => fits _ _ _ (.later before here deep))

/-- Whether the command at hand is too deep is decided by its indent and the one before it. -/
theorem tooDeep_iff (follows : FollowsIndent commands index previous) {command : Command}
    (here : commands[index]? = some command) {depth measure : Nat} :
    TooDeep commands index depth measure ↔
      depth = command.indent ∧ measure = previous ∧
        (if index = 0 then 0 else previous + 1) < command.indent := by
  constructor
  · intro deep
    cases deep with
    | first found deep =>
        cases Option.some.inj (here.symm.trans found)
        cases follows
        exact ⟨rfl, rfl, deep⟩
    | later before found deep =>
        cases Option.some.inj (here.symm.trans found)
        cases follows with
        | behind known =>
            cases Option.some.inj (before.symm.trans known)
            exact ⟨rfl, rfl, deep⟩
  · rintro ⟨rfl, rfl, deep⟩
    cases follows with
    | top => exact .first here deep
    | behind before => exact .later before here deep

theorem TooDeep.inside (deep : TooDeep commands index indent previous) :
    index < commands.length := by
  cases deep with
  | first here _ => exact (List.getElem?_eq_some_iff.mp here).1
  | later _ here _ => exact (List.getElem?_eq_some_iff.mp here).1

theorem TooDeep.unique (deep : TooDeep commands index indent previous) {depth measure : Nat}
    (other : TooDeep commands index depth measure) : depth = indent ∧ measure = previous := by
  cases deep with
  | first here _ =>
      obtain ⟨same, measured, _⟩ := (tooDeep_iff .top here).mp other
      exact ⟨same, measured⟩
  | later before here _ =>
      obtain ⟨same, measured, _⟩ := (tooDeep_iff (.behind before) here).mp other
      exact ⟨same, measured⟩

theorem FirstTooDeep.unique (found : FirstTooDeep commands index indent previous)
    {place depth measure : Nat} (other : FirstTooDeep commands place depth measure) :
    place = index ∧ depth = indent ∧ measure = previous := by
  have same : place = index := by
    apply Nat.le_antisymm
    · exact Nat.not_lt.mp (fun less => other.first index less _ _ found.deep)
    · exact Nat.not_lt.mp (fun less => found.first place less _ _ other.deep)
  subst same
  exact ⟨rfl, found.deep.unique other.deep⟩

/-- If nothing in front of `index` is too deep, the check of the rest finds the first command
of the whole list that is. -/
theorem checkIndents_cases {rest : List Command} (suffix : commands.drop index = rest)
    (follows : FollowsIndent commands index previous)
    (passed : ∀ earlier < index, ∀ indent previous, ¬ TooDeep commands earlier indent previous) :
    (checkIndents index previous rest = .ok () ∧ WellIndented commands) ∨
      ∃ place depth measure,
        checkIndents index previous rest = .error (.malformedIndent place depth measure) ∧
        FirstTooDeep commands place depth measure := by
  induction rest generalizing index previous with
  | nil =>
      have ended : commands.length ≤ index := List.drop_eq_nil_iff.mp suffix
      refine .inl ⟨rfl, wellIndented_iff.mpr (fun place depth measure deep => ?_)⟩
      exact passed place (Nat.lt_of_lt_of_le deep.inside ended) depth measure deep
  | cons command rest inductionHypothesis =>
      have here : commands[index]? = some command := by
        rw [← List.head?_drop, suffix, List.head?_cons]
      have onwards : commands.drop (index + 1) = rest := by
        rw [← List.tail_drop, suffix, List.tail_cons]
      unfold checkIndents
      dsimp only
      by_cases deep : (if index = 0 then 0 else previous + 1) < command.indent
      · rw [if_pos deep]
        exact .inr ⟨_, _, _, rfl, (tooDeep_iff follows here).mpr ⟨rfl, rfl, deep⟩, passed⟩
      · rw [if_neg deep]
        apply inductionHypothesis onwards (.behind here)
        intro earlier less depth measure found
        rcases Nat.lt_succ_iff_lt_or_eq.mp less with before | same
        · exact passed earlier before depth measure found
        · subst same
          exact deep ((tooDeep_iff follows here).mp found).2.2

theorem compile_cases (commands : List Command) :
    (∃ script, compile commands = .ok script ∧ WellIndented commands) ∨
      ∃ place depth measure,
        compile commands = .error (.malformedIndent place depth measure) ∧
        FirstTooDeep commands place depth measure := by
  unfold compile
  rcases checkIndents_cases (List.drop_zero (l := commands)) .top nofun with
    ⟨checked, fits⟩ | ⟨place, depth, measure, checked, found⟩
  · rw [checked]
    exact .inl ⟨_, rfl, fits⟩
  · rw [checked]
    exact .inr ⟨place, depth, measure, rfl, found⟩

end Indents

end Script

/-! ## Names -/

/-- The parameters of the command are a record with the text `name` under that key. -/
def Command.Carries (command : Command) (name : String) : Prop :=
  ∃ entries, command.params = .record entries ∧ entries.lookup "name" = some (.text name)

theorem Command.labelName?_iff {command : Command} {name : String} :
    command.labelName? = some name ↔ command.Carries name := by
  unfold labelName? Carries Document.get?
  cases command.params with
  | record entries =>
      simp only [Option.bind_eq_bind, Option.bind_eq_some_iff]
      constructor
      · rintro ⟨document, found, text⟩
        cases document with
        | text value =>
            cases text
            exact ⟨entries, rfl, found⟩
        | _ => cases text
      · rintro ⟨_, same, found⟩
        cases same
        exact ⟨.text name, found, rfl⟩
  | _ => simp

namespace Script

/-! ## The index -/

/-- What preparing has found out about a command list. -/
structure Indexes (script : Script) (commands : List Command) : Prop where
  kept : script.commands.toList = commands
  /-- A name leads to the first label that carries it. -/
  label : ∀ name index, script.label? name = some index ↔
    (∃ command, commands[index]? = some command ∧ command.id = "Label" ∧
      command.Carries name) ∧
    ∀ earlier < index, ∀ command, commands[earlier]? = some command →
      ¬ (command.id = "Label" ∧ command.Carries name)
  /-- A jump has the place that its name leads to as its target. -/
  target : ∀ index place, script.jumpTarget? index = some place ↔
    ∃ command name, commands[index]? = some command ∧ command.id = "JumpToLabel" ∧
      command.Carries name ∧ script.label? name = some place
  /-- There is an instruction wherever the id of the command is known. -/
  known : ∀ index, (script.instruction? index).isSome = true ↔
    ∃ command, commands[index]? = some command ∧ command.id ∈ Opcode.table.map Prod.fst

theorem targetOf_eq_some_iff {labels : Registry String Nat} {command : Command} {place : Nat} :
    targetOf labels command = some place ↔
      ∃ name, command.id = "JumpToLabel" ∧ command.Carries name ∧
        labels.find? name = some place := by
  unfold targetOf
  split
  · rename_i jump
    simp [jump, Option.bind_eq_some_iff, Command.labelName?_iff]
  · rename_i other
    simp [other]

theorem isSome_instructionOf {command : Command} :
    (instructionOf command).isSome = true ↔ command.id ∈ Opcode.table.map Prod.fst := by
  unfold instructionOf Opcode.ofId?
  rw [Option.isSome_map, List.lookup_isSome_iff, List.mem_map]
  constructor
  · rintro ⟨entry, listed, same⟩
    exact ⟨entry, listed, (eq_of_beq same).symm⟩
  · rintro ⟨entry, listed, same⟩
    exact ⟨entry, listed, beq_iff_eq.mpr same.symm⟩

section Compiled

variable {commands : List Command} {script : Script}

theorem commands_of_compile (compiled : compile commands = .ok script) :
    script.commands.toList = commands := by
  unfold compile at compiled
  split at compiled
  · cases compiled
  · cases compiled
    rfl

theorem command?_of_compile (compiled : compile commands = .ok script) (index : Nat) :
    script.command? index = commands[index]? := by
  rw [Script.command?, ← Array.getElem?_toList, commands_of_compile compiled]

theorem declaresAt_iff_of_compile (compiled : compile commands = .ok script) {name : String}
    {index : Nat} :
    script.DeclaresAt name index ↔
      ∃ command, commands[index]? = some command ∧ command.id = "Label" ∧
        command.Carries name := by
  unfold DeclaresAt
  rw [command?_of_compile compiled]
  simp only [Command.labelName?_iff]

theorem indexes_of_compile (compiled : compile commands = .ok script) :
    script.Indexes commands where
  kept := commands_of_compile compiled
  label := by
    intro name index
    rw [label?_of_compile compiled, findLabel?_iff]
    simp only [declaresAt_iff_of_compile compiled, not_exists, not_and]
  target := by
    intro index place
    rw [jumpTarget?_eq_of_compile compiled, command?_of_compile compiled,
      Option.bind_eq_some_iff]
    simp only [targetOf_eq_some_iff, label?]
    constructor
    · rintro ⟨command, found, name, facts⟩
      exact ⟨command, name, found, facts⟩
    · rintro ⟨command, name, found, facts⟩
      exact ⟨command, found, name, facts⟩
  known := by
    intro index
    rw [instruction?_eq_of_compile compiled, command?_of_compile compiled]
    cases commands[index]? with
    | none => simp
    | some command => simp [isSome_instructionOf]

end Compiled

/-- Preparing accepts exactly the well indented command lists. Of any other list it names the
first command that is indented too deep, with its indent and the indent before it. A prepared
script keeps its commands in order; a name leads to the first label that carries it, a jump to
the place that its name leads to, and a command has an instruction exactly if its id is in the
table. -/
theorem compile_exact (commands : List Command) :
    ((∃ script, compile commands = .ok script) ↔ WellIndented commands) ∧
    (∀ error, compile commands = .error error ↔
      ∃ index indent previous, error = .malformedIndent index indent previous ∧
        FirstTooDeep commands index indent previous) ∧
    ∀ script, compile commands = .ok script → script.Indexes commands := by
  refine ⟨?_, ?_, fun script compiled => indexes_of_compile compiled⟩
  · rcases compile_cases commands with ⟨script, compiled, fits⟩ | ⟨_, _, _, refused, found⟩
    · exact ⟨fun _ => fits, fun _ => ⟨script, compiled⟩⟩
    · constructor
      · rintro ⟨script, compiled⟩
        cases refused.symm.trans compiled
      · intro fits
        exact absurd found.deep (wellIndented_iff.mp fits _ _ _)
  · intro error
    rcases compile_cases commands with ⟨script, compiled, fits⟩ | ⟨_, _, _, refused, found⟩
    · constructor
      · intro refused
        cases refused.symm.trans compiled
      · rintro ⟨_, _, _, _, found⟩
        exact absurd found.deep (wellIndented_iff.mp fits _ _ _)
    · rw [refused]
      constructor
      · intro same
        cases same
        exact ⟨_, _, _, rfl, found⟩
      · rintro ⟨_, _, _, rfl, other⟩
        obtain ⟨rfl, rfl, rfl⟩ := found.unique other
        rfl

/-- Two labels of one name, a jump to them from in front, and a command nobody knows. -/
private def crossroads : List Command :=
  [{ id := "JumpToLabel", params := .record [("name", .text "end")] },
    { id := "Loop" },
    { id := "Whistle", indent := 1 },
    { id := "Label", params := .record [("name", .text "end")] },
    { id := "Label", params := .record [("name", .text "end")] }]

/-- The jump leads to the first of the two labels, and the unknown command has no instruction.
A label two levels below the loop in front of it is refused. -/
theorem crossroads_indexed :
    WellIndented crossroads ∧
    (∃ script, compile crossroads = .ok script ∧ script.label? "end" = some 3 ∧
      script.jumpTarget? 0 = some 3 ∧ ¬ (script.instruction? 2).isSome = true) ∧
    compile [{ id := "Loop" }, { id := "Label", indent := 2 }] =
      .error (.malformedIndent 1 2 0) := by
  obtain ⟨accepts, _, indexes⟩ := compile_exact crossroads
  have compiled : ∃ script, compile crossroads = .ok script := ⟨_, rfl⟩
  refine ⟨accepts.mp compiled, ?_, ?_⟩
  · obtain ⟨script, compiled⟩ := compiled
    have index := indexes script compiled
    have label : script.label? "end" = some 3 := by
      refine (index.label "end" 3).mpr ⟨⟨_, rfl, rfl, _, rfl, rfl⟩, ?_⟩
      intro earlier less command found declares
      obtain rfl | rfl | rfl : earlier = 0 ∨ earlier = 1 ∨ earlier = 2 := by omega
      all_goals
        cases found
        exact absurd declares.1 (by decide)
    refine ⟨script, compiled, label, ?_, ?_⟩
    · exact (index.target 0 3).mpr ⟨_, "end", rfl, rfl, ⟨_, rfl, rfl⟩, label⟩
    · intro known
      obtain ⟨command, found, listed⟩ := (index.known 2).mp known
      cases found
      exact absurd listed (by decide)
  · obtain ⟨_, refuses, _⟩ := compile_exact [{ id := "Loop" }, { id := "Label", indent := 2 }]
    have deep : TooDeep [{ id := "Loop" }, { id := "Label", indent := 2 }] 1 2 0 :=
      @TooDeep.later _ 0 { id := "Loop" } { id := "Label", indent := 2 } rfl rfl (by decide)
    refine (refuses _).mpr ⟨1, 2, 0, rfl, deep, ?_⟩
    intro earlier less indent previous deep
    obtain rfl : earlier = 0 := by omega
    cases deep with
    | first here deep =>
        cases here
        exact absurd deep (Nat.lt_irrefl 0)

end Script

end NovelEngine
