import NovelEngine.Proofs.Suspension

/-!
Contract: the lock of the message box while one thread is updated or told of an event.

Owns:
- the runs that hold the lock;
- the chain of a thread, in which all but the innermost run wait for a called script;
- what an update or an event may do to the lock and to what is shown under it.

Does not own: the threads of a game, and scene changes.

A lock names a context, and several runs may share one. The statements below therefore
compare lists of runs: the runs of one thread before and after, to which the runs of any
other threads can be added.
-/

namespace NovelEngine

/-! ## Holders of the lock -/

/-- Whether the run is blocked until the player submits an input. -/
def Activation.awaitsInput (activation : Activation) : Bool :=
  match activation.waitingFor with
  | some (.input _) => true
  | _ => false

theorem Activation.awaitsInput_congr {left right : Activation}
    (reason : left.waitingFor = right.waitingFor) : left.awaitsInput = right.awaitsInput := by
  unfold awaitsInput
  rw [reason]

theorem Activation.IsAwake.awaitsInput {activation : Activation} (awake : activation.IsAwake) :
    activation.awaitsInput = false := by
  simp [Activation.awaitsInput, awake.reason]

/-- A run in `context` is blocked on an input. -/
def HoldsLock (runs : List Activation) (context : Context) : Prop :=
  ∃ run ∈ runs, run.context = context ∧ run.awaitsInput = true

instance (runs : List Activation) (context : Context) : Decidable (HoldsLock runs context) :=
  inferInstanceAs (Decidable (∃ run ∈ runs, run.context = context ∧ run.awaitsInput = true))

/-- How many of the runs are in `context`. -/
def contextCount (runs : List Activation) (context : Context) : Nat :=
  (runs.map Activation.context).count context

section Runs

variable {root : Activation} {runs : List Activation} {context : Context}

@[simp] theorem not_holdsLock_nil : ¬ HoldsLock [] context := by
  simp [HoldsLock]

@[simp] theorem holdsLock_append {others : List Activation} :
    HoldsLock (runs ++ others) context ↔ HoldsLock runs context ∨ HoldsLock others context := by
  simp only [HoldsLock, List.mem_append, or_and_right, exists_or]

theorem holdsLock_cons :
    HoldsLock (root :: runs) context ↔
      root.context = context ∧ root.awaitsInput = true ∨ HoldsLock runs context := by
  simp only [HoldsLock, List.mem_cons, or_and_right, exists_or, exists_eq_left]

/-- A run that awaits no input does not count as a holder. -/
theorem holdsLock_cons_of_quiet (quiet : root.awaitsInput = false) :
    HoldsLock (root :: runs) context ↔ HoldsLock runs context := by
  simp [holdsLock_cons, quiet]

theorem holdsLock_congr {other : Activation} (same : other.context = root.context)
    (reason : other.waitingFor = root.waitingFor) :
    HoldsLock (other :: runs) context ↔ HoldsLock (root :: runs) context := by
  rw [holdsLock_cons, holdsLock_cons, same, Activation.awaitsInput_congr reason]

@[simp] theorem contextCount_append {others : List Activation} :
    contextCount (runs ++ others) context =
      contextCount runs context + contextCount others context := by
  simp [contextCount]

theorem contextCount_cons :
    contextCount (root :: runs) context =
      contextCount runs context + if root.context = context then 1 else 0 := by
  simp [contextCount, List.count_cons]

theorem contextCount_congr {other : Activation} (same : other.context = root.context) :
    contextCount (other :: runs) context = contextCount (root :: runs) context := by
  rw [contextCount_cons, contextCount_cons, same]

theorem contextCount_pos : 0 < contextCount runs context ↔
    context ∈ runs.map Activation.context :=
  List.count_pos_iff

/-- A holder is one of the runs in its context. -/
theorem HoldsLock.contextCount_pos (held : HoldsLock runs context) :
    0 < contextCount runs context := by
  obtain ⟨run, member, rfl, _⟩ := held
  exact NovelEngine.contextCount_pos.mpr (List.mem_map_of_mem member)

end Runs

/-! ## The box -/

namespace MessageBox

/-- Whether the box shows an input prompt. -/
def asks (box : MessageBox) : Bool :=
  match box.content with
  | some content => content.isInput
  | none => false

theorem asks_present (box : MessageBox) (content : Content) :
    (box.present content).asks = content.isInput := by
  cases content <;> rfl

/-- A box that is still locked has not been released. -/
theorem release_of_owner {box : MessageBox} {context owner : Context}
    (locked : (box.release context).owner = some owner) :
    box.release context = box ∧ owner ≠ context := by
  unfold release at locked ⊢
  split at locked
  · cases locked
  · rename_i other
    refine ⟨if_neg other, ?_⟩
    rintro rfl
    exact other locked

/-- A locked box is not cleared. -/
theorem erase_of_owner {box : MessageBox} {owner : Context}
    (locked : box.owner = some owner) : box.erase = box := by
  simp [erase, locked]

theorem release_owner_ne (box : MessageBox) (context : Context) :
    (box.release context).owner ≠ some context :=
  fun locked => (release_of_owner locked).2 rfl

/-- Whoever is not locked out of a locked box is in the context that holds it or was
called from there. -/
theorem mem_of_not_isLockedAgainst {box : MessageBox} {context owner : Context}
    {callers : List Context} (free : box.isLockedAgainst context callers = false)
    (locked : box.owner = some owner) : owner ∈ callers ++ [context] := by
  simp only [isLockedAgainst, locked, Bool.and_eq_false_iff, Bool.not_eq_false',
    decide_eq_false_iff_not, Decidable.not_not, List.contains_iff_mem] at free
  simp only [List.mem_append, List.mem_singleton]
  exact free.symm

end MessageBox

/-! ## What may become of the lock -/

/-- The lock stays as it is or is given up, and no holder of it goes away. -/
def LeavesLock (before : List Activation) (world : World) (after : List Activation)
    (next : World) : Prop :=
  ∀ context, next.box.owner = some context →
    world.box.owner = some context ∧ next.box.content = world.box.content ∧
      (HoldsLock before context → HoldsLock after context)

/-- Between `before` and `after` the lock is taken, left alone or given up. The runs were
called from the contexts in `callers`. -/
structure HandlesLock (callers : List Context) (before : List Activation) (world : World)
    (after : List Activation) (next : World) : Prop where
  /-- The lock has a holder, unless the holder was none of these runs. -/
  held : ∀ {context}, next.box.owner = some context →
    HoldsLock after context ∨ world.box.owner = some context ∧ ¬ HoldsLock before context
  /-- Under the lock an input prompt or the same as before is shown, unless one of these
  runs or a caller shares its context with the holder. -/
  shown : ∀ {context}, next.box.owner = some context →
    next.box.asks = true ∨ world.box.owner = some context ∧
      (next.box.content = world.box.content ∧
          contextCount before context ≤ contextCount after context ∨
        ¬ HoldsLock before context ∧ context ∈ callers ++ after.map Activation.context)

theorem MessageBox.asks_congr {left right : MessageBox} (same : left.content = right.content) :
    left.asks = right.asks := by
  unfold asks
  rw [same]

theorem LeavesLock.ofBox {before after : List Activation} {world next : World}
    (box : next.box = world.box)
    (holders : ∀ context, HoldsLock before context → HoldsLock after context) :
    LeavesLock before world after next := by
  intro context locked
  rw [box] at locked ⊢
  exact ⟨locked, rfl, holders context⟩

theorem LeavesLock.refl (runs : List Activation) (world : World) :
    LeavesLock runs world runs world :=
  .ofBox rfl (fun _ => id)

theorem LeavesLock.handles {before after : List Activation} {world next : World}
    (leaves : LeavesLock before world after next) {callers : List Context}
    (counts : ∀ context, contextCount before context ≤ contextCount after context) :
    HandlesLock callers before world after next where
  held := by
    intro context locked
    obtain ⟨owner, _, holders⟩ := leaves context locked
    by_cases held : HoldsLock before context
    · exact .inl (holders held)
    · exact .inr ⟨owner, held⟩
  shown := by
    intro context locked
    obtain ⟨owner, content, _⟩ := leaves context locked
    exact .inr ⟨owner, .inl ⟨content, counts context⟩⟩

namespace HandlesLock

variable {callers : List Context} {before middle after : List Activation}
  {world between next : World}

theorem refl (callers : List Context) (runs : List Activation) (world : World) :
    HandlesLock callers runs world runs world :=
  (LeavesLock.refl runs world).handles (fun _ => Nat.le_refl _)

theorem trans (left : HandlesLock callers before world middle between)
    (right : HandlesLock callers middle between after next) :
    HandlesLock callers before world after next where
  held := by
    intro context locked
    rcases right.held locked with held | ⟨owner, unheld⟩
    · exact .inl held
    · rcases left.held owner with held | earlier
      · exact absurd held unheld
      · exact .inr earlier
  shown := by
    intro context locked
    rcases right.shown locked with asks | ⟨owner, ⟨content, more⟩ | ⟨unheld, shared⟩⟩
    · exact .inl asks
    · rcases left.shown owner with asks | ⟨earlier, ⟨same, fewer⟩ | ⟨unheld, shared⟩⟩
      · exact .inl ((MessageBox.asks_congr content).trans asks)
      · exact .inr ⟨earlier, .inl ⟨content.trans same, Nat.le_trans fewer more⟩⟩
      · refine .inr ⟨earlier, .inr ⟨unheld, ?_⟩⟩
        simp only [List.mem_append, ← contextCount_pos] at shared ⊢
        exact shared.imp id (fun positive => Nat.lt_of_lt_of_le positive more)
    · -- Nobody of `middle` held the lock, so its holder was elsewhere from the start.
      rcases left.held owner with held | ⟨earlier, unheldBefore⟩
      · exact absurd held unheld
      · exact .inr ⟨earlier, .inr ⟨unheldBefore, shared⟩⟩

/-- Only the context and the wait of a run matter. -/
theorem replaceRoot {root other : Activation} {rest : List Activation}
    (lock : HandlesLock callers before world (root :: rest) next)
    (same : other.context = root.context) (reason : other.waitingFor = root.waitingFor) :
    HandlesLock callers before world (other :: rest) next := by
  refine lock.trans (LeavesLock.handles (.ofBox rfl ?_) ?_)
  · intro context held
    exact (holdsLock_congr same reason).mpr held
  · intro context
    exact Nat.le_of_eq (contextCount_congr same).symm

/-- A run that waits for called scripts takes no part. -/
theorem under {root : Activation} (quiet : root.awaitsInput = false)
    (lock : HandlesLock (root.callers ++ [root.context]) before world after next) :
    HandlesLock root.callers (root :: before) world (root :: after) next where
  held := by
    intro context locked
    rw [holdsLock_cons_of_quiet quiet, holdsLock_cons_of_quiet quiet]
    exact lock.held locked
  shown := by
    intro context locked
    rw [holdsLock_cons_of_quiet quiet, contextCount_cons, contextCount_cons]
    rcases lock.shown locked with asks | ⟨owner, ⟨content, more⟩ | ⟨unheld, shared⟩⟩
    · exact .inl asks
    · exact .inr ⟨owner, .inl ⟨content, Nat.add_le_add_right more _⟩⟩
    · refine .inr ⟨owner, .inr ⟨unheld, ?_⟩⟩
      simpa only [List.append_assoc, List.singleton_append, List.map_cons] using shared

/-- A called script that ends gives up its lock, and its caller is alone again. -/
theorem back {root other callee : Activation} (quiet : root.awaitsInput = false)
    (same : other.context = root.context) (done : callee.awaitsInput = false)
    (released : next.box.owner ≠ some callee.context)
    (lock : HandlesLock (root.callers ++ [root.context]) before world [callee] next)
    {last : World} (box : last.box = next.box) :
    HandlesLock root.callers (root :: before) world [other] last where
  held := by
    intro context locked
    rw [box] at locked
    rw [holdsLock_cons_of_quiet quiet]
    rcases lock.held locked with held | earlier
    · simp [holdsLock_cons_of_quiet done] at held
    · exact .inr earlier
  shown := by
    intro context locked
    rw [box] at locked ⊢
    have gone : callee.context ≠ context := by
      rintro rfl
      exact released locked
    rw [holdsLock_cons_of_quiet quiet, contextCount_cons, contextCount_cons, same]
    rcases lock.shown locked with asks | ⟨owner, ⟨content, more⟩ | ⟨unheld, shared⟩⟩
    · exact .inl asks
    · -- The script that is gone does not count, since the lock is not in its context.
      refine .inr ⟨owner, .inl ⟨content, Nat.add_le_add_right ?_ _⟩⟩
      simpa [contextCount_cons, gone] using more
    · refine .inr ⟨owner, .inr ⟨unheld, ?_⟩⟩
      simpa [same, gone.symm] using shared

end HandlesLock

/-! ## Chains of runs -/

/-- The runs of a thread, outermost first. -/
def Thread.chain (thread : Thread) : List Activation :=
  thread.root :: thread.callees

/-- Each run of the thread but the last waits for the one behind it, which knows its callers. -/
inductive Thread.Linked : Thread → Prop where
  | single {root : Activation} (consistent : Thread.Consistent root { root }) :
      Thread.Linked { root }
  | calling {root callee : Activation} {rest : List Activation}
      (consistent : Thread.Consistent root { root, callees := callee :: rest })
      (callers : callee.callers = root.callers ++ [root.context])
      (linked : Thread.Linked { root := callee, callees := rest }) :
      Thread.Linked { root, callees := callee :: rest }

theorem Thread.Consistent.rebase {run : Activation} {thread : Thread}
    (consistent : thread.Consistent run) {other : Activation}
    (sameRun : other.SameRun thread.root) : thread.Consistent other :=
  { consistent with sameRun }

theorem Thread.Linked.consistent {thread : Thread} (linked : thread.Linked) :
    thread.Consistent thread.root := by
  cases linked with
  | single consistent => exact consistent
  | calling consistent => exact consistent

/-- A run that waits for a called script awaits no input. -/
theorem Thread.Consistent.quiet {run root callee : Activation} {rest : List Activation}
    (consistent : Thread.Consistent run { root, callees := callee :: rest }) :
    root.awaitsInput = false := by
  have waiting : root.waitingFor = some .callee := consistent.calls.mp (by simp)
  simp [Activation.awaitsInput, waiting]

/-- A stopped run has called nothing. -/
theorem Thread.Consistent.callees_of_stopped {run : Activation} {thread : Thread}
    (consistent : thread.Consistent run) (stopped : thread.root.isRunning = false) :
    thread.callees = [] := by
  refine Decidable.byContradiction (fun calling => ?_)
  have waiting := consistent.calls.mp calling
  exact absurd ((consistent.stopped stopped).reason.symm.trans waiting) (by simp)

/-- The spawned scripts are new runs that nobody waits for. -/
def World.SpawnsFresh (world : World) : Prop :=
  ∀ spawned ∈ world.spawned, ∃ context script,
    spawned = ({ context, script : Activation }).start

theorem World.SpawnsFresh.congr {world next : World} (fresh : world.SpawnsFresh)
    (same : next.spawned = world.spawned) : next.SpawnsFresh := by
  unfold SpawnsFresh at fresh ⊢
  rw [same]
  exact fresh

theorem consistent_started (context : Context) (script : Script) (callers : List Context)
    (repeats : Bool) :
    Thread.Consistent { context, script, callers, repeats : Activation }.start
      { root := { context, script, callers, repeats : Activation }.start } :=
  (consistent_anew { context, script, callers, repeats }).start.rebase ⟨rfl, rfl, rfl, rfl⟩

/-- What is kept between two states of one thread. -/
structure Guarded (before : Thread) (world : World) (after : Thread) (next : World) :
    Prop where
  sameRun : before.root.SameRun after.root
  linked : after.Linked
  lock : HandlesLock before.root.callers before.chain world after.chain next
  fresh : next.SpawnsFresh

theorem Guarded.trans {first second third : Thread} {world between next : World}
    (left : Guarded first world second between) (right : Guarded second between third next) :
    Guarded first world third next where
  sameRun := left.sameRun.trans right.sameRun
  linked := right.linked
  lock := left.lock.trans (left.sameRun.callers ▸ right.lock)
  fresh := right.fresh

/-- What an update of a thread keeps. A thread that ends is alone and has no lock. -/
structure Advances (thread : Thread) (world : World) (update : Update) : Prop
    extends Guarded thread world update.thread update.world where
  finished : update.progress = .finished →
    update.thread.root.isRunning = false ∧
      update.world.box.owner ≠ some update.thread.root.context

/-- A thread that has ended is a single run that awaits nothing. -/
theorem Advances.alone {thread : Thread} {world : World} {update : Update}
    (advances : Advances thread world update) (finished : update.progress = .finished) :
    update.thread = { root := update.thread.root } ∧
      update.thread.root.awaitsInput = false := by
  obtain ⟨stopped, _⟩ := advances.finished finished
  have consistent := advances.linked.consistent
  refine ⟨?_, (consistent.stopped stopped).awaitsInput⟩
  rw [← consistent.callees_of_stopped stopped]

/-! ## One command -/

/-- An instruction that calls no script. -/
theorem Use.handlesLock {activation : Activation} {world : World} {outcome : Outcome}
    (use : Use activation world outcome) (awake : activation.IsAwake)
    (same : outcome.activation.context = activation.context)
    (alone : outcome.callee = none) :
    HandlesLock activation.callers [activation] world [outcome.activation] outcome.world := by
  have unheld (context : Context) : ¬ HoldsLock [activation] context := by
    simp [holdsLock_cons_of_quiet awake.awaitsInput]
  have counts (context : Context) :
      contextCount [activation] context ≤ contextCount [outcome.activation] context :=
    Nat.le_of_eq (contextCount_congr same).symm
  have leave (box : outcome.world.box = world.box) :
      HandlesLock activation.callers [activation] world [outcome.activation] outcome.world :=
    LeavesLock.handles (.ofBox box (fun context held => absurd held (unheld context))) counts
  cases use with
  | apart box => exact leave box
  | spawn _ _ box => exact leave box
  | call _ _ _ _ _ called => simp [called] at alone
  | giveUp box _ _ keeps =>
      refine LeavesLock.handles ?_ counts
      intro context locked
      rw [box] at locked ⊢
      have unerased := MessageBox.erase_of_owner ((MessageBox.erase_owner _).symm.trans locked)
      rw [unerased] at locked ⊢
      have unreleased := (MessageBox.release_of_owner locked).1
      rw [unreleased] at locked ⊢
      exact ⟨locked, rfl, fun held => absurd held (unheld context)⟩
  | speak free shows box =>
      have owner : outcome.world.box.owner = world.box.owner := by
        rcases box with box | box <;> simp [box]
      constructor
      · intro context locked
        exact .inr ⟨owner ▸ locked, unheld context⟩
      · intro context locked
        rw [owner] at locked
        refine .inr ⟨locked, .inr ⟨unheld context, ?_⟩⟩
        have shared := MessageBox.mem_of_not_isLockedAgainst free locked
        simpa [same] using shared
  | ask _ asks box _ _ waits =>
      have holds : HoldsLock [outcome.activation] activation.context := by
        refine ⟨_, List.mem_singleton_self _, same, ?_⟩
        rw [waits]
        rfl
      constructor
      · intro context locked
        rw [box, MessageBox.present_owner] at locked
        cases locked
        exact .inl holds
      · intro context locked
        left
        rw [box, MessageBox.asks_present]
        exact asks

theorem Use.fresh {activation : Activation} {world : World} {outcome : Outcome}
    (use : Use activation world outcome) (fresh : world.SpawnsFresh) :
    outcome.world.SpawnsFresh := by
  cases use with
  | apart _ same => exact fresh.congr same
  | speak _ _ _ same => exact fresh.congr same
  | ask _ _ _ same => exact fresh.congr same
  | giveUp _ same => exact fresh.congr same
  | call _ _ _ _ same => exact fresh.congr same
  | spawn context script _ spawned =>
      intro run member
      rw [spawned, List.mem_append, List.mem_singleton] at member
      rcases member with earlier | rfl
      · exact fresh run earlier
      · exact ⟨context, script, rfl⟩

/-- Called scripts keep what an update keeps. -/
def CalleesAdvance (runCallee : CalleeRunner) : Prop :=
  ∀ callee world update, Thread.Consistent callee { root := callee } → world.SpawnsFresh →
    runCallee callee world = some update → Advances { root := callee } world update

/-- The callees of a thread are linked to its outermost run. -/
def Thread.CalleesLinked (thread : Thread) : Prop :=
  ∀ callee rest, thread.callees = callee :: rest →
    callee.callers = thread.root.callers ++ [thread.root.context] ∧
      Thread.Linked { root := callee, callees := rest }

theorem Thread.calleesLinked_single (root : Activation) :
    Thread.CalleesLinked { root } := by
  intro callee rest calling
  cases calling

theorem Thread.Consistent.linked {run : Activation} {thread : Thread}
    (consistent : thread.Consistent run) (linked : thread.CalleesLinked) : thread.Linked := by
  obtain ⟨root, callees⟩ := thread
  have consistent := consistent.rebase (.refl root)
  cases callees with
  | nil => exact .single consistent
  | cons callee rest =>
      obtain ⟨callers, linked⟩ := linked callee rest rfl
      exact .calling consistent callers linked

section Commands

variable {runCallee : CalleeRunner} {activation : Activation} {world : World}

/-- A call puts a script behind the run that waits for it. -/
private theorem call_advances (advance : CalleesAdvance runCallee) (awake : activation.IsAwake)
    (fresh : world.SpawnsFresh) {outcome : Outcome} (use : Use activation world outcome)
    {callee : Activation} (called : outcome.callee = some callee) {update : Update}
    (ran : runCallee callee outcome.world = some update) :
    outcome.activation = activation.waitUntil .callee ∧
      callee.callers = activation.callers ++ [activation.context] ∧
      HandlesLock activation.callers [activation] world [outcome.activation, callee]
        outcome.world ∧
      Advances { root := callee } outcome.world update := by
  have entered := use.fresh fresh
  cases use with
  | apart _ _ none => simp [called] at none
  | speak _ _ _ _ none => simp [called] at none
  | ask _ _ _ _ none => simp [called] at none
  | giveUp _ _ none => simp [called] at none
  | spawn _ _ _ _ none => simp [called] at none
  | call context script _ box _ calls waits =>
      cases called.symm.trans calls
      refine ⟨waits, rfl, ?_, advance _ _ _ (consistent_started _ _ _ _) entered ran⟩
      refine LeavesLock.handles (.ofBox box ?_) ?_
      · intro context held
        simp [holdsLock_cons_of_quiet awake.awaitsInput] at held
      · intro context
        rw [waits]
        simp only [contextCount_cons, Activation.waitUntil]
        omega

/-- The command at the pointer of an awake run that has called nothing. -/
theorem Handling.handlesLock (advance : CalleesAdvance runCallee) (awake : activation.IsAwake)
    (fresh : world.SpawnsFresh) {next : Thread} {after : World}
    (handling : Handling runCallee { root := activation } world next after) :
    HandlesLock activation.callers [activation] world next.chain after ∧
      next.CalleesLinked ∧ after.SpawnsFresh := by
  have quiet : (activation.waitUntil .callee).awaitsInput = false := rfl
  cases handling with
  | skip => exact ⟨.refl _ _ _, Thread.calleesLinked_single _, fresh⟩
  | ignore => exact ⟨.refl _ _ _, Thread.calleesLinked_single _, fresh⟩
  | @perform command instruction _ _ _ _ performed alone =>
      subst performed
      have use := activation.perform_use world command.id instruction
      have same := (activation.perform_effect world command.id instruction).sameRun.context
      exact ⟨use.handlesLock awake same alone, Thread.calleesLinked_single _, use.fresh fresh⟩
  | call _ _ _ performed called ran =>
      subst performed
      obtain ⟨waits, callers, entered, advances⟩ :=
        call_advances advance awake fresh (activation.perform_use world _ _) called ran
      have lock := advances.lock
      rw [callers] at lock
      refine ⟨entered.trans ?_, ?_, advances.fresh⟩
      · rw [waits]
        exact HandlesLock.under quiet lock
      · rintro _ _ ⟨⟩
        rw [waits]
        exact ⟨advances.sameRun.callers.trans callers, advances.linked⟩
  | callThrough _ _ _ performed called ran finished =>
      subst performed
      obtain ⟨waits, callers, entered, advances⟩ :=
        call_advances advance awake fresh (activation.perform_use world _ _) called ran
      obtain ⟨_, released⟩ := advances.finished finished
      obtain ⟨alone, done⟩ := advances.alone finished
      have lock := advances.lock
      rw [callers, alone] at lock
      refine ⟨entered.trans ?_, Thread.calleesLinked_single _, advances.fresh⟩
      rw [waits]
      refine HandlesLock.back quiet ?_ done released lock ?_
      · rfl
      · rfl

end Commands

/-! ## Updates -/

section Updates

variable {runCallee : CalleeRunner} {activation : Activation} {world : World}

/-- One command of a run that has called nothing. -/
theorem Step.guarded (advance : CalleesAdvance runCallee)
    (consistent : Thread.Consistent activation { root := activation })
    (fresh : world.SpawnsFresh) (able : activation.canStep = true) {next : Thread}
    {after : World} (step : Step runCallee { root := activation } world next after)
    (executed : Nat) :
    Guarded { root := activation } world (next.counted after.config executed) after := by
  have awake := consistent.waits.isAwake (Activation.isWaiting_of_canStep able)
  have running := (step.sameRunning).trans (Activation.isRunning_of_canStep able)
  have passed := (consistent.pass able step).counted running after.config executed
  have counted := next.root.counted_eq after.config executed
  cases step with
  | pause _ reached =>
      rw [consistent.unpaused.1] at reached
      cases reached
  | @move handled _ handling =>
      obtain ⟨lock, linked, fresh⟩ := handling.handlesLock advance awake fresh
      obtain ⟨_, _, _, counted⟩ := counted
      obtain ⟨pointer, indent, moved⟩ := handled.root.stepPast_eq
      dsimp only at counted
      rw [moved] at counted
      refine ⟨passed.sameRun, passed.linked ?_, lock.replaceRoot ?_ ?_, fresh⟩
      · intro callee rest calling
        unfold Thread.counted
        rw [moved, counted]
        exact linked callee rest calling
      · unfold Thread.counted
        rw [moved, counted]
      · unfold Thread.counted
        rw [moved, counted]

/-- A single run stays guarded when its wait for an input does not change and the lock is
left alone. -/
private theorem Guarded.replace {before : Thread} {start world next : World}
    {activation other : Activation}
    (guarded : Guarded before start { root := activation } world)
    (consistent : Thread.Consistent activation { root := other })
    (leaves : LeavesLock [activation] world [other] next)
    (spawned : next.spawned = world.spawned) :
    Guarded before start { root := other } next := by
  have sameRun := consistent.sameRun
  refine guarded.trans ⟨sameRun, consistent.linked (Thread.calleesLinked_single _), ?_,
    guarded.fresh.congr spawned⟩
  refine leaves.handles ?_
  intro context
  exact Nat.le_of_eq (contextCount_congr sameRun.context).symm

/-- A run that awaits no input may be replaced while the box stays the same. -/
private theorem leavesLock_of_quiet {activation other : Activation}
    (quiet : activation.awaitsInput = false) (world : World) :
    LeavesLock [activation] world [other] world := by
  refine .ofBox rfl ?_
  intro context held
  simp [holdsLock_cons_of_quiet quiet] at held

private theorem leavesLock_of_same (activation other : Activation)
    (same : other.context = activation.context)
    (reason : other.waitingFor = activation.waitingFor) (world : World) :
    LeavesLock [activation] world [other] world := by
  refine .ofBox rfl ?_
  intro context held
  exact (holdsLock_congr same reason).mpr held

theorem lastsFrame_guarded (advance : CalleesAdvance runCallee) (before : Thread)
    (start : World) :
    LastsFrame runCallee (fun _ thread world => Guarded before start thread world) where
  reset := by
    intro _ thread world context guarded
    refine guarded.trans ⟨.refl _, guarded.linked, LeavesLock.handles ?_ ?_, guarded.fresh⟩
    · exact .ofBox rfl (fun _ => id)
    · exact fun _ => Nat.le_refl _
  start := by
    intro _ activation world guarded atEnd _
    have consistent := guarded.linked.consistent
    have awake := consistent.waits.isAwake (Activation.isWaiting_of_isAtEnd atEnd)
    exact guarded.replace consistent.start (leavesLock_of_quiet awake.awaitsInput world) rfl
  count := by
    intro _ activation world guarded running counting
    exact guarded.replace (guarded.linked.consistent.countDown running counting)
      (leavesLock_of_same activation activation.countDown rfl rfl world) rfl
  unpark := by
    intro _ activation world guarded parked _
    refine guarded.replace (guarded.linked.consistent.unpark parked)
      (leavesLock_of_same _ _ ?_ ?_ world) rfl
    · rfl
    · rfl
  pass := by
    intro _ activation world next after executed guarded able step
    exact guarded.trans
      (step.guarded advance guarded.linked.consistent guarded.fresh able executed)
  finish := by
    intro _ activation world guarded ends
    refine guarded.replace (guarded.linked.consistent.finish ends) ?_ rfl
    intro context locked
    have released : (world.releaseBox activation.context).box = world.box :=
      (MessageBox.release_of_owner locked).1
    rw [released] at locked ⊢
    exact leavesLock_of_same activation activation.finished rfl rfl world context locked

/-- A run that ends is stopped and has given up its lock. -/
theorem updateFrame_finished {fuel : Nat} {update : Update}
    (updated : updateFrame fuel runCallee activation world = some update)
    (finished : update.progress = .finished) :
    update.thread.root.isRunning = false ∧
      update.world.box.owner ≠ some update.thread.root.context := by
  obtain ⟨_, _, _, _, rfl⟩ := updateFrame_ended updated finished
  exact ⟨rfl, MessageBox.release_owner_ne _ _⟩

end Updates

/-- Called scripts handle the lock at any depth. -/
theorem calleesAdvance (fuel room : Nat) : CalleesAdvance (advance fuel room) := by
  induction room with
  | zero =>
      intro callee world update _ _ ran
      cases ran
  | succ room inductionHypothesis =>
      intro callee world update consistent fresh ran
      have entered : Guarded { root := callee } world { root := callee } world :=
        ⟨.refl _, .single consistent, .refl _ _ _, fresh⟩
      exact {
        updateFrame_fact (lastsFrame_guarded inductionHypothesis { root := callee } world)
          none entered ran with
        finished := updateFrame_finished ran }

/-- An update of a thread handles the lock. -/
theorem Thread.Linked.update {thread : Thread} (linked : thread.Linked) {fuel : Nat}
    {world : World} (fresh : world.SpawnsFresh) {update : Update}
    (updated : thread.update fuel world = some update) : Advances thread world update := by
  induction linked generalizing update with
  | @single root consistent =>
      exact calleesAdvance fuel root.callRoom root world update consistent fresh updated
  | @calling root callee rest consistent callers _ inductionHypothesis =>
      obtain ⟨inner, ran, running, outcome⟩ := Thread.update_calling updated
      have advances := inductionHypothesis ran
      have lock := advances.lock
      dsimp only at lock
      rw [callers] at lock
      have unfinished : update.progress ≠ .finished := by simp [running]
      rcases outcome with ⟨_, thread, world⟩ | ⟨finished, thread, world⟩
      · refine ⟨?_, fun finished => absurd finished unfinished⟩
        rw [thread, world]
        exact {
          sameRun := .refl root
          linked := .calling (consistent.away) (advances.sameRun.callers.trans callers)
            advances.linked
          lock := HandlesLock.under consistent.quiet lock
          fresh := advances.fresh }
      · obtain ⟨_, released⟩ := advances.finished finished
        obtain ⟨alone, done⟩ := advances.alone finished
        rw [alone] at lock
        refine ⟨?_, fun finished => absurd finished unfinished⟩
        rw [thread, world]
        exact {
          sameRun := ⟨rfl, rfl, rfl, rfl⟩
          linked := consistent.back.linked (Thread.calleesLinked_single _)
          lock := by
            refine HandlesLock.back consistent.quiet ?_ done released lock ?_
            · rfl
            · rfl
          fresh := advances.fresh }

/-! ## Events -/

/-- What an event keeps: the thread stays linked, and the lock is left alone or given up by
its holder. -/
structure Heeds (thread : Thread) (world : World) (run : Run) : Prop where
  sameRun : thread.root.SameRun run.thread.root
  linked : run.thread.Linked
  lock : LeavesLock thread.chain world run.thread.chain run.world
  /-- An event makes nobody a holder. -/
  holders : ∀ context, HoldsLock run.thread.chain context → HoldsLock thread.chain context
  spawned : run.world.spawned = world.spawned

/-- A thread that does not hear the event. -/
theorem Heeds.refl {thread : Thread} (linked : thread.Linked) (world : World) :
    Heeds thread world { thread, world } :=
  ⟨.refl _, linked, .refl _ _, fun _ => id, rfl⟩

theorem Activation.takeChoice_world (activation : Activation) (world : World) (index : Nat)
    (label : Option String) (target : Option VariableRef) :
    (activation.takeChoice world index label target).world.box = world.box ∧
      (activation.takeChoice world index label target).world.spawned = world.spawned := by
  unfold takeChoice
  cases label with
  | none => cases target <;> exact ⟨rfl, rfl⟩
  | some name => cases target <;> dsimp only <;> split <;> exact ⟨rfl, rfl⟩

/-- An accepted event either is no input, and a lock stays what it is, or it gives up the
lock of the run. -/
theorem Activation.deliver?_box {activation : Activation} {world : World} {event : HostEvent}
    {delivery : Delivery} (delivered : activation.deliver? world event = some delivery) :
    delivery.world.spawned = world.spawned ∧
      (activation.awaitsInput = false ∧ (delivery.world.box = world.box ∨
          delivery.world.box = world.box.erase) ∨
        delivery.world.box = world.box.release activation.context) := by
  have erased : (activation.eraseIfAutomatic world).spawned = world.spawned ∧
      ((activation.eraseIfAutomatic world).box = world.box ∨
        (activation.eraseIfAutomatic world).box = world.box.erase) := by
    unfold eraseIfAutomatic
    split
    · exact ⟨rfl, .inr rfl⟩
    · exact ⟨rfl, .inl rfl⟩
  unfold deliver? at delivered
  split at delivered
  · rename_i waiting
    cases delivered
    exact ⟨erased.1, .inl ⟨by simp [awaitsInput, waiting], erased.2⟩⟩
  · rename_i waiting
    split at delivered
    · cases delivered
    · cases delivered
      obtain ⟨box, spawned⟩ := takeChoice_world activation.clearWait
        (activation.eraseIfAutomatic world) _ _ _
      rw [box, spawned]
      exact ⟨erased.1, .inl ⟨by simp [awaitsInput, waiting], erased.2⟩⟩
  · cases delivered
    exact ⟨rfl, .inr rfl⟩
  · rename_i waiting
    cases delivered
    exact ⟨rfl, .inl ⟨by simp [awaitsInput, waiting], .inl rfl⟩⟩
  · cases delivered

/-- A run that has called nothing hears an event. -/
theorem Activation.deliver?_heeds {activation : Activation} {world : World}
    {event : HostEvent} {delivery : Delivery}
    (consistent : Thread.Consistent activation { root := activation })
    (delivered : activation.deliver? world event = some delivery) {notices : List Notice} :
    Heeds { root := activation } world
      { thread := { root := delivery.activation }, world := delivery.world, notices } := by
  have delivers := consistent.deliver delivered
  obtain ⟨spawned, box⟩ := deliver?_box delivered
  have quiet : delivery.activation.awaitsInput = false := by
    simp [awaitsInput, (awake_of_deliver? delivered).2]
  refine ⟨delivers.sameRun, delivers.linked (Thread.calleesLinked_single _), ?_, ?_, spawned⟩
  · intro context locked
    dsimp only at locked ⊢
    rcases box with ⟨quiet, box⟩ | box
    · have same : delivery.world.box = world.box := by
        rcases box with same | erased
        · exact same
        · rw [erased, MessageBox.erase_owner] at locked
          rw [erased, MessageBox.erase_of_owner locked]
      rw [same] at locked ⊢
      refine ⟨locked, rfl, ?_⟩
      intro held
      simp [Thread.chain, holdsLock_cons_of_quiet quiet] at held
    · rw [box] at locked ⊢
      obtain ⟨same, other⟩ := MessageBox.release_of_owner locked
      rw [same] at locked ⊢
      refine ⟨locked, rfl, ?_⟩
      rintro ⟨run, member, rfl, _⟩
      rw [Thread.chain, List.mem_singleton] at member
      exact absurd (congrArg Activation.context member) other
  · intro context held
    simp [Thread.chain, holdsLock_cons_of_quiet quiet] at held

/-- A thread hears an event through its innermost run. -/
theorem Thread.Linked.notify {thread : Thread} (linked : thread.Linked) {world : World}
    {event : HostEvent} {run : Run} (accepted : thread.notify? world event = some run) :
    Heeds thread world run := by
  induction linked generalizing run with
  | single consistent =>
      obtain ⟨delivery, delivered, rfl⟩ := Option.map_eq_some_iff.mp accepted
      exact Activation.deliver?_heeds consistent delivered
  | @calling root callee rest consistent callers _ inductionHypothesis =>
      obtain ⟨inner, reached, rfl⟩ := Option.map_eq_some_iff.mp accepted
      have heeds : Heeds { root := callee, callees := rest } world inner :=
        inductionHypothesis reached
      exact {
        sameRun := .refl root
        linked := .calling consistent.away (heeds.sameRun.callers.trans callers) heeds.linked
        lock := by
          intro context locked
          obtain ⟨owner, content, holders⟩ := heeds.lock context locked
          refine ⟨owner, content, ?_⟩
          unfold Thread.chain at holders ⊢
          rw [holdsLock_cons_of_quiet consistent.quiet,
            holdsLock_cons_of_quiet consistent.quiet]
          exact holders
        holders := by
          intro context
          unfold Thread.chain
          rw [holdsLock_cons_of_quiet consistent.quiet,
            holdsLock_cons_of_quiet consistent.quiet]
          exact heeds.holders context
        spawned := heeds.spawned }

end NovelEngine
