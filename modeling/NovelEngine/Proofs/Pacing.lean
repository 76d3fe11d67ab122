import NovelEngine.Engine.HostEvent
import NovelEngine.Proofs.Suspension
import NovelEngine.Proofs.Temporaries

/-!
Contract: instructions at another pace.

Owns:
- the world without what its pace may change: whether waits are skipped, what the message box
  shows, the temporary variables and the command budget;
- runs that linger where another run goes on at once;
- the law that an instruction after which a run goes on does the same at every pace, except
  that the run may linger.

Does not own: the updates and events that end a wait.

Waits are skipped in different places: by the command that waits, by messages, and by
everything that is animated or faded. In each of them the run is all that differs, and what
the box shows while it waits.
-/

namespace NovelEngine

/-! ## Worlds -/

namespace World

def withPace (world : World) (skip : Skip) (content : Option Content) : World :=
  { world with skip, box := { world.box with content } }

/-- The world without what its pace may change. -/
def unpaced (world : World) : World :=
  world.timeless.withPace {} none

theorem timeless_of_unpaced {world other : World} (same : other.unpaced = world.unpaced) :
    other.timeless = world.timeless.withPace other.skip other.box.content := by
  have left : other.timeless = other.unpaced.withPace other.skip other.box.content := rfl
  rw [left, same]
  rfl

theorem preview_of_unpaced {world other : World} (same : other.unpaced = world.unpaced) :
    other.config.preview = world.config.preview :=
  (congrArg (fun world => world.config.preview) same :)

variable (world : World)

theorem eraseBox_unpaced : world.eraseBox.unpaced = world.unpaced := by
  unfold eraseBox MessageBox.erase
  split <;> rfl

theorem releaseBox_unpaced (context : Context) :
    (world.releaseBox context).unpaced = world.unpaced.releaseBox context := by
  have owner : world.unpaced.box.owner = world.box.owner := rfl
  unfold releaseBox MessageBox.release
  rw [owner]
  split <;> rfl

end World

theorem Activation.eraseIfAutomatic_unpaced (activation : Activation) (world : World) :
    (activation.eraseIfAutomatic world).unpaced = world.unpaced := by
  unfold eraseIfAutomatic
  split
  · exact world.eraseBox_unpaced
  · rfl

def Outcome.withPace (outcome : Outcome) (skip : Skip) (content : Option Content) : Outcome :=
  { outcome with world := outcome.world.withPace skip content }

/-! ## Runs that linger -/

/-- A run goes on at once, waits for some frames first, or waits for its message to be
dismissed. -/
inductive Activation.Lingers (activation : Activation) : Activation → Prop where
  | goesOn : activation.Lingers activation
  | counts {frames : Nat} (positive : 0 < frames) : activation.Lingers (activation.wait frames)
  | reads : activation.Lingers (activation.waitUntil .message)

/-- The second outcome is the first one, except that its run may linger and that its world has
another pace. -/
structure Outcome.Paces (direct paced : Outcome) : Prop where
  activation : direct.activation.Lingers paced.activation
  world : paced.world.unpaced = direct.world.unpaced
  callee : paced.callee = direct.callee

namespace Outcome.Paces

theorem of_withPace {direct paced : Outcome} {skip : Skip} {content : Option Content}
    (same : paced = direct.withPace skip content) : direct.Paces paced := by
  rw [same]
  exact ⟨.goesOn, rfl, rfl⟩

end Outcome.Paces

/-! ## Instructions that know no pace -/

namespace Activation

section Untimed

variable (activation : Activation) (world : World) (skip : Skip) (content : Option Content)

theorem changeSlots_withPace {change : VariableRef → World → World × Option Error}
    {target : VariableRef}
    (same : ∀ slot (world : World), change slot (world.withPace skip content) =
      ((change slot world).1.withPace skip content, (change slot world).2))
    (range : Nat) :
    changeSlots activation (world.withPace skip content) target range change =
      (changeSlots activation world target range change).withPace skip content := by
  unfold changeSlots
  rw [@changeRange_map (World.withPace · skip content) _ _ (fun _ slot world _ => same slot world)]
  rfl

private theorem yield_withPace (source : NumberSource) (context : Context) :
    source.yield (world.withPace skip content) context =
      ((source.yield world context).1, (source.yield world context).2.withPace skip content) := by
  have dice : (world.withPace skip content).dice = world.dice := rfl
  have store : (world.withPace skip content).store = world.store := rfl
  cases source with
  | operand read => rfl
  | random first second =>
      simp only [NumberSource.yield, World.randomBetween, dice, store]
      split <;> rfl

private theorem changeNumbers_withPace (change : NumberChange) :
    activation.changeNumbers (world.withPace skip content) change =
      (activation.changeNumbers world change).withPace skip content := by
  apply changeSlots_withPace
  intro slot world
  rw [yield_withPace]
  obtain ⟨operand, after⟩ := change.source.yield world activation.context
  have store : (after.withPace skip content).store = after.store := rfl
  dsimp only
  rw [store]
  split <;> rfl

private theorem worldSnippet_withPace (context : Context) (source : String) :
    (world.withPace skip content).runSnippet context source =
      (world.runSnippet context source).map
        (fun result => (result.1, result.2.withPace skip content)) := by
  have engine : (world.withPace skip content).engine = world.engine := rfl
  have store : (world.withPace skip content).store = world.store := rfl
  unfold World.runSnippet
  rw [engine, store]
  cases world.engine.run source (world.store.bank context .local) <;> rfl

private theorem changeTexts_withPace (change : TextChange) :
    activation.changeTexts (world.withPace skip content) change =
      (activation.changeTexts world change).withPace skip content := by
  have yields : activation.yieldText (world.withPace skip content) change.source =
      (activation.yieldText world change.source).map
        (fun result => (result.1, result.2.withPace skip content)) := by
    cases change.source with
    | none => rfl
    | some source =>
        cases source with
        | snippet source => exact worldSnippet_withPace world skip content _ source
        | operand read => rfl
  unfold changeTexts
  rw [yields]
  cases activation.yieldText world change.source with
  | error error => rfl
  | ok result =>
      apply changeSlots_withPace
      intro slot world
      rfl

private theorem changeLists_withPace (change : ListChange) :
    activation.changeLists (world.withPace skip content) change =
      (activation.changeLists world change).withPace skip content := by
  have store : (world.withPace skip content).store = world.store := rfl
  unfold changeLists
  rw [store]
  dsimp only
  split <;> rfl

private theorem runSnippet_withPace (source : String) :
    activation.runSnippet (world.withPace skip content) source =
      (activation.runSnippet world source).withPace skip content := by
  unfold runSnippet
  rw [worldSnippet_withPace]
  cases world.runSnippet activation.context source <;> rfl

private theorem callEvent_withPace (id : String) (parameters : List Value) (wait : Bool) :
    activation.callEvent (world.withPace skip content) id parameters wait =
      (activation.callEvent world id parameters wait).withPace skip content := by
  have board : (world.withPace skip content).board = world.board := rfl
  unfold callEvent
  rw [board]
  split
  · rfl
  · split
    · rfl
    · cases wait <;> rfl

private theorem callScene_withPace (uid : String) :
    activation.callScene (world.withPace skip content) uid =
      (activation.callScene world uid).withPace skip content := by
  have scenes : (world.withPace skip content).scenes = world.scenes := rfl
  unfold callScene
  rw [scenes]
  split
  · rfl
  · split <;> rfl

private theorem followJump_withPace (id : String) (name : Option String) :
    activation.followJump (world.withPace skip content) id name =
      (activation.followJump world id name).withPace skip content := by
  unfold followJump
  split
  · rfl
  · split
    · rfl
    · split <;> rfl

private theorem testElseIf_withPace (id : String) (test : Option Condition) :
    activation.testElseIf (world.withPace skip content) id test =
      (activation.testElseIf world id test).withPace skip content := by
  unfold testElseIf
  split
  · rfl
  · cases test <;> rfl

end Untimed

/-! ## Instructions that wait or show something -/

theorem IsAwake.lingers_wait {activation : Activation} (awake : activation.IsAwake)
    (frames : Nat) : activation.Lingers (activation.wait frames) := by
  by_cases positive : 0 < frames
  · exact .counts positive
  · have none : frames = 0 := Nat.eq_zero_of_not_pos positive
    rw [none, wait_zero awake.waiting awake.counter]
    exact .goesOn

section Timed

variable {activation : Activation} {world : World} {skip : Skip} {content : Option Content}

private theorem waitFrames_paces (awake : activation.IsAwake) {time : Operand}
    (stays : (activation.waitFrames world time).activation.isWaiting = false) :
    (activation.waitFrames world time).Paces
      (activation.waitFrames (world.withPace skip content) time) := by
  have direct : activation.waitFrames world time = .ofActivation world activation := by
    unfold waitFrames at stays ⊢
    split at stays
    · rw [if_pos ‹_›]
    · have none := Nat.eq_zero_of_not_pos (of_decide_eq_false stays)
      rw [if_neg ‹_›, none, wait_zero awake.waiting awake.counter]
  rw [direct]
  unfold waitFrames
  split
  · exact ⟨.goesOn, rfl, rfl⟩
  · exact ⟨awake.lingers_wait _, rfl, rfl⟩

/-- What is animated or faded holds a run up in one of two worlds at most. -/
private theorem waitForCompletion_paces {after other : World} {duration : Nat} {requested : Bool}
    (stays : (activation.waitForCompletion after duration requested).isWaiting = false)
    (same : other.unpaced = after.unpaced) :
    Outcome.Paces
      { activation := activation.waitForCompletion after duration requested, world := after }
      { activation := activation.waitForCompletion other duration requested, world := other } := by
  have direct : activation.waitForCompletion after duration requested = activation := by
    unfold waitForCompletion at stays ⊢
    split at stays
    · cases stays
    · rw [if_neg ‹_›]
  refine ⟨?_, same, rfl⟩
  show (activation.waitForCompletion after duration requested).Lingers
    (activation.waitForCompletion other duration requested)
  rw [direct]
  unfold waitForCompletion
  split
  · rename_i holds
    simp only [Bool.and_eq_true, bne_iff_ne] at holds
    have positive : 0 < duration := Nat.pos_of_ne_zero holds.1.2
    have waits : { activation with isWaiting := true, waitCounter := duration } =
        activation.wait duration := by
      simp [wait, positive]
    rw [waits]
    exact .counts positive
  · exact .goesOn

private theorem animateObject_paces {kind : ObjectKind} {slot : Nat} {timing : Timing}
    {animation : Animation}
    (stays : (activation.animateObject world kind slot timing animation).activation.isWaiting =
      false) :
    (activation.animateObject world kind slot timing animation).Paces
      (activation.animateObject (world.withPace skip content) kind slot timing animation) := by
  have stage : (world.withPace skip content).stage = world.stage := rfl
  unfold animateObject at stays ⊢
  rw [stage]
  split at stays
  · exact ⟨.goesOn, rfl, rfl⟩
  · exact waitForCompletion_paces stays rfl

private theorem eraseObject_paces {kind : ObjectKind} {slot : Nat} {timing : Timing}
    (stays : (activation.eraseObject world kind slot timing).activation.isWaiting = false) :
    (activation.eraseObject world kind slot timing).Paces
      (activation.eraseObject (world.withPace skip content) kind slot timing) := by
  unfold eraseObject at stays ⊢
  dsimp only at stays ⊢
  split at stays
  · rename_i atOnce
    obtain ⟨lingers, same, callee⟩ := @animateObject_paces _ _ skip content _ _ _ _ stays
    rw [if_pos atOnce, if_pos atOnce]
    refine ⟨lingers, ?_, callee⟩
    exact congrArg (fun world => { world with stage := world.stage.remove kind slot }) same
  · rename_i slowly
    rw [if_neg slowly, if_neg slowly]
    exact animateObject_paces stays

private theorem actOnObject_paces {kind : ObjectKind} {slot : Operand} {timing : Timing}
    {action : ObjectAction}
    (stays : (activation.actOnObject world kind slot timing action).activation.isWaiting = false) :
    (activation.actOnObject world kind slot timing action).Paces
      (activation.actOnObject (world.withPace skip content) kind slot timing action) := by
  cases action with
  | appear graphic x y => exact waitForCompletion_paces stays rfl
  | erase => exact eraseObject_paces stays
  | _ => exact animateObject_paces stays

/-- A line is shown at every pace, and at most what the run does next and how long the line
stays differ. -/
private theorem showMessage_shows {text : Operand} {character : Option String}
    {wait : Option Bool} (free : activation.isLockedOut world = false) :
    ((activation.showMessage world text character wait).activation = activation ∨
        (activation.showMessage world text character wait).activation =
          activation.waitUntil .message) ∧
      (activation.showMessage world text character wait).world.unpaced =
        World.unpaced { world with
          box := world.box.present
            (.line character (text.text world.store activation.context)) } ∧
      (activation.showMessage world text character wait).callee = none := by
  unfold showMessage
  rw [free]
  dsimp only
  rw [if_neg Bool.false_ne_true]
  split
  · refine ⟨.inl rfl, ?_, rfl⟩
    split
    · exact World.eraseBox_unpaced _
    · rfl
  · split
    · exact ⟨.inr rfl, rfl, rfl⟩
    · exact ⟨.inl rfl, rfl, rfl⟩

private theorem showMessage_paces {text : Operand} {character : Option String}
    {wait : Option Bool}
    (stays : (activation.showMessage world text character wait).activation.isWaiting = false) :
    (activation.showMessage world text character wait).Paces
      (activation.showMessage (world.withPace skip content) text character wait) := by
  cases locked : activation.isLockedOut world with
  | true =>
      have lockedToo : activation.isLockedOut (world.withPace skip content) = true := locked
      unfold showMessage
      rw [if_pos locked, if_pos lockedToo]
      exact ⟨.goesOn, rfl, rfl⟩
  | false =>
      obtain ⟨direct, shown, alone⟩ := @showMessage_shows _ _ text character wait locked
      obtain ⟨paced, shownToo, aloneToo⟩ :=
        @showMessage_shows _ (world.withPace skip content) text character wait locked
      have goesOn : (activation.showMessage world text character wait).activation =
          activation := by
        rcases direct with goesOn | waits
        · exact goesOn
        · rw [waits] at stays
          cases stays
      refine ⟨?_, shownToo.trans shown.symm, aloneToo.trans alone.symm⟩
      rw [goesOn]
      rcases paced with same | waits
      · rw [same]
        exact .goesOn
      · rw [waits]
        exact .reads

variable (activation world skip content)

private theorem showChoices_paces (choices : List ChoiceEntry) (target : Option VariableRef) :
    (activation.showChoices world choices target).Paces
      (activation.showChoices (world.withPace skip content) choices target) := by
  have locked : activation.isLockedOut (world.withPace skip content) =
      activation.isLockedOut world := rfl
  unfold showChoices
  rw [locked]
  split
  · exact ⟨.goesOn, rfl, rfl⟩
  · exact ⟨.goesOn, rfl, rfl⟩

private theorem openPrompt_paces (target : VariableRef) (prompt : Content) :
    (activation.openPrompt world target prompt).Paces
      (activation.openPrompt (world.withPace skip content) target prompt) := by
  have locked : (world.withPace skip content).box.isLockedAgainst activation.context
      activation.callers = world.box.isLockedAgainst activation.context activation.callers := rfl
  unfold openPrompt MessageBox.lock?
  rw [locked]
  cases world.box.isLockedAgainst activation.context activation.callers with
  | true => exact ⟨.goesOn, rfl, rfl⟩
  | false =>
      refine ⟨.goesOn, ?_, rfl⟩
      cases prompt <;> rfl

private theorem eraseMessage_paces :
    (activation.eraseMessage world).Paces
      (activation.eraseMessage (world.withPace skip content)) := by
  refine ⟨.goesOn, ?_, rfl⟩
  show ((world.withPace skip content).releaseBox activation.context).eraseBox.unpaced =
    (world.releaseBox activation.context).eraseBox.unpaced
  rw [World.eraseBox_unpaced, World.eraseBox_unpaced, World.releaseBox_unpaced,
    World.releaseBox_unpaced]
  rfl

end Timed

/-! ## All instructions -/

variable {activation : Activation}

/-- An instruction that does not hold up an awake run in one world holds it up for a while at
most in a world of another pace, and does the same otherwise. A run that calls a script may
be held up. -/
theorem perform_withPace (awake : activation.IsAwake) (world : World) (skip : Skip)
    (content : Option Content) (id : String) (instruction : Instruction)
    (stays : (activation.perform world id instruction).callee = none →
      (activation.perform world id instruction).activation.isWaiting = false) :
    (activation.perform world id instruction).Paces
      (activation.perform (world.withPace skip content) id instruction) := by
  cases instruction with
  | conditionElseIf test =>
      exact .of_withPace (testElseIf_withPace activation world skip content id test)
  | jumpToLabel name =>
      exact .of_withPace (followJump_withPace activation world skip content id name)
  | wait time =>
      apply waitFrames_paces awake
      apply stays
      simp only [perform, waitFrames]
      split <;> rfl
  | callEvent event parameters wait =>
      exact .of_withPace (callEvent_withPace activation world skip content event parameters wait)
  | callScene uid => exact .of_withPace (callScene_withPace activation world skip content uid)
  | changeNumbers change =>
      exact .of_withPace (changeNumbers_withPace activation world skip content change)
  | changeTexts change =>
      exact .of_withPace (changeTexts_withPace activation world skip content change)
  | changeBooleans change =>
      refine .of_withPace (changeSlots_withPace activation world skip content ?_ change.range)
      intro slot world
      rfl
  | changeLists change =>
      exact .of_withPace (changeLists_withPace activation world skip content change)
  | showMessage text character wait =>
      apply showMessage_paces
      apply stays
      simp only [perform, showMessage]
      split
      · rfl
      · split
        · rfl
        · split <;> rfl
  | showChoices choices target => exact showChoices_paces activation world skip content _ _
  | inputNumber target digits => exact openPrompt_paces activation world skip content _ _
  | inputText target letters => exact openPrompt_paces activation world skip content _ _
  | eraseMessage => exact eraseMessage_paces activation world skip content
  | stopMusic channel fadeOut wait => exact waitForCompletion_paces (stays rfl) rfl
  | snippet source => exact .of_withPace (runSnippet_withPace activation world skip content source)
  | object kind slot timing action =>
      apply actOnObject_paces
      apply stays
      have alone (animation : Animation) (slot : Nat) :
          (activation.animateObject world kind slot timing animation).callee = none := by
        unfold animateObject
        split <;> rfl
      cases action with
      | appear graphic x y => rfl
      | erase =>
          simp only [perform, actOnObject, eraseObject]
          split <;> exact alone _ _
      | _ => exact alone _ _
  | shakeScreen range speed timing => exact waitForCompletion_paces (stays rfl) rfl
  | _ => exact ⟨.goesOn, rfl, rfl⟩

/-- The same in any two worlds that differ in their pace only, for an instruction that
addresses no temporary variable. -/
theorem perform_paces (awake : activation.IsAwake) {world other : World}
    (same : other.unpaced = world.unpaced) {id : String} {instruction : Instruction}
    (avoids : instruction.avoidsTemporaries = true)
    (stays : (activation.perform world id instruction).callee = none →
      (activation.perform world id instruction).activation.isWaiting = false) :
    (activation.perform world id instruction).Paces
      (activation.perform other id instruction) := by
  have direct := activation.perform_timeless world id avoids
  have paced := activation.perform_timeless other id avoids
  rw [World.timeless_of_unpaced same] at paced
  have paces := perform_withPace awake world.timeless other.skip other.box.content id instruction
    (direct ▸ stays)
  rw [direct, paced] at paces
  exact ⟨paces.activation, paces.world, paces.callee⟩

end Activation

end NovelEngine
